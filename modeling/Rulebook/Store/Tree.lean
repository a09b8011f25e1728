import Rulebook.Action
import Rulebook.Store.Path

/-! # Files in directories

A tree of directories and files, without links. Its root is both where relative paths start and
where absolute ones do. `Tree.read` and `Tree.write` walk a path step by step, and each step has to
start from a directory.
-/

namespace Rulebook

inductive Entry where
  | file (data : ByteArray)
  | directory

/-- The names from the root down to an entry. -/
abbrev Location := List String

/-- The entries below the root, in order of their creation. -/
structure Tree where
  entries : List (Location × Entry)

namespace Tree

def empty : Tree :=
  ⟨[]⟩

instance : EmptyCollection Tree := ⟨empty⟩

def entry? (tree : Tree) (location : Location) : Option Entry :=
  if location = [] then some .directory else tree.entries.lookup location

def isDirectory (tree : Tree) (location : Location) : Bool :=
  match tree.entry? location with
  | some .directory => true
  | _ => false

/-- The bytes of the file at a location. -/
def file? (tree : Tree) (location : Location) : Option ByteArray :=
  match tree.entry? location with
  | some (.file data) => some data
  | _ => none

/-- Puts an entry in place of the one at its location, or at the end. -/
def put (tree : Tree) (location : Location) (entry : Entry) : Tree :=
  if (tree.entries.lookup location).isSome then
    ⟨tree.entries.map fun old => if old.1 = location then (location, entry) else old⟩
  else ⟨tree.entries ++ [(location, entry)]⟩

/-- A name has at most 255 bytes. -/
def maxNameWidth : Nat := 255

/-- A path has fewer than 4096 bytes. -/
def maxPathWidth : Nat := 4096

/-! ## Walking -/

def step (tree : Tree) (place : Location) (step : Step) : Except AccessFault Location :=
  if tree.isDirectory place then
    match step with
    | .here => .ok place
    | .up => .ok place.dropLast
    | .name text =>
      if maxNameWidth < text.utf8ByteSize then .error .nameTooLong
      else if (tree.entry? (place ++ [text])).isNone then .error .notFound
      else .ok (place ++ [text])
  else .error .notADirectory

def walk (tree : Tree) (place : Location) : List Step → Except AccessFault Location
  | [] => .ok place
  | first :: rest =>
    match tree.step place first with
    | .ok next => tree.walk next rest
    | .error fault => .error fault

/-- The steps lead to a directory. -/
def reachesDirectory (tree : Tree) (steps : List Step) : Bool :=
  match tree.walk [] steps with
  | .ok place => tree.isDirectory place
  | .error _ => false

/-- Where the last of the steps would put a new entry: the directory before it and what it does. -/
def approach (tree : Tree) (steps : List Step) : Except AccessFault (Location × Option Step) :=
  match tree.walk [] steps.dropLast with
  | .ok place => if tree.isDirectory place then .ok (place, steps.getLast?) else .error .notADirectory
  | .error fault => .error fault

/-! ## Creating directories -/

/-- Creates the directory that the steps lead to. The one above it has to exist. -/
def makeDirectory (tree : Tree) (steps : List Step) : Except AccessFault Tree :=
  match tree.approach steps with
  | .error fault => .error fault
  | .ok (place, some (.name text)) =>
    if maxNameWidth < text.utf8ByteSize then .error .nameTooLong
    else if (tree.entry? (place ++ [text])).isSome then .error .alreadyExists
    else .ok (tree.put (place ++ [text]) .directory)
  | .ok _ => .error .alreadyExists

/-- Creates the directory that the steps lead to, unless it is there already. -/
def settleDirectory (tree : Tree) (steps : List Step) : Except AccessFault Unit × Tree :=
  match tree.makeDirectory steps with
  | .ok made => (.ok (), made)
  | .error fault => if tree.reachesDirectory steps then (.ok (), tree) else (.error fault, tree)

/-- Creates a directory and all that are missing above it. The steps are listed from the last one
up, and shorter paths are tried only where the longer one is missing. -/
def ensureDirectory (tree : Tree) : List Step → Except AccessFault Unit × Tree
  | [] => (.ok (), tree)
  | last :: above =>
    match tree.makeDirectory (above.reverse ++ [last]) with
    | .error .notFound =>
      match tree.ensureDirectory above with
      | (.ok (), grown) => grown.settleDirectory (above.reverse ++ [last])
      | failed => failed
    | _ => tree.settleDirectory (above.reverse ++ [last])

/-! ## Files -/

/-- A path that cannot even be looked up. -/
def pathFault? (text : String) : Option AccessFault :=
  if containsNul text then some .nulInName
  else if maxPathWidth ≤ text.utf8ByteSize then some .nameTooLong
  else if text.isEmpty then some .notFound
  else none

/-- The location that a path denotes. -/
def locate (tree : Tree) (text : String) : Except AccessFault Location :=
  match pathFault? text with
  | some fault => .error fault
  | none => tree.walk [] (Path.ofText text).steps

def read (tree : Tree) (text : String) : Except AccessFault String :=
  match tree.locate text with
  | .error fault => .error fault
  | .ok place =>
    match tree.file? place with
    | none => .error .isADirectory
    | some data =>
      if (Path.ofText text).isSlashed then .error .notADirectory
      else (Text.Utf8.decode data).mapError fun _ => .notUtf8

/-- Where writing to a path puts its file. -/
def target (tree : Tree) (text : String) : Except AccessFault Location :=
  match pathFault? text with
  | some fault => .error fault
  | none =>
    match tree.approach (Path.ofText text).steps with
    | .error fault => .error fault
    | .ok (place, some (.name name)) =>
      if (Path.ofText text).isSlashed then .error .isADirectory
      else if maxNameWidth < name.utf8ByteSize then .error .nameTooLong
      else if tree.isDirectory (place ++ [name]) then .error .isADirectory
      else .ok (place ++ [name])
    | .ok _ => .error .isADirectory

/-- Creates the directories that a path needs above its file. -/
def prepare (tree : Tree) (text : String) : Except AccessFault Unit × Tree :=
  let parent := Path.parentText text
  if parent.contains '\x00' then (.error .nulInName, tree)
  else if maxPathWidth ≤ (String.ofList parent).utf8ByteSize then (.error .nameTooLong, tree)
  else tree.ensureDirectory (Path.ofText text).parent.reverse

/-- Writes a file and creates the directories above it. Directories created before a failure
stay. -/
def write (tree : Tree) (text : String) (data : ByteArray) : Except AccessFault Unit × Tree :=
  match tree.prepare text with
  | (.error fault, grown) => (.error fault, grown)
  | (.ok (), grown) =>
    match grown.target text with
    | .error fault => (.error fault, grown)
    | .ok place => (.ok (), grown.put place (.file data))

end Tree

/-- A tree in which relative paths start from a base directory. -/
structure Disk where
  base : String
  tree : Tree

namespace Disk

instance : Store Disk where
  read disk path := disk.tree.read (Path.join disk.base path)
  write disk path data :=
    match disk.tree.write (Path.join disk.base path) data with
    | (answer, tree) => (answer, { disk with tree })

end Disk

end Rulebook
