import Rulebook.Logging.Line
import Rulebook.Program

/-! # The executable

Runs `expand` or `flatten`, named by the first argument, on the real disk.
-/

namespace Rulebook

/-- The fault that an error of the operating system stands for. -/
def AccessFault.ofError (error : IO.Error) : AccessFault :=
  match error with
  | .noFileOrDirectory .. => .notFound
  | .alreadyExists .. => .alreadyExists
  | .inappropriateType _ code _ => if code = 21 then .isADirectory else .notADirectory
  | .invalidArgument _ code _ => if code = 36 then .nameTooLong else .nulInName
  | .permissionDenied .. => .stated .permissionDenied error.toString
  | _ => .stated .other error.toString

def readOnDisk (path : String) : IO (Except AccessFault String) := do
  try
    return (Text.Utf8.decode (← IO.FS.readBinFile path)).mapError fun _ => .notUtf8
  catch error => return .error (.ofError error)

def writeOnDisk (path : String) (data : ByteArray) : IO (Except AccessFault Unit) := do
  try
    let parent := String.ofList (Path.parentText path)
    if !parent.isEmpty then
      IO.FS.createDirAll parent
    IO.FS.writeBinFile path data
    return .ok ()
  catch error => return .error (.ofError error)

/-- Carries an action out on the real disk. -/
def Action.perform {α : Type} : Action α → IO (Except Failure α × List Event)
  | done value => return (.ok value, [])
  | fail failure => return (.error failure, [])
  | report event rest => do
    let (result, events) ← rest.perform
    return (result, event :: events)
  | readFile path rest => do (rest (← readOnDisk path)).perform
  | writeFile path data rest => do (rest (← writeOnDisk path data)).perform

/-- The values of the variables of these names. -/
def lookUp (names : List String) : IO Substitution.Environment := do
  let bindings ← names.filterMapM fun name => return (← IO.getEnv name).map fun value => (name, value)
  return fun name => bindings.lookup name

def loadDefaultsFile (path : String) : IO (Except Failure DefaultsFile) := do
  match ← readOnDisk path with
  | .error fault => return .error (.access path fault)
  | .ok content =>
    return DefaultsFile.ofText (← lookUp (Substitution.names content.toList)) content

def Display.print (command : Command) : Display → IO Unit
  | .nothing => return
  | .help => do
    IO.println s!"Usage: {command.name} [options]"
    for switch in command.switches do
      let letter := match switch.letter? with
        | some letter => s!"-{letter}, "
        | none => "    "
      IO.println s!"  {letter}--{switch.name}  {switch.key.name}"
  | .log format events => do
    for event in events do
      IO.println (format.line event)

/-- Runs a command with its arguments, the name of the program first. -/
def Command.execute (command : Command) (arguments : List String) : IO UInt32 := do
  match Invocation.read command arguments with
  | .error .helpWanted =>
    Display.help.print command
    return 0
  | .error fault =>
    IO.eprint fault.message
    return UInt32.ofNat fault.exitCode
  | .ok invocation =>
    let file ← match invocation.common.config with
      | none => pure (Except.ok none)
      | some path => pure ((← loadDefaultsFile path).map some)
    match file.bind fun file => (invocation.common.logging file).map fun logging => (file, logging) with
    | .error failure =>
      IO.eprint failure.notice
      return 1
    | .ok (file, logging) =>
      let (result, events) ← (invocation.body file).perform
      let environment ← lookUp [Program.filterVariable]
      (Program.log environment logging command events result).print command
      IO.eprint (command.errorText result)
      return UInt32.ofNat (Program.exitCode result)

end Rulebook

def main (arguments : List String) : IO UInt32 := do
  match arguments with
  | "expand" :: _ => Rulebook.Command.expand.execute arguments
  | "flatten" :: _ => Rulebook.Command.flatten.execute arguments
  | _ =>
    IO.eprintln "Usage: expand | flatten [options]"
    return 2
