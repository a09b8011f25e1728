/-! # Stanza documents

A document groups destinations under sources. `Document.rules` lists the rules it stands for, one
per source, destination and port, and `Document.render` writes it as text.
-/

namespace Rulebook

/-- One allowed flow. -/
structure Rule where
  source : String
  destination : String
  port : String
deriving DecidableEq, Repr

/-- One line of a stanza: a destination and the ports that are open there. -/
structure DestinationLine where
  destination : String
  ports : List String
deriving DecidableEq, Repr

/-- A source with its destination lines. -/
structure Stanza where
  source : String
  destinations : List DestinationLine
deriving DecidableEq, Repr

structure Document where
  stanzas : List Stanza
deriving DecidableEq, Repr

namespace Rule

/-- The three fields joined by commas, as they are. -/
def text (rule : Rule) : String :=
  rule.source ++ "," ++ rule.destination ++ "," ++ rule.port

end Rule

namespace DestinationLine

/-- The destination and its ports joined by commas. -/
def text (line : DestinationLine) : String :=
  ",".intercalate (line.destination :: line.ports)

def rules (source : String) (line : DestinationLine) : List Rule :=
  line.ports.map fun port => ⟨source, line.destination, port⟩

@[simp] theorem length_rules (source : String) (line : DestinationLine) :
    (line.rules source).length = line.ports.length := by
  simp [rules]

end DestinationLine

namespace Stanza

/-- The stanza with one more line at its end. -/
def add (stanza : Stanza) (line : DestinationLine) : Stanza :=
  { stanza with destinations := stanza.destinations ++ [line] }

def header (stanza : Stanza) : String :=
  "[" ++ stanza.source ++ "]"

def rules (stanza : Stanza) : List Rule :=
  stanza.destinations.flatMap fun line => line.rules stanza.source

def ruleCount (stanza : Stanza) : Nat :=
  stanza.destinations.foldr (fun line count => line.ports.length + count) 0

/-- The header and the destination lines, each ended by a line feed. -/
def render (stanza : Stanza) : String :=
  stanza.header ++ "\n" ++ String.join (stanza.destinations.map fun line => line.text ++ "\n")

@[simp] theorem length_rules (stanza : Stanza) : stanza.rules.length = stanza.ruleCount := by
  simp [rules, ruleCount, List.length_flatMap, List.sum_eq_foldr, List.foldr_map]

end Stanza

namespace Document

/-- All rules, in document order. -/
def rules (document : Document) : List Rule :=
  document.stanzas.flatMap Stanza.rules

def ruleCount (document : Document) : Nat :=
  document.stanzas.foldr (fun stanza count => stanza.ruleCount + count) 0

def render (document : Document) : String :=
  String.join (document.stanzas.map Stanza.render)

@[simp] theorem length_rules (document : Document) :
    document.rules.length = document.ruleCount := by
  simp [rules, ruleCount, List.length_flatMap, List.sum_eq_foldr, List.foldr_map]

end Document

/-- The rules as a file: one line each, never quoted. -/
def ruleList (rules : List Rule) : String :=
  String.join (rules.map fun rule => rule.text ++ "\n")

end Rulebook
