import Rulebook.Document
import Rulebook.Text.Blank

/-! # Expanding value lists into a document -/

namespace Rulebook

/-- The three value lists whose combinations are allowed. -/
structure ValueLists where
  sources : List String
  destinations : List String
  ports : List String
deriving DecidableEq, Repr

/-- A destination that would be read back as a comment, as nothing, or without its blanks. -/
def isAmbiguous (destination : String) : Bool :=
  let text := destination.toList
  text.isEmpty || text.head? == some '#' || text.any Text.isBlank

namespace ValueLists

/-- The destination lines under every source. Without ports there are none. -/
def destinationLines (lists : ValueLists) : List DestinationLine :=
  if lists.ports.isEmpty then [] else lists.destinations.map fun name => ⟨name, lists.ports⟩

/-- One stanza for each source, all with the same destination lines. -/
def expand (lists : ValueLists) : Document :=
  ⟨lists.sources.map fun source => ⟨source, lists.destinationLines⟩⟩

/-- Destinations are given, but no port to open there. -/
def lacksPorts (lists : ValueLists) : Bool :=
  lists.ports.isEmpty && !lists.destinations.isEmpty

def ambiguousDestinations (lists : ValueLists) : List String :=
  lists.destinations.filter isAmbiguous

@[simp] theorem length_stanzas_expand (lists : ValueLists) :
    lists.expand.stanzas.length = lists.sources.length := by
  simp [expand]

end ValueLists

end Rulebook
