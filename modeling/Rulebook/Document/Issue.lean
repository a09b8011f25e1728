import Rulebook.Document

/-! # Lines that are no destination lines -/

namespace Rulebook

/-- A line of a document text that yields no destination line. Lines are counted from one. -/
inductive Issue where
  /-- Only commas, under a header. -/
  | noDestination (line : Nat) (source : String)
  /-- A destination alone. -/
  | noPorts (line : Nat) (source destination : String)
  /-- A line before the first header. -/
  | noHeader (line : Nat) (content : String)
deriving DecidableEq, Repr

namespace Issue

def line : Issue → Nat
  | noDestination line _ | noPorts line _ _ | noHeader line _ => line

/-- A fatal issue keeps the whole document from being flattened. -/
def isFatal : Issue → Bool
  | noDestination .. => false
  | noPorts .. | noHeader .. => true

def message : Issue → String
  | noDestination line source => s!"line {line}: invalid destination for stanza '{source}'"
  | noPorts line source destination =>
    s!"line {line}: no port for rule '{source}' -> '{destination}'"
  | noHeader line content =>
    s!"line {line}: destination '{content}' appears before any [source] header"

/-- The same issue some lines further down. -/
def shift (count : Nat) : Issue → Issue
  | noDestination line source => noDestination (line + count) source
  | noPorts line source destination => noPorts (line + count) source destination
  | noHeader line content => noHeader (line + count) content

@[simp] theorem line_shift (count : Nat) (issue : Issue) :
    (issue.shift count).line = issue.line + count := by
  cases issue <;> rfl

@[simp] theorem isFatal_shift (count : Nat) (issue : Issue) :
    (issue.shift count).isFatal = issue.isFatal := by
  cases issue <;> rfl

theorem shift_comp_shift (count further : Nat) :
    shift further ∘ shift count = shift (count + further) := by
  funext issue
  cases issue <;> simp [shift, Nat.add_assoc]

end Issue

end Rulebook
