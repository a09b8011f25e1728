/-! # Physical lines -/

namespace Rulebook.Text

/-- The lines of a text. A line feed ends a line, together with one carriage return directly before
it. A text that does not end in a line feed has an unfinished last line, kept as it stands. -/
def physicalLines : List Char → List (List Char)
  | [] => []
  | '\n' :: rest => [] :: physicalLines rest
  | '\r' :: '\n' :: rest => [] :: physicalLines rest
  | c :: rest =>
    match physicalLines rest with
    | [] => [[c]]
    | line :: lines => (c :: line) :: lines

@[simp] theorem physicalLines_nil : physicalLines [] = [] := rfl

@[simp] theorem physicalLines_newline (rest : List Char) :
    physicalLines ('\n' :: rest) = [] :: physicalLines rest := by
  simp [physicalLines]

/-- A line without carriage returns comes back from the text it starts. -/
theorem physicalLines_line {line : List Char} (newline : '\n' ∉ line) (carriage : '\r' ∉ line)
    (rest : List Char) :
    physicalLines (line ++ '\n' :: rest) = line :: physicalLines rest := by
  induction line with
  | nil => simp
  | cons c line ih =>
    simp only [List.mem_cons, not_or] at newline carriage
    have step := ih newline.2 carriage.2
    rw [List.cons_append, physicalLines]
    · rw [step]
    · exact fun h => newline.1 h.symm
    · exact fun _ h _ => carriage.1 h.symm

end Rulebook.Text
