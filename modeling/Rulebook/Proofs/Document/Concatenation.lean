import Rulebook.Proofs.Document.RoundTrip

/-!
# Reading on

All that a scan remembers of the lines it has read is the source of the last stanza and the number
of lines.  So a text that follows whole lines is read as if it stood alone under the header of that
source, only with later line numbers.  Nothing that was read before is taken back: the last stanza
may get more destination lines, and everything else is final.
-/

namespace Rulebook

namespace Passage

/-- The same passage some lines further down. -/
def shift (count : Nat) (passage : Passage) : Passage :=
  { passage with issues := passage.issues.map (Issue.shift count) }

/-- Line numbers show in the issues, and nowhere else. -/
theorem ofLines_add (source : Option String) (number count : Nat) (lines : List (List Char)) :
    ofLines source (number + count) lines = (ofLines source number lines).shift count := by
  induction source, number, lines using ofLines_induction with
  | nil => rfl
  | skipped source number line rest kind ih =>
    rw [ofLines_skipped kind, ofLines_skipped kind, Nat.add_right_comm, ih]
  | header source number line rest label kind ih =>
    rw [ofLines_header kind, ofLines_header kind, Nat.add_right_comm, ih]
    rfl
  | noHeader number line rest tokens kind ih =>
    rw [ofLines_noHeader kind, ofLines_noHeader kind, Nat.add_right_comm, ih]
    rfl
  | noDestination source number line rest kind ih =>
    rw [ofLines_noDestination kind, ofLines_noDestination kind, Nat.add_right_comm, ih]
    rfl
  | noPorts source number line rest name kind ih =>
    rw [ofLines_noPorts kind, ofLines_noPorts kind, Nat.add_right_comm, ih]
    rfl
  | destination source number line rest name port ports kind ih =>
    rw [ofLines_destination kind, ofLines_destination kind, Nat.add_right_comm, ih]
    rfl

end Passage

namespace Scan

theorem read_append (scan : Scan) (number : Nat) (lines rest : List (List Char)) :
    scan.read number (lines ++ rest) =
      (scan.read number lines).read (number + lines.length) rest := by
  rw [read, List.zipIdx_append, List.foldl_append]
  rfl

/-- The open stanza is known from the stanzas alone. -/
theorem AtLast.source?_eq {scan : Scan} (h : scan.AtLast) :
    scan.source? = scan.stanzas.toList.getLast?.map Stanza.source := by
  cases current : scan.current with
  | none =>
    have empty : scan.stanzas.toList = [] := by
      rcases List.eq_nil_or_concat scan.stanzas.toList with none | ⟨closed, last, some⟩
      · exact none
      · have size : closed.length + 1 = scan.stanzas.size := by
          simpa using (congrArg List.length some).symm
        simpa [current] using (h closed.length).2 size
    rw [source?_eq_none_iff.2 current, empty]
    rfl
  | some index =>
    have last : scan.stanzas.size - 1 = index := by
      have size : (index : Nat) + 1 = scan.stanzas.size := (h index).1 (by simp [current])
      omega
    have found : scan.stanzas.toList.getLast? = some scan.stanzas[index] := by
      rw [List.getLast?_eq_getElem?, Array.length_toList, last, Array.getElem?_toList]
      exact Array.getElem?_eq_getElem index.isLt
    rw [found, source?, current]
    rfl

end Scan

namespace Report

/-- The source of the last stanza, under which further lines are read. -/
def openSource? (report : Report) : Option String :=
  report.document.stanzas.getLast?.map Stanza.source

/-- What a passage adds to a report: destination lines for the last stanza, and the rest at the
end. -/
structure Adds (earlier : Report) (passage : Passage) (report : Report) : Prop where
  stanzas : report.document.stanzas =
    resume earlier.document.stanzas passage.continued ++ passage.stanzas
  issues : report.issues = earlier.issues ++ passage.issues

theorem adds_ofLines (lines rest : List (List Char)) :
    (ofLines lines).Adds
      ((Passage.ofLines (ofLines lines).openSource? 1 rest).shift lines.length)
      (ofLines (lines ++ rest)) := by
  have last : (Scan.start.read 1 lines).AtLast := Scan.atLast_start.read 1 lines
  have source : (Scan.start.read 1 lines).source? = (ofLines lines).openSource? := last.source?_eq
  obtain ⟨stanzas, issues, -⟩ := Scan.read_passage last (1 + lines.length) rest
  rw [source, Passage.ofLines_add] at stanzas issues
  rw [ofLines, ofLines, Scan.read_append]
  exact ⟨stanzas, issues⟩

/-- A header opens its stanza, and the lines below continue it. -/
theorem ofText_header_append {stanza : Stanza} (isLabel : IsLabel stanza.source)
    (content : String) :
    let below := Passage.ofLines (some stanza.source) 1 (Text.physicalLines content.toList)
    (ofText (stanza.header ++ "\n" ++ content)).document.stanzas =
        ⟨stanza.source, below.continued⟩ :: below.stanzas ∧
      (ofText (stanza.header ++ "\n" ++ content)).issues = below.issues.map (.shift 1) := by
  have blankFree := Stanza.blankFree_header isLabel
  have lines : Text.physicalLines (stanza.header ++ "\n" ++ content).toList =
      stanza.header.toList :: Text.physicalLines content.toList := by
    rw [String.toList_append, String.toList_append, List.append_assoc]
    refine Text.physicalLines_line (fun newline ↦ ?_) (fun carriage ↦ ?_) _
    · simpa using blankFree _ newline
    · simpa using blankFree _ carriage
  have header := Stanza.ofLine_header isLabel
  rw [ofText, lines, stanzas_ofLines, issues_ofLines, Passage.ofLines_header header,
    Passage.ofLines_add]
  exact ⟨rfl, rfl⟩

section Append

variable {earlier : String} (whole : Text.IsWhole earlier.toList) (later : String)
include whole

theorem adds_ofText :
    (ofText earlier).Adds
      ((Passage.ofLines (ofText earlier).openSource? 1 (Text.physicalLines later.toList)).shift
        (Text.physicalLines earlier.toList).length)
      (ofText (earlier ++ later)) := by
  have lines : Text.physicalLines (earlier ++ later).toList =
      Text.physicalLines earlier.toList ++ Text.physicalLines later.toList := by
    rw [String.toList_append, Text.physicalLines_append whole]
  rw [ofText, ofText, lines]
  exact adds_ofLines _ _

/-- Without a stanza before it, a text is read as if it stood alone. -/
theorem ofText_append_of_nil (empty : (ofText earlier).document.stanzas = []) :
    (ofText (earlier ++ later)).document = (ofText later).document ∧
      (ofText (earlier ++ later)).issues = (ofText earlier).issues ++
        (ofText later).issues.map (.shift (Text.physicalLines earlier.toList).length) := by
  obtain ⟨stanzas, issues⟩ := adds_ofText whole later
  have closed : (ofText earlier).openSource? = none := by
    rw [openSource?, empty]
    rfl
  rw [closed] at stanzas issues
  rw [empty, resume_empty, List.nil_append] at stanzas
  constructor
  · exact congrArg Document.mk (stanzas.trans (stanzas_ofLines _).symm)
  · rw [issues, ofText, ofText, issues_ofLines (Text.physicalLines later.toList)]
    rfl

/-- After a stanza, a text is read as if it stood alone under the header of that stanza. -/
theorem ofText_append_of_concat {closed : List Stanza} {last : Stanza}
    (split : (ofText earlier).document.stanzas = closed ++ [last]) :
    ∃ first more, (ofText (last.header ++ "\n" ++ later)).document.stanzas = first :: more ∧
      (ofText (earlier ++ later)).document.stanzas =
        closed ++ last.addAll first.destinations :: more ∧
      (ofText (earlier ++ later)).issues = (ofText earlier).issues ++
        (ofText (last.header ++ "\n" ++ later)).issues.map
          (.shift ((Text.physicalLines earlier.toList).length - 1)) := by
  obtain ⟨stanzas, issues⟩ := adds_ofText whole later
  have source : (ofText earlier).openSource? = some last.source := by
    rw [openSource?, split, List.getLast?_concat]
    rfl
  have isLabel : IsLabel last.source := by
    have sound : (ofText earlier).document.IsSound := isSound_ofLines _
    exact (sound last (by simp [split])).source
  obtain ⟨resumed, found⟩ := ofText_header_append isLabel later
  rw [source] at stanzas issues
  refine ⟨_, _, resumed, ?_, ?_⟩
  · rw [stanzas, split, resume_concat, List.append_assoc]
    rfl
  · -- The header stands among the lines before, so it may be counted as one of them.
    have counted : 1 + ((Text.physicalLines earlier.toList).length - 1) =
        (Text.physicalLines earlier.toList).length := by
      have nonempty : Text.physicalLines earlier.toList ≠ [] := by
        intro none
        rw [ofText, none] at split
        exact List.append_ne_nil_of_right_ne_nil closed (List.cons_ne_nil last []) split.symm
      have positive := List.length_pos_iff.2 nonempty
      omega
    rw [issues, found, List.map_map, Issue.shift_comp_shift, counted]
    rfl

end Append

/-- The report of more text: the last stanza may have more destination lines, and all that is new
comes after what was there. -/
structure Extends (report earlier : Report) : Prop where
  stanzas : ∃ lines more, report.document.stanzas = resume earlier.document.stanzas lines ++ more
  issues : ∃ more, report.issues = earlier.issues ++ more

/-- A text that follows whole lines is read as if it stood alone, under the header of the last
stanza before it if there is one, with later line numbers. What was read before stays as it is. -/
theorem ofText_append {earlier : String} (whole : Text.IsWhole earlier.toList) (later : String) :
    let count := (Text.physicalLines earlier.toList).length
    ((ofText earlier).document.stanzas = [] →
      (ofText (earlier ++ later)).document = (ofText later).document ∧
        (ofText (earlier ++ later)).issues =
          (ofText earlier).issues ++ (ofText later).issues.map (.shift count)) ∧
    (∀ closed last, (ofText earlier).document.stanzas = closed ++ [last] →
      ∃ first more, (ofText (last.header ++ "\n" ++ later)).document.stanzas = first :: more ∧
        (ofText (earlier ++ later)).document.stanzas =
          closed ++ last.addAll first.destinations :: more ∧
        (ofText (earlier ++ later)).issues = (ofText earlier).issues ++
          (ofText (last.header ++ "\n" ++ later)).issues.map (.shift (count - 1))) ∧
    (ofText (earlier ++ later)).Extends (ofText earlier) := by
  intro count
  refine ⟨ofText_append_of_nil whole later, fun closed last split ↦ ?_, ?_⟩
  · exact ofText_append_of_concat whole later split
  · obtain ⟨stanzas, issues⟩ := adds_ofText whole later
    exact ⟨⟨_, _, stanzas⟩, ⟨_, issues⟩⟩

/-- A text without a stanza is continued by one that has two, and that by lines for the second. -/
theorem ofText_append_sample :
    let lost := "# none\r\nd,80\n"
    let body := "[a]\n[[b]]\nd,80\nalone\n"
    let tail := ",\ne,22\n[b]\nf,1"
    let last : Stanza := ⟨"b", [⟨"d", ["80"]⟩]⟩
    (Text.IsWhole lost.toList ∧ (ofText lost).document.stanzas = [] ∧
      (ofText (lost ++ body)).document = (ofText body).document ∧
      (ofText (lost ++ body)).issues =
        (ofText lost).issues ++ (ofText body).issues.map (.shift 2)) ∧
    Text.IsWhole body.toList ∧ (ofText body).document.stanzas = [⟨"a", []⟩] ++ [last] ∧
      ∃ first more, (ofText (last.header ++ "\n" ++ tail)).document.stanzas = first :: more ∧
        (ofText (body ++ tail)).document.stanzas =
          [⟨"a", []⟩] ++ last.addAll first.destinations :: more ∧
        (ofText (body ++ tail)).issues =
          (ofText body).issues ++ (ofText (last.header ++ "\n" ++ tail)).issues.map (.shift 3) := by
  intro lost body tail last
  have wholeLost : Text.IsWhole lost.toList := by decide
  have wholeBody : Text.IsWhole body.toList := by decide
  have countLost : (Text.physicalLines lost.toList).length = 2 := by decide
  have countBody : (Text.physicalLines body.toList).length = 4 := by decide
  obtain ⟨continued, -⟩ := ofText_append wholeLost body
  obtain ⟨-, resumed, -⟩ := ofText_append wholeBody tail
  have noStanza : (ofText lost).document.stanzas = [] := by decide
  have twoStanzas : (ofText body).document.stanzas = [⟨"a", []⟩] ++ [last] := by
    decide
  have added := resumed _ _ twoStanzas
  rw [countLost] at continued
  rw [countBody] at added
  exact ⟨⟨wholeLost, noStanza, continued noStanza⟩, wholeBody, twoStanzas, added⟩

end Report

end Rulebook
