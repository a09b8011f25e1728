import Rulebook.Proofs.Document.RoundTrip

/-!
# Which documents can be read

The documents that are read from some text are the sound ones.  The text of a sound document need
not give it back, but a comma in front of a destination line is lost when the line is read, and
with it the line opens with neither `#` nor `[`.  So the text with such commas does.
-/

namespace Rulebook

/-! ## Fences -/

/-- The line with a comma in front. -/
def DestinationLine.fence (line : DestinationLine) : DestinationLine :=
  { line with destination := "," ++ line.destination }

def Stanza.fence (stanza : Stanza) : Stanza :=
  { stanza with destinations := stanza.destinations.map DestinationLine.fence }

def Document.fence (document : Document) : Document :=
  ⟨document.stanzas.map Stanza.fence⟩

/-- The piece before a leading comma is empty, so it is no token. -/
theorem LineKind.tokens_comma (line : List Char) : tokens (',' :: line) = tokens line := by
  rw [tokens, List.splitOn_cons_eq_if_modifyHead, if_pos (by rfl)]
  rfl

namespace DestinationLine

variable {line : DestinationLine}

theorem toList_text_fence (line : DestinationLine) :
    line.fence.text.toList = ',' :: line.text.toList := by
  simp [toList_text, fence]

namespace IsSound

variable (h : line.IsSound)
include h

theorem blankFree_text_fence : ∀ c ∈ line.fence.text.toList, Text.isBlank c = false := by
  rw [toList_text_fence]
  exact List.forall_mem_cons.2 ⟨Text.isBlank_comma, h.blankFree_text⟩

/-- Behind its fence, a line is read as what it is. -/
theorem ofLine_text_fence :
    LineKind.ofLine (Text.squeeze line.fence.text.toList) =
      .declaration (line.destination :: line.ports) := by
  rw [Text.squeeze_eq_self h.blankFree_text_fence, toList_text_fence, LineKind.ofLine,
    LineKind.tokens_comma, h.tokens_text]
  rfl

end IsSound

end DestinationLine

/-! ## Reading behind fences -/

namespace Passage

theorem ofLines_fenced {lines : List DestinationLine} (h : ∀ line ∈ lines, line.IsSound)
    (source : String) (number : Nat) (rest : List (List Char)) :
    ofLines (some source) number ((lines.map fun line ↦ line.fence.text.toList) ++ rest) =
      lines.foldr destination (ofLines (some source) (number + lines.length) rest) := by
  induction lines generalizing number with
  | nil => rfl
  | cons line lines ih =>
    obtain ⟨sound, others⟩ := List.forall_mem_cons.1 h
    obtain ⟨port, ports, cons⟩ := List.exists_cons_of_ne_nil sound.nonempty
    have kind := sound.ofLine_text_fence
    rw [cons] at kind
    rw [List.map_cons, List.cons_append, ofLines_destination kind, ih others, List.foldr_cons,
      List.length_cons, Nat.add_comm lines.length, ← Nat.add_assoc, ← cons]

theorem ofLines_texts_fence {stanzas : List Stanza} (h : ∀ stanza ∈ stanzas, stanza.IsSound)
    (source : Option String) (number : Nat) :
    ofLines source number ((stanzas.map Stanza.fence).flatMap Stanza.texts) =
      ⟨[], stanzas, []⟩ := by
  induction stanzas generalizing source number with
  | nil => rfl
  | cons stanza stanzas ih =>
    obtain ⟨sound, others⟩ := List.forall_mem_cons.1 h
    have texts : stanza.fence.texts =
        stanza.header.toList :: stanza.destinations.map fun line ↦ line.fence.text.toList := by
      simp [Stanza.texts, Stanza.fence, Stanza.header]
    rw [List.map_cons, List.flatMap_cons, texts, List.cons_append,
      ofLines_header (Stanza.ofLine_header sound.source), ofLines_fenced sound.destinations,
      ih others]
    simp [Passage.stanza]

end Passage

namespace Document

variable {document : Document}

theorem IsSound.physicalLines_render_fence (h : document.IsSound) :
    Text.physicalLines document.fence.render.toList = document.fence.texts := by
  refine physicalLines_render_of_blankFree fun text mem ↦ ?_
  obtain ⟨fenced, isFenced, mem⟩ := List.mem_flatMap.1 mem
  obtain ⟨stanza, isStanza, rfl⟩ := List.mem_map.1 isFenced
  rcases List.mem_cons.1 mem with rfl | mem
  · have isLabel : IsLabel stanza.fence.source := (h stanza isStanza).source
    exact Stanza.blankFree_header isLabel
  · obtain ⟨fenced, isFenced, rfl⟩ := List.mem_map.1 mem
    obtain ⟨line, isLine, rfl⟩ := List.mem_map.1 isFenced
    exact ((h stanza isStanza).destinations line isLine).blankFree_text_fence

/-- A sound document is read from its text with fences, and nothing is wrong with that text. -/
theorem IsSound.ofText_render_fence (h : document.IsSound) :
    (Report.ofText document.fence.render).document = document ∧
      (Report.ofText document.fence.render).issues = [] := by
  have read : Passage.ofLines none 1 document.fence.texts = ⟨[], document.stanzas, []⟩ :=
    Passage.ofLines_texts_fence h none 1
  rw [Report.ofText, h.physicalLines_render_fence]
  constructor
  · exact congrArg Document.mk ((Report.stanzas_ofLines _).trans (by rw [read]))
  · rw [Report.issues_ofLines, read]

/-- The documents that are read from some text are the sound ones, and each of them is read without
an issue from its text with fences. -/
theorem isSound_iff_exists_ofText (document : Document) :
    ((∃ content, (Report.ofText content).document = document) ↔ document.IsSound) ∧
      (document.IsSound ↔
        (Report.ofText document.fence.render).document = document ∧
          (Report.ofText document.fence.render).issues = []) := by
  have sound {content : String} (read : (Report.ofText content).document = document) :
      document.IsSound := by
    rw [← read]
    exact Report.isSound_ofLines _
  refine ⟨⟨fun ⟨_, read⟩ ↦ sound read, fun h ↦ ⟨_, h.ofText_render_fence.1⟩⟩, ?_⟩
  exact ⟨IsSound.ofText_render_fence, fun ⟨read, _⟩ ↦ sound read⟩

-- The first line reads as a comment and the second as a header, but not behind their fences.
example :
    let document : Document := ⟨[⟨"a", [⟨"#d", ["80"]⟩, ⟨"[d", ["80]"]⟩]⟩]⟩
    document.fence.render = "[a]\n,#d,80\n,[d,80]\n" ∧
      (Report.ofText document.fence.render).document = document ∧
        (Report.ofText document.render).document = ⟨[⟨"a", []⟩, ⟨"d,80", []⟩]⟩ := by
  decide

end Document

end Rulebook
