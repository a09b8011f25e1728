import Rulebook.Proofs.Document.Outline
import Rulebook.Proofs.Document.Sound

/-!
# Writing a document and reading it back

A document comes back from its own text exactly if it is sound and none of its lines reads as
something else: `#` opens a comment, and a line between brackets is a header.  The proof that these
documents only come back counts stanzas first, so that lines which read as headers cannot make up
for each other, and then looks at what is left of each stanza.
-/

namespace Rulebook

namespace DestinationLine

def ReadsAsComment (line : DestinationLine) : Prop :=
  line.destination.toList.head? = some '#'

/-- The line opens with a bracket and its last port closes one. -/
def ReadsAsHeader (line : DestinationLine) : Prop :=
  line.destination.toList.head? = some '[' ∧
    ∃ port ∈ line.ports.getLast?, port.toList.getLast? = some ']'

instance (line : DestinationLine) : Decidable line.ReadsAsComment :=
  inferInstanceAs (Decidable (_ = _))

instance (line : DestinationLine) : Decidable line.ReadsAsHeader :=
  inferInstanceAs (Decidable (_ ∧ ∃ port ∈ line.ports.getLast?, _))

structure IsReadable (line : DestinationLine) : Prop extends line.IsSound where
  notComment : ¬line.ReadsAsComment
  notHeader : ¬line.ReadsAsHeader

instance (line : DestinationLine) : Decidable line.IsReadable :=
  decidable_of_iff (line.IsSound ∧ _ ∧ _)
    ⟨fun ⟨sound, notComment, notHeader⟩ ↦ { sound with notComment, notHeader },
      fun h ↦ ⟨h.toIsSound, h.notComment, h.notHeader⟩⟩

end DestinationLine

structure Stanza.IsReadable (stanza : Stanza) : Prop where
  source : IsLabel stanza.source
  destinations : ∀ line ∈ stanza.destinations, line.IsReadable

def Document.IsReadable (document : Document) : Prop :=
  ∀ stanza ∈ document.stanzas, stanza.IsReadable

instance (stanza : Stanza) : Decidable stanza.IsReadable :=
  decidable_of_iff (_ ∧ _)
    ⟨fun ⟨source, destinations⟩ ↦ ⟨source, destinations⟩, fun h ↦ ⟨h.source, h.destinations⟩⟩

instance (document : Document) : Decidable document.IsReadable :=
  inferInstanceAs (Decidable (∀ stanza ∈ document.stanzas, stanza.IsReadable))

-- An empty source is harmless, and so are brackets that do not enclose the whole line.
example : Document.IsReadable
    ⟨[⟨"", []⟩, ⟨"]a[", [⟨"[d]", ["80", "443"]⟩, ⟨"d]", ["[80]"]⟩]⟩]⟩ := by
  decide

/-! ## The lines of a document text -/

def Stanza.texts (stanza : Stanza) : List (List Char) :=
  stanza.header.toList :: stanza.destinations.map fun line ↦ line.text.toList

def Document.texts (document : Document) : List (List Char) :=
  document.stanzas.flatMap Stanza.texts

theorem Stanza.toList_header (stanza : Stanza) :
    stanza.header.toList = '[' :: (stanza.source.toList ++ [']']) := by
  simp [header]

theorem Stanza.toList_render (stanza : Stanza) :
    stanza.render.toList = stanza.texts.flatMap (· ++ ['\n']) := by
  simp [render, texts, List.flatMap_map]

theorem Document.toList_render (document : Document) :
    document.render.toList = document.texts.flatMap (· ++ ['\n']) := by
  simp [render, texts, List.flatMap_assoc, List.flatMap_map, Stanza.toList_render]

namespace DestinationLine

theorem toList_text (line : DestinationLine) :
    line.text.toList = line.destination.toList ++ line.ports.flatMap (',' :: ·.toList) := by
  simp [text, Text.intercalate_cons, List.flatMap_map]

namespace IsSound

variable {line : DestinationLine} (h : line.IsSound)
include h

theorem blankFree_text : ∀ c ∈ line.text.toList, Text.isBlank c = false := by
  intro c mem
  rw [toList_text, List.mem_append, List.mem_flatMap] at mem
  rcases mem with mem | ⟨port, isPort, _ | ⟨_, mem⟩⟩
  · exact h.destination.blankFree c mem
  · rfl
  · exact (h.ports port isPort).blankFree c mem

theorem head?_text : line.text.toList.head? = line.destination.toList.head? := by
  obtain ⟨c, rest, cons⟩ := List.exists_cons_of_ne_nil h.destination.nonempty
  simp [toList_text, cons]

theorem getLast?_text {port : String} (last : line.ports.getLast? = some port) :
    line.text.toList.getLast? = port.toList.getLast? := by
  obtain ⟨before, split⟩ := List.getLast?_eq_some_iff.1 last
  have nonempty := (h.ports port (by simp [split])).nonempty
  simp [toList_text, split, List.getLast?_cons, List.getLast?_eq_some_getLast nonempty]

theorem tokens_text : LineKind.tokens line.text.toList = line.destination :: line.ports := by
  have atoms : ∀ token ∈ line.destination :: line.ports, IsAtom token := by
    simpa using ⟨h.destination, h.ports⟩
  have pieces : line.text.toList.splitOn ',' =
      (line.destination :: line.ports).map String.toList := by
    rw [toList_text, ← List.flatMap_map, ← Text.intercalate_cons, ← List.map_cons]
    refine List.splitOn_intercalate ',' ?_ (by simp)
    simpa using fun token mem ↦ (atoms token mem).commaFree
  rw [LineKind.tokens, pieces, List.filter_eq_self.2, List.map_map]
  · simp [Function.comp_def]
  · simpa using fun token mem ↦ (atoms token mem).nonempty

theorem isHeader_text : LineKind.isHeader line.text.toList = true ↔ line.ReadsAsHeader := by
  obtain ⟨port, last⟩ := Option.ne_none_iff_exists'.1 (mt List.getLast?_eq_none_iff.1 h.nonempty)
  simp [LineKind.isHeader, ReadsAsHeader, h.head?_text, h.getLast?_text last, last]

/-- The three ways in which the text of a sound line can be read. -/
theorem ofLine_text :
    LineKind.ofLine (Text.squeeze line.text.toList) =
      if line.ReadsAsComment then .skipped
      else if LineKind.isHeader line.text.toList then .header (LineKind.label line.text.toList)
      else .declaration (line.destination :: line.ports) := by
  have nonempty : line.text.toList.isEmpty = false := by
    simp [toList_text, h.destination.nonempty]
  rw [Text.squeeze_eq_self h.blankFree_text, LineKind.ofLine, nonempty, h.head?_text, h.tokens_text]
  by_cases comment : line.destination.toList.head? = some '#' <;> simp [ReadsAsComment, comment]

end IsSound

end DestinationLine

theorem Stanza.blankFree_header {stanza : Stanza} (h : IsLabel stanza.source) :
    ∀ c ∈ stanza.header.toList, Text.isBlank c = false := by
  intro c mem
  simp only [toList_header, List.mem_cons, List.mem_append, List.not_mem_nil, or_false] at mem
  rcases mem with rfl | mem | rfl
  · rfl
  · exact h.blankFree c mem
  · rfl

theorem Stanza.ofLine_header {stanza : Stanza} (h : IsLabel stanza.source) :
    LineKind.ofLine (Text.squeeze stanza.header.toList) = .header stanza.source := by
  rw [Text.squeeze_eq_self (blankFree_header h), LineKind.ofLine, toList_header,
    LineKind.label_brackets h]
  simp [LineKind.isHeader, List.getLast?_cons]

theorem Document.physicalLines_render_of_blankFree {document : Document}
    (h : ∀ line ∈ document.texts, ∀ c ∈ line, Text.isBlank c = false) :
    Text.physicalLines document.render.toList = document.texts := by
  rw [toList_render]
  refine Text.physicalLines_flatMap fun line mem ↦ ?_
  constructor <;> intro isBreak <;> simpa using h line mem _ isBreak

theorem Document.physicalLines_render {document : Document} (h : document.IsSound) :
    Text.physicalLines document.render.toList = document.texts := by
  refine physicalLines_render_of_blankFree fun line mem ↦ ?_
  obtain ⟨stanza, isStanza, _ | ⟨_, mem⟩⟩ := List.mem_flatMap.1 mem
  · exact Stanza.blankFree_header (h stanza isStanza).source
  · obtain ⟨line, isLine, rfl⟩ := List.mem_map.1 mem
    exact ((h stanza isStanza).destinations line isLine).blankFree_text

/-! ## Reading the lines back -/

/-- The stanza without the lines that read as comments. -/
def Stanza.withoutComments (stanza : Stanza) : Stanza :=
  { stanza with destinations := stanza.destinations.filter fun line ↦ !decide line.ReadsAsComment }

namespace Passage

/-- Lines that do not read as headers continue the open stanza, apart from the comments. -/
theorem ofLines_destinations {lines : List DestinationLine}
    (h : ∀ line ∈ lines, line.IsSound ∧ ¬line.ReadsAsHeader) (source : String) (number : Nat)
    (rest : List (List Char)) :
    ofLines (some source) number ((lines.map fun line ↦ line.text.toList) ++ rest) =
      (lines.filter fun line ↦ !decide line.ReadsAsComment).foldr destination
        (ofLines (some source) (number + lines.length) rest) := by
  induction lines generalizing number with
  | nil => rfl
  | cons line lines ih =>
    obtain ⟨sound, notHeader⟩ := h line List.mem_cons_self
    have next := ih (fun other mem ↦ h other (List.mem_cons_of_mem _ mem)) (number + 1)
    rw [List.length_cons, Nat.add_comm lines.length, ← Nat.add_assoc, List.map_cons,
      List.cons_append]
    have kind := sound.ofLine_text
    rw [if_neg (mt sound.isHeader_text.1 notHeader)] at kind
    by_cases comment : line.ReadsAsComment
    · rw [if_pos comment] at kind
      rw [ofLines_skipped kind, next, List.filter_cons_of_neg (by simpa using comment)]
    · obtain ⟨port, ports, cons⟩ := List.exists_cons_of_ne_nil sound.nonempty
      rw [if_neg comment, cons] at kind
      rw [ofLines_destination kind, next, List.filter_cons_of_pos (by simpa using comment),
        List.foldr_cons, ← cons]

@[simp] theorem continued_foldr_destination (lines : List DestinationLine) (passage : Passage) :
    (lines.foldr destination passage).continued = lines ++ passage.continued := by
  induction lines with
  | nil => rfl
  | cons line lines ih => simp [destination, ih]

@[simp] theorem stanzas_foldr_destination (lines : List DestinationLine) (passage : Passage) :
    (lines.foldr destination passage).stanzas = passage.stanzas := by
  induction lines with
  | nil => rfl
  | cons line lines ih => exact ih

@[simp] theorem issues_foldr_destination (lines : List DestinationLine) (passage : Passage) :
    (lines.foldr destination passage).issues = passage.issues := by
  induction lines with
  | nil => rfl
  | cons line lines ih => exact ih

/-- The lines of a sound document without header-like lines give the document back, apart from the
comments, and no issue. -/
theorem ofLines_texts {stanzas : List Stanza} (sound : ∀ stanza ∈ stanzas, stanza.IsSound)
    (notHeader : ∀ stanza ∈ stanzas, ∀ line ∈ stanza.destinations, ¬line.ReadsAsHeader)
    (source : Option String) (number : Nat) :
    ofLines source number (stanzas.flatMap Stanza.texts) =
      ⟨[], stanzas.map Stanza.withoutComments, []⟩ := by
  induction stanzas generalizing source number with
  | nil => rfl
  | cons stanza stanzas ih =>
    have lines : ∀ line ∈ stanza.destinations, line.IsSound ∧ ¬line.ReadsAsHeader :=
      fun line mem ↦ ⟨(sound stanza List.mem_cons_self).destinations line mem,
        notHeader stanza List.mem_cons_self line mem⟩
    have header := Stanza.ofLine_header (sound stanza List.mem_cons_self).source
    have next := ih (fun other mem ↦ sound other (List.mem_cons_of_mem _ mem))
      fun other mem ↦ notHeader other (List.mem_cons_of_mem _ mem)
    rw [List.flatMap_cons, Stanza.texts, List.cons_append, ofLines_header header,
      ofLines_destinations lines, next]
    simp [Passage.stanza, Stanza.withoutComments]

end Passage

/-! ## Which documents come back -/

theorem DestinationLine.IsSound.isSome_label?_text {line : DestinationLine} (h : line.IsSound)
    (header : line.ReadsAsHeader) :
    (LineKind.ofLine (Text.squeeze line.text.toList)).label?.isSome = true := by
  have comment : ¬line.ReadsAsComment := by
    rw [ReadsAsComment, header.1]
    decide
  rw [h.ofLine_text, if_neg comment, if_pos (h.isHeader_text.2 header)]
  rfl

theorem Stanza.withoutComments_eq_self_iff {stanza : Stanza} :
    stanza.withoutComments = stanza ↔ ∀ line ∈ stanza.destinations, ¬line.ReadsAsComment := by
  obtain ⟨source, destinations⟩ := stanza
  simp [withoutComments, List.filter_eq_self]

namespace Document

variable {document : Document}

theorem IsReadable.isSound (h : document.IsReadable) : document.IsSound := fun stanza mem ↦
  ⟨(h stanza mem).source, fun line isLine ↦ ((h stanza mem).destinations line isLine).toIsSound⟩

/-- Every stanza is read as one, and every line that reads as a header as one more. -/
theorem IsSound.countP_texts (h : document.IsSound) :
    (document.texts.map Text.squeeze).countP (fun line ↦ (LineKind.ofLine line).label?.isSome) =
      document.stanzas.length + (document.stanzas.flatMap Stanza.destinations).countP fun line ↦
        (LineKind.ofLine (Text.squeeze line.text.toList)).label?.isSome := by
  obtain ⟨stanzas⟩ := document
  induction stanzas with
  | nil => rfl
  | cons stanza stanzas ih =>
    have next := ih fun other mem ↦ h other (List.mem_cons_of_mem _ mem)
    have header := Stanza.ofLine_header (h stanza List.mem_cons_self).source
    simp only [texts, List.flatMap_cons, List.map_append, List.countP_append, List.length_cons,
      Stanza.texts, List.map_cons, List.countP_cons, header, LineKind.label?_header,
      Option.isSome_some, if_true, List.countP_map, Function.comp_def] at next ⊢
    simp only [next]
    omega

/-- A document that comes back has no line that reads as a header. -/
theorem IsSound.not_readsAsHeader (h : document.IsSound)
    (back : (Passage.ofLines none 1 document.texts).stanzas = document.stanzas) :
    ∀ stanza ∈ document.stanzas, ∀ line ∈ stanza.destinations, ¬line.ReadsAsHeader := by
  have count := h.countP_texts
  -- As many stanzas come back as there are, so the lines have no header to add.
  rw [← Outline.length_stanzas, ← Passage.stanzas_ofLines none 1, back, Nat.left_eq_add,
    List.countP_eq_zero] at count
  intro stanza isStanza line isLine header
  have sound := (h stanza isStanza).destinations line isLine
  exact count line (List.mem_flatMap.2 ⟨stanza, isStanza, isLine⟩) (sound.isSome_label?_text header)

theorem IsReadable.ofLines_texts (h : document.IsReadable) :
    Passage.ofLines none 1 document.texts = ⟨[], document.stanzas, []⟩ := by
  have same : document.stanzas.map Stanza.withoutComments = document.stanzas := by
    refine (List.map_congr_left fun stanza mem ↦ ?_).trans (List.map_id _)
    exact Stanza.withoutComments_eq_self_iff.2 fun line isLine ↦
      ((h stanza mem).destinations line isLine).notComment
  rw [texts, Passage.ofLines_texts h.isSound fun stanza mem line isLine ↦
    ((h stanza mem).destinations line isLine).notHeader, same]

theorem isReadable_of_ofLines_texts (h : document.IsSound)
    (back : (Passage.ofLines none 1 document.texts).stanzas = document.stanzas) :
    document.IsReadable := by
  have header := h.not_readsAsHeader back
  rw [texts, Passage.ofLines_texts h header] at back
  have same : ∀ stanza ∈ document.stanzas, stanza.withoutComments = stanza :=
    List.map_inj_left.1 (back.trans (List.map_id _).symm)
  intro stanza isStanza
  have comment := Stanza.withoutComments_eq_self_iff.1 (same stanza isStanza)
  exact ⟨(h stanza isStanza).source, fun line isLine ↦
    { (h stanza isStanza).destinations line isLine with
      notComment := comment line isLine
      notHeader := header stanza isStanza line isLine }⟩

/-- A readable document comes back from its text as it is, and nothing is wrong with the text. -/
theorem IsReadable.ofText_render (h : document.IsReadable) :
    (Report.ofText document.render).document = document ∧
      (Report.ofText document.render).issues = [] := by
  have read := h.ofLines_texts
  rw [Report.ofText, physicalLines_render h.isSound]
  constructor
  · exact congrArg Document.mk ((Report.stanzas_ofLines _).trans (by rw [read]))
  · rw [Report.issues_ofLines, read]

/-- The documents that come back from their own text are the readable ones, and these are read
without an issue. -/
theorem ofText_render_eq_iff (document : Document) :
    ((Report.ofText document.render).document = document ↔ document.IsReadable) ∧
      (document.IsReadable → (Report.ofText document.render).issues = []) := by
  refine ⟨⟨fun back ↦ ?_, fun h ↦ h.ofText_render.1⟩, fun h ↦ h.ofText_render.2⟩
  have sound : document.IsSound := by
    rw [← back]
    exact Report.isSound_ofLines _
  refine isReadable_of_ofLines_texts sound ?_
  rw [← Report.stanzas_ofLines, ← physicalLines_render sound]
  exact congrArg Document.stanzas back

end Document

end Rulebook
