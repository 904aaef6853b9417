/-
Probe mails are read back: what the filter finds in the subject is the token that was sent.

* `Email.IsProper` — the texts that a probe mail is meant for;
* `exists_render` — such a mail can be written, if its postmark takes one line each;
* `value?_of_render` — its header is read as the fields that were written, the subject among them;
* `subject_of_render` — so its subject ends with the mark and the token, also where the subject is
  written in an encoded word;
* `token?_of_render` — and the token is found.
-/
import DeliveryWatch.Ping.Email
import DeliveryWatch.Proofs.Header.Written
import DeliveryWatch.Proofs.Message.Fields
import DeliveryWatch.Proofs.Ping.Token

namespace DeliveryWatch.Ping.Email

open Text Header Message

/-- The texts that a probe mail is meant for: a token of one word, and a prefix and addresses of one line
each. No token and no prefix holds an opening mark of encoded words. -/
structure IsProper (e : Email) : Prop where
  token_ne : e.token ≠ ""
  token_word : ∀ c ∈ e.token.toList, isBlank c = false
  token_plain : ¬ "=?".toList <:+: e.token.toList
  prefix_line : IsOneLine e.subjectPrefix.toList
  prefix_plain : ¬ "=?".toList <:+: e.subjectPrefix.toList
  sender_line : IsOneLine e.sender.toList
  recipient_line : IsOneLine e.recipient.toList

/-! ### Fields -/

/-- The fields up to the subject. -/
def leading (e : Email) : List (String × String) :=
  [("Content-Type", "text/plain; charset=\"" ++ (if e.isPlain then "us-ascii" else "utf-8") ++ "\""),
   ("MIME-Version", "1.0"),
   ("Content-Transfer-Encoding", if e.isPlain then "7bit" else "base64"),
   ("From", e.sender), ("To", e.recipient), ("Subject", e.subject)]

theorem fields_eq (e : Email) (mark : Postmark) :
    e.fields mark = e.leading ++ [("Date", mark.date), ("Message-ID", mark.messageId)] := rfl

/-- A field as it stands in a message. -/
def written (f : String × String) : RawField := ⟨f.1.toList, ' ' :: writtenLine f.2.toList, .feed⟩

theorem lowerName_written (f : String × String) :
    Section.values.lowerName (written f).shown = f.1.toList.map Char.toLower := rfl

/-- A value of one line is written on the line of its field. -/
theorem writeField_of_isOneLine {f : String × String} (h : IsOneLine f.2.toList) :
    writeField f = .ok (String.ofList (written f).text) := by
  have hline : f.1 ++ ": " ++ String.ofList (writtenLine f.2.toList) ++ "\n"
      = String.ofList (written f).text := by
    refine String.toList_inj.mp ?_
    simp [written, RawField.text, Break.chars]
  rw [writeField, written?_of_isOneLine h]
  exact congrArg Except.ok hline

theorem mapM_writeField {fs : List (String × String)} (h : ∀ f ∈ fs, IsOneLine f.2.toList) :
    fs.mapM writeField = .ok (fs.map fun f => String.ofList (written f).text) := by
  induction fs with
  | nil => rfl
  | cons f fs ih =>
    rw [List.mapM_cons, writeField_of_isOneLine (h f List.mem_cons_self),
      ih fun g hg => h g (List.mem_cons_of_mem f hg)]
    rfl

namespace IsProper

variable {e : Email} (h : e.IsProper)

theorem toList_subject (e : Email) :
    e.subject.toList = e.subjectPrefix.toList ++ " guid: ".toList ++ e.token.toList := by
  rw [subject, String.toList_append, String.toList_append]

/-- What is read of a subject still ends with the mark and the token. -/
theorem exists_readLine_subject (e : Email) :
    ∃ q, readLine e.subject.toList = q ++ marker ++ ' ' :: e.token.toList := by
  have hsubject : e.subject.toList
      = (e.subjectPrefix.toList ++ [' ']) ++ (marker ++ ' ' :: e.token.toList) := by
    rw [toList_subject, List.append_assoc, List.append_assoc]
    rfl
  have hmark : (marker ++ ' ' :: e.token.toList).dropWhile Text.isSpaceOrTab
      = marker ++ ' ' :: e.token.toList := rfl
  rw [readLine, hsubject]
  split
  · rw [List.dropWhile_append, hmark]
    split
    · exact ⟨[], rfl⟩
    · exact ⟨_, (List.append_assoc _ _ _).symm⟩
  · exact ⟨_, (List.append_assoc _ _ _).symm⟩

include h

theorem subject_line : IsOneLine e.subject.toList := by
  have hmark : IsOneLine " guid: ".toList := by decide
  rw [toList_subject]
  exact (h.prefix_line.append hmark).append (IsOneLine.of_not_isBlank h.token_word)

/-- The mark between prefix and token makes up no opening mark with them. -/
theorem subject_plain : ¬ "=?".toList <:+: e.subject.toList := by
  have hsign : '=' ∉ " guid: ".toList := by decide
  have hmark : ¬ "=?".toList <:+: " guid: ".toList := fun hi => hsign (hi.subset List.mem_cons_self)
  have hspace : (e.subjectPrefix.toList ++ " guid: ".toList).getLast? = some ' ' := by
    rw [List.getLast?_append]
    rfl
  rw [toList_subject]
  intro hi
  -- the text between ends with a space and starts with one, so nothing can meet there
  rcases pair_infix_append hi with hi | hi | ⟨hlast, -⟩
  · rcases pair_infix_append hi with hi | hi | ⟨-, hfirst⟩
    · exact h.prefix_plain hi
    · exact hmark hi
    · exact absurd hfirst (by decide)
  · exact h.token_plain hi
  · rw [hspace] at hlast
    exact absurd hlast (by decide)

theorem leading_line : ∀ f ∈ e.leading, IsOneLine f.2.toList := by
  intro f hf
  simp only [leading, List.mem_cons, List.not_mem_nil, or_false] at hf
  rcases hf with rfl | rfl | rfl | rfl | rfl | rfl
  · cases e.isPlain with
    | true => decide
    | false => decide
  · decide
  · cases e.isPlain with
    | true => decide
    | false => decide
  · exact h.sender_line
  · exact h.recipient_line
  · exact h.subject_line

theorem leading_written : ∀ f ∈ e.leading.map written, f.IsWritten := by
  intro f hf
  obtain ⟨g, hg, rfl⟩ := List.mem_map.mp hf
  have hnames : ∀ n ∈ ["Content-Type", "MIME-Version", "Content-Transfer-Encoding", "From", "To",
      "Subject"], n.toList ≠ [] ∧ n.toList.all isNameChar = true := by
    decide
  have hname : g.1 ∈ e.leading.map Prod.fst := List.mem_map_of_mem hg
  obtain ⟨hne, hchars⟩ := hnames g.1 hname
  refine ⟨⟨hne, List.all_eq_true.mp hchars⟩, .char (by decide) (.of_not_isLineEnd ?_)⟩
  exact fun c hc => (isOneLine_writtenLine (h.leading_line g hg)).not_isLineEnd hc

/-! ### The mail -/

theorem exists_toList_of_render {mark : Postmark} {t : String} (ht : e.render mark = .ok t) :
    ∃ r, t.toList = layout (e.leading.map written) ++ ("Date".toList ++ ':' :: r) := by
  obtain ⟨lines, hlines, ht⟩ := Outcome.bind_eq_ok.mp ht
  rw [fields_eq, List.mapM_append, mapM_writeField h.leading_line] at hlines
  obtain ⟨front, hfront, hlines⟩ := Outcome.bind_eq_ok.mp hlines
  obtain ⟨rest, hrest, hlines⟩ := Outcome.bind_eq_ok.mp hlines
  rw [List.mapM_cons] at hrest
  obtain ⟨date, hdate, hrest⟩ := Outcome.bind_eq_ok.mp hrest
  obtain ⟨more, -, hrest⟩ := Outcome.bind_eq_ok.mp hrest
  obtain ⟨w, -, hdate⟩ := Outcome.bind_eq_ok.mp hdate
  cases hfront
  cases hrest
  cases hlines
  cases hdate
  cases ht
  -- the value of the date, the fields behind it, the blank line and the body are of no interest
  refine ⟨' ' :: w.toList ++ ['\n'] ++ more.flatMap String.toList ++ ['\n']
    ++ e.writtenBody.toList, ?_⟩
  have hleading : (e.leading.map fun f => String.ofList (written f).text).flatMap String.toList
      = layout (e.leading.map written) := by
    rw [layout, List.flatMap_map, List.flatMap_map]
    simp only [String.toList_ofList]
  rw [String.toList_append, String.toList_append, String.toList_join, List.flatMap_append, hleading,
    List.flatMap_cons, String.toList_append, String.toList_append, String.toList_append]
  simp only [List.append_assoc]
  rfl

theorem value?_of_render {mark : Postmark} {t : String} (ht : e.render mark = .ok t) :
    (readSection t.toList).value? "subject"
      = some ((writtenLine e.subject.toList).dropWhile Text.isSpaceOrTab) := by
  obtain ⟨r, hr⟩ := h.exists_toList_of_render ht
  have hdate : IsName "Date".toList := by decide
  obtain ⟨more, hmore⟩ := fields_readSection h.leading_written hdate r
  rw [← hr, List.map_map] at hmore
  have hnames : ∀ n ∈ ["Content-Type", "MIME-Version", "Content-Transfer-Encoding", "From", "To"],
      n.toList.map Char.toLower ≠ "subject".toList := by
    decide
  -- none of the five fields in front is a subject
  have hbefore : ∀ g ∈ (e.leading.take 5).map fun f => (written f).shown,
      Section.values.lowerName g ≠ "subject".toList := by
    intro g hg
    obtain ⟨f, hf, rfl⟩ := List.mem_map.mp hg
    have hname : f.1 ∈ (e.leading.take 5).map Prod.fst := List.mem_map_of_mem hf
    rw [lowerName_written]
    exact hnames f.1 hname
  have hname : Section.values.lowerName (written ("Subject", e.subject)).shown
      = "subject".toList := by
    rw [lowerName_written]
    dsimp only
    decide
  exact value?_of_fields hmore hbefore hname

/-- **The subject of a mail is read as it was written**, but for white space at its front. -/
theorem subject_of_render {mark : Postmark} {t : String} (ht : e.render mark = .ok t) {m : Metadata}
    (hm : readMetadata (.text t) = .ok m) :
    m.subject = some (String.ofList (readLine e.subject.toList)) := by
  have hline : ∀ c ∈ (writtenLine e.subject.toList).dropWhile Text.isSpaceOrTab,
      isLineEnd c = false := by
    intro c hc
    exact (isOneLine_writtenLine h.subject_line).not_isLineEnd ((List.dropWhile_sublist _).subset hc)
  rw [subject_of_readMetadata hm (h.value?_of_render ht) hline,
    unstructured_writtenLine h.subject_plain, toText_ofText]

/-- **The token of a mail is found in the subject that is read.** -/
theorem token?_of_render {mark : Postmark} {t : String} (ht : e.render mark = .ok t) {m : Metadata}
    (hm : readMetadata (.text t) = .ok m) : token? m.subject = some e.token := by
  obtain ⟨q, hq⟩ := exists_readLine_subject e
  rw [h.subject_of_render ht hm, hq]
  exact token?_append q h.token_ne h.token_word

/-- **A mail can be written** if its postmark takes one line each. -/
theorem exists_render {mark : Postmark} (hdate : IsOneLine mark.date.toList)
    (hid : IsOneLine mark.messageId.toList) : ∃ t, e.render mark = .ok t := by
  have hlines : ∀ f ∈ e.fields mark, IsOneLine f.2.toList := by
    intro f hf
    rw [fields_eq, List.mem_append] at hf
    rcases hf with hf | hf
    · exact h.leading_line f hf
    · simp only [List.mem_cons, List.not_mem_nil, or_false] at hf
      rcases hf with rfl | rfl
      · exact hdate
      · exact hid
  simp only [render, mapM_writeField hlines]
  exact ⟨_, rfl⟩

end IsProper

end DeliveryWatch.Ping.Email
