/-
The trace of a message stands in its header section, and its header block is enough to find it again.

* `headed` — a message that is laid out by plain fields, an empty line and any body;
* `receivedValues_headed` — its trace is the values of its Received fields, in order and unchanged;
* `messageDelay_of_perm` — so the delay depends neither on the order of the fields, nor on their breaks,
  nor on the body;
* `receivedValues_headerBlock` — the header block of any message, with any two breaks behind it, has the
  trace of the message;
* `header_delivery` — which makes the delay of a delivery one of its header;
* `unfold_of_mem_receivedValues` — unfolding leaves no fold in the trace of any message, and takes away
  nothing but white space and line ends.
-/
import DeliveryWatch.Proofs.Ledger.Line
import DeliveryWatch.Proofs.Message.Folds
import DeliveryWatch.Proofs.Trace.Delay

namespace DeliveryWatch.Trace

open Text Message

/-! ### Messages laid out by plain fields -/

/-- A field that can be written as its name, a colon, a space and its value. -/
structure IsPlain (f : Field) : Prop where
  name : IsName f.name
  value : Folded f.value
  start : ∀ c ∈ f.value.head?, isSpaceOrTab c = false

/-- A field as it is written, with a break behind it. -/
def written (f : Field) (b : Break) : RawField := ⟨f.name, ' ' :: f.value, b⟩

/-- A message of fields, each with the break behind it, of an empty line, and of a body. -/
def headed (fs : List (Field × Break)) (blank : Break) (body : List Char) : String :=
  String.ofList (layout (fs.map fun p => written p.1 p.2) ++ blank.chars ++ body)

/-- Whether a field belongs to the trace: ASCII case does not matter. -/
def isReceived (f : Field) : Bool := f.name.map Char.toLower == "received".toList

theorem IsPlain.isWritten {f : Field} (h : IsPlain f) (b : Break) : (written f b).IsWritten :=
  ⟨h.name, .char (by decide) h.value⟩

theorem IsPlain.shown_written {f : Field} (h : IsPlain f) (b : Break) : (written f b).shown = f := by
  show (⟨f.name, (' ' :: f.value).dropWhile isSpaceOrTab⟩ : Message.Field) = f
  rw [List.dropWhile_cons_of_pos (by decide), dropWhile_of_head h.start]

theorem not_isSpaceOrTab_of_any {s : List Char} (h : s.head?.any isSpaceOrTab = false) :
    ∀ c ∈ s.head?, isSpaceOrTab c = false := by
  intro c hc
  rwa [Option.mem_def.mp hc, Option.any_some] at h

/-- Plain fields are read as they are. -/
theorem fields_headed {fs : List (Field × Break)} (hfs : ∀ p ∈ fs, IsPlain p.1) (blank : Break)
    (body : List Char) : (readSection (headed fs blank body).toList).fields = fs.map Prod.fst := by
  have hwritten : ∀ f ∈ fs.map fun p => written p.1 p.2, f.IsWritten := by
    intro f hf
    obtain ⟨p, hp, rfl⟩ := List.mem_map.mp hf
    exact (hfs p hp).isWritten p.2
  rw [headed, String.toList_ofList, readSection_layout hwritten, List.map_map]
  exact List.map_congr_left fun p hp => (hfs p hp).shown_written p.2

/-- **The trace is the values of the Received fields, in order and unchanged.** -/
theorem receivedValues_headed {fs : List (Field × Break)} (hfs : ∀ p ∈ fs, IsPlain p.1)
    (blank : Break) (body : List Char) :
    receivedValues (headed fs blank body)
      = ((fs.map Prod.fst).filter isReceived).map fun f => String.ofList f.value := by
  rw [receivedValues, Section.values, fields_headed hfs, List.map_map]
  rfl

/-- **The order of the fields does not matter to the delay**, nor do their breaks and the body. -/
theorem messageDelay_of_perm {fs fs' : List (Field × Break)} (hfs : ∀ p ∈ fs, IsPlain p.1)
    (h : (fs'.map Prod.fst).Perm (fs.map Prod.fst)) (blank blank' : Break) (body body' : List Char) :
    messageDelay (headed fs' blank' body') = messageDelay (headed fs blank body) := by
  have hfs' : ∀ p ∈ fs', IsPlain p.1 := by
    intro p hp
    obtain ⟨q, hq, heq⟩ := List.mem_map.mp (h.subset (List.mem_map_of_mem hp))
    rw [← heq]
    exact hfs q hq
  have htimes : (receivedTimes (headed fs' blank' body')).Perm
      (receivedTimes (headed fs blank body)) := by
    rw [receivedTimes, receivedTimes, receivedValues_headed hfs, receivedValues_headed hfs']
    exact ((h.filter isReceived).map _).filterMap _
  exact delay_perm (isSteady_fixedZones _) (htimes.map readingOf)

/-- **The trace is read from the header section and nowhere else.** Of a message laid out by plain fields
it is the values of its Received fields, in order and unchanged; and there is one delay, whatever the
order of the fields, the breaks and the body are. -/
theorem trace_of_headed {fs : List (Field × Break)} (hfs : ∀ p ∈ fs, IsPlain p.1) (blank : Break)
    (body : List Char) :
    receivedValues (headed fs blank body)
        = ((fs.map Prod.fst).filter isReceived).map (fun f => String.ofList f.value) ∧
      ∃ n, messageDelay (headed fs blank body) = .ok n ∧
        ∀ (fs' : List (Field × Break)) (blank' : Break) (body' : List Char),
          (fs'.map Prod.fst).Perm (fs.map Prod.fst) →
          messageDelay (headed fs' blank' body') = .ok n := by
  refine ⟨receivedValues_headed hfs blank body, _, messageDelay_eq_recordedDelay _, ?_⟩
  intro fs' blank' body' h
  rw [messageDelay_of_perm hfs h blank blank' body body', messageDelay_eq_recordedDelay]

/-- Fields with a fold, with names in another case, and with an empty value. -/
def sampleFields : List (Field × Break) :=
  [(⟨"RECEIVED".toList, "a;\r\n\tMon, 1 Jan 2024 0:0:9 +0".toList⟩, .feed),
   (⟨"Subject".toList, ['x']⟩, .returnFeed),
   (⟨"received".toList, []⟩, .feed),
   (⟨"Received".toList, "b; Mon, 1 Jan 2024 0:0:4 +0".toList⟩, .returnFeed)]

/-- A message of these fields, and a body that looks like a trace. -/
def sampleText : String :=
  "RECEIVED: a;\r\n\tMon, 1 Jan 2024 0:0:9 +0\nSubject: x\r\nreceived: \n" ++
    "Received: b; Mon, 1 Jan 2024 0:0:4 +0\r\n\r\nReceived: c; Mon, 1 Jan 2024 0:1:0 +0\n\n"

/-- The trace of the message, and its delay, which is also that of its fields the other way round. -/
theorem trace_of_headed_folded :
    receivedValues sampleText
        = ["a;\r\n\tMon, 1 Jan 2024 0:0:9 +0", "", "b; Mon, 1 Jan 2024 0:0:4 +0"] ∧
      ∃ n, messageDelay sampleText = .ok n ∧
        messageDelay (headed sampleFields.reverse .feed []) = .ok n := by
  have hplain : ∀ p ∈ sampleFields, IsPlain p.1 := by
    have hfold : Folded "a;\r\n\tMon, 1 Jan 2024 0:0:9 +0".toList :=
      .char (by decide) (.char (by decide) (.fold .returnFeed (by decide)
        (.of_not_isLineEnd (not_isLineEnd_of_any (by decide)))))
    simp only [sampleFields, List.forall_mem_cons]
    exact ⟨⟨by decide, hfold, not_isSpaceOrTab_of_any (by decide)⟩,
      ⟨by decide, .of_not_isLineEnd (not_isLineEnd_of_any (by decide)),
        not_isSpaceOrTab_of_any (by decide)⟩,
      ⟨by decide, .nil, not_isSpaceOrTab_of_any (by decide)⟩,
      ⟨by decide, .of_not_isLineEnd (not_isLineEnd_of_any (by decide)),
        not_isSpaceOrTab_of_any (by decide)⟩, List.forall_mem_nil _⟩
  have htext : sampleText
      = headed sampleFields .returnFeed "Received: c; Mon, 1 Jan 2024 0:1:0 +0\n\n".toList := by
    decide +kernel
  rw [htext]
  obtain ⟨hvalues, n, hn, hall⟩ := trace_of_headed hplain .returnFeed _
  exact ⟨hvalues, n, hn, hall _ .feed [] ((List.reverse_perm sampleFields).map Prod.fst)⟩

/-! ### Header blocks -/

/-- **The header block has the trace of the message**, whatever two breaks are put behind it. -/
theorem receivedValues_headerBlock {raw : String} (h : headerBlock raw ≠ "") (b b' : Break) :
    receivedValues (headerBlock raw ++ String.ofList (b.chars ++ b'.chars)) = receivedValues raw := by
  obtain ⟨t, ht⟩ : ∃ t, headerBlock? raw.toList = some t := by
    rw [headerBlock] at h
    cases hs : headerBlock? raw.toList with
    | none =>
      rw [hs] at h
      exact absurd rfl h
    | some t => exact ⟨t, rfl⟩
  have htext : (headerBlock raw ++ String.ofList (b.chars ++ b'.chars)).toList
      = t ++ b.chars ++ (b'.chars ++ []) := by
    rw [headerBlock, ht, Option.getD_some, String.toList_append, String.toList_ofList,
      String.toList_ofList, List.append_nil, List.append_assoc]
  rw [receivedValues, receivedValues, Section.values, Section.values, htext,
    fields_readSection_append_breaks, fields_of_headerBlock? ht]

theorem header_delivery (token data : String) (now : Time) :
    (Stage.delivery token data now).header = headerBlock data := by
  show (Stage.recordedParts data).1.header = headerBlock data
  rw [Stage.recordedParts, splitMessage]
  cases bodyText data with
  | ok body => rfl
  | error f => rfl

/-- **The header that is written to a ping justifies the delay that is written beside it.** The times of
the header with an empty line behind it are those of the message, so the delay can be found again. -/
theorem header_justifies_delay {raw : String} (h : headerBlock raw ≠ "") :
    receivedTimes (headerBlock raw ++ "\n\n") = receivedTimes raw ∧
      ∀ (token : String) (now : Time) (l : Ledger.Line), ∃ (header : String) (n : Nat),
        (l.receive (Stage.delivery token raw now)).header = .text header ∧
        (l.receive (Stage.delivery token raw now)).delay = .int n ∧
        messageDelay (header ++ "\n\n") = .ok n := by
  have htimes : receivedTimes (headerBlock raw ++ "\n\n") = receivedTimes raw := by
    rw [receivedTimes, receivedTimes]
    exact congrArg _ (receivedValues_headerBlock h .feed .feed)
  refine ⟨htimes, fun token now l => ?_⟩
  refine ⟨headerBlock raw, Stage.recordedDelay raw, ?_, rfl, ?_⟩
  · show Database.Value.text (Stage.delivery token raw now).header = _
    rw [header_delivery]
  · rw [messageDelay, htimes]
    exact messageDelay_eq_recordedDelay raw

/-- Carriage returns alone, a sender line, and a line that is no header line. -/
theorem header_justifies_delay_malformed :
    headerBlock "From x\nReceived: Mon, 1 Jan 2024 0:0:4 +0\rReceived: b\r\nno field\n\nbody"
        = "From x\nReceived: Mon, 1 Jan 2024 0:0:4 +0\rReceived: b\r\nno field" ∧
      receivedTimes "From x\nReceived: Mon, 1 Jan 2024 0:0:4 +0\rReceived: b\r\nno field\n\n"
        = receivedTimes
          "From x\nReceived: Mon, 1 Jan 2024 0:0:4 +0\rReceived: b\r\nno field\n\nbody" := by
  have hblock : headerBlock
      "From x\nReceived: Mon, 1 Jan 2024 0:0:4 +0\rReceived: b\r\nno field\n\nbody"
        = "From x\nReceived: Mon, 1 Jan 2024 0:0:4 +0\rReceived: b\r\nno field" := by
    decide +kernel
  have htimes := (header_justifies_delay (by rw [hblock]; decide)).1
  rw [hblock] at htimes
  exact ⟨hblock, htimes⟩

/-! ### Folds -/

theorem exists_field_of_mem_receivedValues {raw v : String} (h : v ∈ receivedValues raw) :
    ∃ f ∈ (readSection raw.toList).fields, v.toList = f.value := by
  obtain ⟨s, hs, rfl⟩ := List.mem_map.mp h
  obtain ⟨f, hf, rfl⟩ := List.mem_map.mp hs
  exact ⟨f, (List.mem_filter.mp hf).1, String.toList_ofList⟩

/-- **Unfolding leaves no fold behind in the trace of any message.** A value is unfolded to a text without
line feeds that has the same ink in the same order, and that is not changed when it is unfolded again. It is
the value with a single space for each gap of a row of texts without line feeds. -/
theorem unfold_of_mem_receivedValues (raw : String) : ∀ v ∈ receivedValues raw,
    '\n' ∉ unfold v.toList ∧
      (unfold v.toList).filter isInk = v.toList.filter isInk ∧
      unfold (unfold v.toList) = unfold v.toList ∧
      ∃ ws, Spaced ws v.toList ∧ (∀ w ∈ ws, '\n' ∉ w) ∧ unfold v.toList = [' '].intercalate ws := by
  intro v hv
  obtain ⟨f, hf, hvalue⟩ := exists_field_of_mem_receivedValues hv
  have hfold : FeedsFold v.toList := by
    rw [hvalue]
    exact feedsFold_of_mem_fields hf
  have hfeed : '\n' ∉ unfold v.toList := not_mem_unfold_iff.mpr hfold
  obtain ⟨ws, hs, hrow⟩ := exists_spaced_unfold v.toList
  refine ⟨hfeed, filter_isInk_unfold v.toList, unfold_unfold hfold, ws, hs, fun w hw hmem => ?_, hrow⟩
  rw [hrow] at hfeed
  exact hfeed (hs.mem_intercalate hw hmem)

/-- A message with a sender line, a field without a name, all kinds of line ends, a line of white space, and
a line that is no header line. -/
def raggedText : String :=
  "From x\n: y\nReceived:\ta \r\n \t\n b\rreceived:c\r d\n\tand e\r\nno field\n\nReceived: f"

/-- Two folds in a row, and a carriage return alone beside a fold. -/
theorem unfold_of_mem_receivedValues_ragged :
    receivedValues raggedText = ["a \r\n \t\n b", "c\r d\n\tand e"] ∧
      '\n' ∉ unfold "a \r\n \t\n b".toList ∧
      (unfold "c\r d\n\tand e".toList).filter isInk = "cdande".toList ∧
      unfold (unfold "a \r\n \t\n b".toList) = unfold "a \r\n \t\n b".toList := by
  have hvalues : receivedValues raggedText = ["a \r\n \t\n b", "c\r d\n\tand e"] := by
    decide +kernel
  obtain ⟨hfeed, -, honce, -⟩ := unfold_of_mem_receivedValues raggedText "a \r\n \t\n b"
    (by rw [hvalues]; exact List.mem_cons_self)
  obtain ⟨-, hink, -⟩ := unfold_of_mem_receivedValues raggedText "c\r d\n\tand e"
    (by rw [hvalues]; exact List.mem_cons_of_mem _ List.mem_cons_self)
  exact ⟨hvalues, hfeed, hink.trans (by decide), honce⟩

end DeliveryWatch.Trace
