/-
Header sections as they are laid out in a message, field by field.

* `RawField` — a field as it stands in a message, with its folds and the break behind it; `layout` puts
  fields one after another;
* `ofLines_lines_text` — the lines of a field are read as this field;
* `gather_layout` — so are the lines of a layout, whatever follows them;
* `readSection_layout` — a layout with an empty line behind it is read as its fields, and what follows
  is the body, line by line;
* `value?_of_fields` — the first field of a name counts.
-/
import DeliveryWatch.Message.Metadata
import DeliveryWatch.Proofs.Outcome
import DeliveryWatch.Proofs.Text.Lines

namespace DeliveryWatch.Message

open Text

/-! ### Names of fields -/

/-- A name of a field: visible characters of ASCII without a colon, at least one. -/
structure IsName (s : List Char) : Prop where
  ne : s ≠ []
  chars : ∀ c ∈ s, isNameChar c = true

instance (s : List Char) : Decidable (IsName s) :=
  decidable_of_iff (s ≠ [] ∧ s.all isNameChar = true)
    ⟨fun h => ⟨h.1, List.all_eq_true.mp h.2⟩, fun h => ⟨h.ne, List.all_eq_true.mpr h.chars⟩⟩

/-- A text without line ends, as it can be checked. -/
theorem not_isLineEnd_of_any {s : List Char} (h : s.any isLineEnd = false) :
    ∀ c ∈ s, isLineEnd c = false := by
  intro c hc
  have := List.any_eq_false.mp h c hc
  rwa [Bool.not_eq_true] at this

theorem not_isLineEnd_of_isNameChar {c : Char} (h : isNameChar c = true) : isLineEnd c = false := by
  cases he : isLineEnd c with
  | false => rfl
  | true =>
    simp only [isLineEnd, Bool.or_eq_true, beq_iff_eq] at he
    rcases he with rfl | rfl
    · exact absurd h (by decide)
    · exact absurd h (by decide)

theorem not_isSpaceOrTab_of_isNameChar {c : Char} (h : isNameChar c = true) :
    isSpaceOrTab c = false := by
  cases hs : isSpaceOrTab c with
  | false => rfl
  | true =>
    simp only [isSpaceOrTab, Bool.or_eq_true, beq_iff_eq] at hs
    rcases hs with rfl | rfl
    · exact absurd h (by decide)
    · exact absurd h (by decide)

namespace IsName

variable {name : List Char} (h : IsName name)

include h

theorem not_isLineEnd : ∀ c ∈ name, isLineEnd c = false :=
  fun c hc => not_isLineEnd_of_isNameChar (h.chars c hc)

theorem dropWhile_append (r : List Char) : (name ++ ':' :: r).dropWhile isNameChar = ':' :: r := by
  rw [List.dropWhile_append_of_pos h.chars]
  rfl

/-- A name is followed by its colon, so the line is no sender line. -/
theorem isSenderLine_append (r : List Char) : isSenderLine (name ++ ':' :: r) = false := by
  rw [isSenderLine, Bool.eq_false_iff]
  intro hp
  obtain ⟨t, ht⟩ := List.isPrefixOf_iff_prefix.mp hp
  have hsender : (senderMark ++ t).dropWhile isNameChar = ' ' :: t := rfl
  rw [ht, h.dropWhile_append] at hsender
  cases hsender

theorem isHeaderLine_append (r : List Char) : isHeaderLine (name ++ ':' :: r) = true := by
  have hstart : isFieldStart (name ++ ':' :: r) = true := by
    rw [isFieldStart, h.dropWhile_append]
    rfl
  rw [isHeaderLine, hstart, Bool.or_true, Bool.true_or]

theorem exists_head (r : List Char) : ∃ c s, name ++ r = c :: s ∧ isNameChar c = true := by
  obtain ⟨c, s, hname⟩ := List.exists_cons_of_ne_nil h.ne
  refine ⟨c, s ++ r, ?_, h.chars c ?_⟩
  · rw [hname]
    rfl
  · rw [hname]
    exact List.mem_cons_self

theorem isContinuation_append (r : List Char) : isContinuation (name ++ r) = false := by
  obtain ⟨c, s, hline, hc⟩ := h.exists_head r
  rw [isContinuation, hline]
  exact not_isSpaceOrTab_of_isNameChar hc

theorem head?_append (r : List Char) : (name ++ r).head? ≠ some ':' := by
  obtain ⟨c, s, hline, hc⟩ := h.exists_head r
  rw [hline]
  intro heq
  cases heq
  exact absurd hc (by decide)

theorem cut_append (r : List Char) : (name ++ ':' :: r).takeWhile (· != ':') = name ∧
    (name ++ ':' :: r).dropWhile (· != ':') = ':' :: r := by
  have hcolon : ∀ c ∈ name, (c != ':') = true := by
    intro c hc
    have hn := h.chars c hc
    rw [bne_iff_ne]
    rintro rfl
    exact absurd hn (by decide)
  refine ⟨?_, ?_⟩
  · rw [List.takeWhile_append_of_pos hcolon]
    exact List.append_nil _
  · rw [List.dropWhile_append_of_pos hcolon]
    rfl

end IsName

/-! ### Breaks and folds -/

/-- A line break of a message: a line feed, with a carriage return in front of it or without. -/
inductive Break
  | feed
  | returnFeed
  deriving Repr, DecidableEq

namespace Break

def chars : Break → List Char
  | feed => ['\n']
  | returnFeed => ['\r', '\n']

theorem exists_chars (b : Break) : ∃ x, b.chars = x ++ ['\n'] := by
  cases b with
  | feed => exact ⟨[], rfl⟩
  | returnFeed => exact ⟨['\r'], rfl⟩

theorem isEmptyLine_chars (b : Break) (r : List Char) : isEmptyLine (b.chars ++ r) = true := by
  cases b with
  | feed => rfl
  | returnFeed => rfl

theorem lines_chars_append (b : Break) (r : List Char) : lines (b.chars ++ r) = b.chars :: lines r := by
  cases b with
  | feed => rfl
  | returnFeed => rfl

end Break

/-- Behind a break a new line starts. -/
theorem lines_append_break (x : List Char) (b : Break) (r : List Char) :
    lines (x ++ b.chars ++ r) = lines (x ++ b.chars) ++ lines r := by
  obtain ⟨y, hy⟩ := b.exists_chars
  rw [hy, ← List.append_assoc, List.append_assoc]
  exact lines_append_feed (x ++ y) r

/-- A text with folds: each break in it stands before a space or a tab, and no other character of it ends
a line. -/
inductive Folded : List Char → Prop
  | nil : Folded []
  | char {c : Char} {r : List Char} (hc : isLineEnd c = false) (hr : Folded r) : Folded (c :: r)
  | fold (b : Break) {c : Char} {r : List Char} (hc : isSpaceOrTab c = true) (hr : Folded r) :
      Folded (b.chars ++ c :: r)

theorem not_isLineEnd_of_isSpaceOrTab {c : Char} (h : isSpaceOrTab c = true) :
    isLineEnd c = false := by
  simp only [isSpaceOrTab, Bool.or_eq_true, beq_iff_eq] at h
  rcases h with rfl | rfl
  · rfl
  · rfl

namespace Folded

/-- A text on one line has no folds. -/
theorem of_not_isLineEnd {s : List Char} (h : ∀ c ∈ s, isLineEnd c = false) : Folded s := by
  induction s with
  | nil => exact nil
  | cons c r ih => exact char (h c List.mem_cons_self) (ih fun d hd => h d (List.mem_cons_of_mem c hd))

variable {v : List Char} (h : Folded v)

include h

theorem isContinuation_lines (b : Break) :
    ∀ l ∈ (lines (v ++ b.chars)).tail, isContinuation l = true := by
  induction h with
  | nil =>
    intro l hl
    rw [List.nil_append, ← List.append_nil b.chars, b.lines_chars_append] at hl
    cases hl
  -- only behind a fold does a new line start
  | char hc _ ih =>
    rw [List.cons_append, lines_cons hc]
    exact ih
  | @fold b' c r hc _ ih =>
    intro l hl
    rw [List.append_assoc, b'.lines_chars_append, List.cons_append,
      lines_cons (not_isLineEnd_of_isSpaceOrTab hc)] at hl
    rcases List.mem_cons.mp hl with rfl | hl
    · exact hc
    · exact ih l hl

theorem not_isLineEnd_getLast : ∀ c ∈ v.getLast?, isLineEnd c = false := by
  induction h with
  | nil =>
    intro c hc
    cases hc
  | @char c r hc _ ih =>
    intro d hd
    -- a fold ends with white space or with what follows it, and never with its break
    cases r with
    | nil =>
      cases hd
      exact hc
    | cons e r => exact ih d hd
  | @fold b c r hc _ ih =>
    intro d hd
    rw [List.getLast?_append, List.getLast?_cons] at hd
    cases hr : r.getLast? with
    | none =>
      rw [hr] at hd
      cases hd
      exact not_isLineEnd_of_isSpaceOrTab hc
    | some e =>
      rw [hr] at hd
      cases hd
      exact ih e hr

end Folded

/-! ### Fields -/

/-- A field as it stands in a message: its name, what follows the colon, and the break behind it. -/
structure RawField where
  name : List Char
  value : List Char
  ending : Break
  deriving Repr, DecidableEq

namespace RawField

/-- The text of a field. -/
def text (f : RawField) : List Char := f.name ++ ':' :: f.value ++ f.ending.chars

/-- A field with a name, and with a value that goes on over line breaks by folds only. -/
structure IsWritten (f : RawField) : Prop where
  name : IsName f.name
  value : Folded f.value

/-- The field that is read: white space in front of the value is no part of it. -/
def shown (f : RawField) : Field := ⟨f.name, f.value.dropWhile isSpaceOrTab⟩

/-- Behind a field a new line starts. -/
theorem lines_text_append (f : RawField) (r : List Char) :
    lines (f.text ++ r) = lines f.text ++ lines r := lines_append_break _ f.ending r

end RawField

theorem dropWhile_head_lines {s : List Char} (hs : ∃ c ∈ s, isSpaceOrTab c = false) :
    ((lines s).head?.getD []).dropWhile isSpaceOrTab ++ (lines s).tail.flatten
      = s.dropWhile isSpaceOrTab := by
  induction s with
  | nil =>
    obtain ⟨c, hc, -⟩ := hs
    cases hc
  | cons c r ih =>
    cases hc : isSpaceOrTab c with
    | true =>
      have hr : ∃ d ∈ r, isSpaceOrTab d = false := by
        obtain ⟨d, hd, hne⟩ := hs
        rcases List.mem_cons.mp hd with rfl | hd
        · rw [hc] at hne
          cases hne
        -- white space ends no line, so the first line is cut where the text is
        · exact ⟨d, hd, hne⟩
      rw [lines_cons (not_isLineEnd_of_isSpaceOrTab hc), List.dropWhile_cons_of_pos hc, ← ih hr]
      show (c :: (lines r).head?.getD []).dropWhile isSpaceOrTab ++ (lines r).tail.flatten = _
      rw [List.dropWhile_cons_of_pos hc]
    | false =>
      obtain ⟨l, ls, hl⟩ := exists_lines_of_cons c r
      have hflat := flatten_lines (c :: r)
      rw [hl, List.flatten_cons] at hflat
      rw [hl, List.dropWhile_cons_of_neg (by simp [hc])]
      show (c :: l).dropWhile isSpaceOrTab ++ ls.flatten = _
      rw [List.dropWhile_cons_of_neg (by simp [hc]), hflat]

namespace RawField.IsWritten

variable {f : RawField} (h : f.IsWritten)

include h

/-- The lines of a field: the first starts with its name, and the others go on with it. -/
theorem exists_lines_text : ∃ first more, lines f.text = (f.name ++ ':' :: first) :: more ∧
    (∀ l ∈ more, isContinuation l = true) ∧
    first.dropWhile isSpaceOrTab ++ more.flatten
      = f.value.dropWhile isSpaceOrTab ++ f.ending.chars := by
  have hplain : ∀ c ∈ f.name ++ [':'], isLineEnd c = false := by
    intro c hc
    rcases List.mem_append.mp hc with hc | hc
    · exact h.name.not_isLineEnd c hc
    · rw [List.mem_singleton.mp hc]
      rfl
  have htext : f.text = f.name ++ [':'] ++ (f.value ++ f.ending.chars) := by
    simp [text]
  have hends : ∃ c ∈ f.value ++ f.ending.chars, isSpaceOrTab c = false := by
    obtain ⟨x, hx⟩ := f.ending.exists_chars
    refine ⟨'\n', ?_, rfl⟩
    simp [hx]
  -- the break stays where the value is white space only
  have hfront : (f.value ++ f.ending.chars).dropWhile isSpaceOrTab
      = f.value.dropWhile isSpaceOrTab ++ f.ending.chars := by
    rw [List.dropWhile_append]
    split
    · rename_i he
      rw [List.isEmpty_iff.mp he]
      cases f.ending with
      | feed => rfl
      | returnFeed => rfl
    · rfl
  refine ⟨(lines (f.value ++ f.ending.chars)).head?.getD [], (lines (f.value ++ f.ending.chars)).tail,
    ?_, h.value.isContinuation_lines f.ending, ?_⟩
  · rw [htext, lines_append_of_plain hplain (by simp)]
    simp
  · rw [dropWhile_head_lines hends, hfront]

/-- **The lines of a field are read as this field.** -/
theorem ofLines_lines_text {first : List Char} {more : List (List Char)}
    (hlines : first.dropWhile isSpaceOrTab ++ more.flatten
      = f.value.dropWhile isSpaceOrTab ++ f.ending.chars) :
    Field.ofLines (f.name ++ ':' :: first) more = f.shown := by
  obtain ⟨hname, hrest⟩ := h.name.cut_append first
  -- the value does not end with a line end, so the dropping stops in front of the break
  have hstays : dropEndWhile isLineEnd (f.value.dropWhile isSpaceOrTab)
      = f.value.dropWhile isSpaceOrTab := by
    refine dropEndWhile_of_getLast ?_
    intro c hc
    obtain ⟨t, ht⟩ := List.dropWhile_suffix (l := f.value) isSpaceOrTab
    refine h.value.not_isLineEnd_getLast c ?_
    rw [← ht, List.getLast?_append, hc]
    rfl
  have hend : dropEndWhile isLineEnd (f.value.dropWhile isSpaceOrTab ++ f.ending.chars)
      = f.value.dropWhile isSpaceOrTab := by
    refine Eq.trans ?_ hstays
    cases f.ending with
    | feed => simp [dropEndWhile, Break.chars, isLineEnd]
    | returnFeed => simp [dropEndWhile, Break.chars, isLineEnd]
  rw [Field.ofLines, hname, hrest]
  show Field.mk f.name (dropEndWhile isLineEnd (first.dropWhile isSpaceOrTab ++ more.flatten)) = _
  rw [hlines, hend, shown]

theorem isHeaderLine_of_mem : ∀ l ∈ lines f.text, isHeaderLine l = true := by
  obtain ⟨first, more, hlines, hmore, -⟩ := h.exists_lines_text
  intro l hl
  rw [hlines] at hl
  rcases List.mem_cons.mp hl with rfl | hl
  · exact h.name.isHeaderLine_append first
  · rw [isHeaderLine, hmore l hl, Bool.or_true]

end RawField.IsWritten

/-! ### Fields one after another -/

/-- Put fields in front of those that were gathered. -/
def Gathered.behind (fs : List Field) (g : Gathered) : Gathered := { g with fields := fs ++ g.fields }

/-- A line that does not go on with a field. -/
theorem gather_cons {l : List Char} (h : isContinuation l = false) (atStart : Bool)
    (current : Option (List Char × List (List Char))) (ls : List (List Char)) :
    gather atStart current (l :: ls) =
      (if isSenderLine l then
          if !atStart && ls.isEmpty then { returned := [l] } else gather false none ls
        else if l.head? = some ':' then gather false none ls
        else gather false (some (l, [])) ls : Gathered).opening current := by
  rw [gather.eq_def]
  simp only [h, Bool.false_eq_true, if_false]

theorem gather_of_starts {ls : List (List Char)} (h : ∀ l ∈ ls.head?, isContinuation l = false)
    (atStart : Bool) (current : Option (List Char × List (List Char))) :
    gather atStart current ls = (gather atStart none ls).opening current := by
  cases ls with
  | nil => rfl
  | cons l rest =>
    rw [gather_cons (h l rfl), gather_cons (h l rfl) atStart none]
    rfl

theorem gather_continuations {more : List (List Char)} (h : ∀ l ∈ more, isContinuation l = true)
    (first : List Char) (before ls : List (List Char)) :
    gather false (some (first, before)) (more ++ ls)
      = gather false (some (first, before ++ more)) ls := by
  induction more generalizing before with
  | nil => rw [List.nil_append, List.append_nil]
  | cons l more ih =>
    rw [List.cons_append, gather.eq_def]
    simp only [h l List.mem_cons_self, if_true]
    rw [ih fun m hm => h m (List.mem_cons_of_mem l hm), List.append_assoc]
    rfl

theorem gather_lines_text {f : RawField} (hf : f.IsWritten) {ls : List (List Char)}
    (h : ∀ l ∈ ls.head?, isContinuation l = false) (atStart : Bool) :
    gather atStart none (lines f.text ++ ls) = (gather false none ls).behind [f.shown] := by
  obtain ⟨first, more, hlines, hmore, hvalue⟩ := hf.exists_lines_text
  rw [hlines, List.cons_append, gather_cons (hf.name.isContinuation_append _),
    hf.name.isSenderLine_append, if_neg Bool.false_ne_true, if_neg (hf.name.head?_append _),
    gather_continuations hmore, gather_of_starts h]
  show ({ gather false none ls with
    fields := Field.ofLines (f.name ++ ':' :: first) more :: (gather false none ls).fields } : Gathered) = _
  rw [hf.ofLines_lines_text hvalue]
  rfl

/-- Fields one after another. -/
def layout (fs : List RawField) : List Char := fs.flatMap RawField.text

/-- The lines of a layout. -/
def layoutLines (fs : List RawField) : List (List Char) := fs.flatMap fun f => lines f.text

theorem lines_layout_append (fs : List RawField) (r : List Char) :
    lines (layout fs ++ r) = layoutLines fs ++ lines r := by
  induction fs with
  | nil => rfl
  | cons f fs ih =>
    show lines (f.text ++ layout fs ++ r) = lines f.text ++ layoutLines fs ++ lines r
    rw [List.append_assoc, f.lines_text_append, ih, List.append_assoc]

section Layout

variable {fs : List RawField} (hfs : ∀ f ∈ fs, f.IsWritten)

include hfs

theorem isHeaderLine_of_mem_layout : ∀ l ∈ layoutLines fs, isHeaderLine l = true := by
  intro l hl
  obtain ⟨f, hf, hl⟩ := List.mem_flatMap.mp hl
  exact (hfs f hf).isHeaderLine_of_mem l hl

/-- **The lines of a layout are gathered as its fields**, whatever follows them. -/
theorem gather_layout {ls : List (List Char)} (h : ∀ l ∈ ls.head?, isContinuation l = false)
    (atStart : Bool) : gather atStart none (layoutLines fs ++ ls)
      = (gather (atStart && fs.isEmpty) none ls).behind (fs.map RawField.shown) := by
  induction fs generalizing atStart with
  | nil =>
    rw [List.isEmpty_nil, Bool.and_true]
    rfl
  | cons f fs ih =>
    have hrest : ∀ g ∈ fs, g.IsWritten := fun g hg => hfs g (List.mem_cons_of_mem f hg)
    -- what follows the field starts with another field, or with the lines behind all of them
    have hnext : ∀ l ∈ (layoutLines fs ++ ls).head?, isContinuation l = false := by
      cases fs with
      | nil => exact h
      | cons g fs =>
        have hg := hrest g List.mem_cons_self
        obtain ⟨first, more, hlines, -, -⟩ := hg.exists_lines_text
        intro l hl
        rw [layoutLines, List.flatMap_cons, hlines] at hl
        cases hl
        exact hg.name.isContinuation_append _
    show gather atStart none (lines f.text ++ layoutLines fs ++ ls) = _
    rw [List.append_assoc, gather_lines_text (hfs f List.mem_cons_self) hnext, ih hrest]
    rw [List.isEmpty_cons, Bool.and_false, Bool.false_and]
    rfl

end Layout

/-! ### The header section -/

/-- The lines of a section up to the first that cannot stand in a header. -/
theorem sectionOfLines_append {ls : List (List Char)} (hls : ∀ l ∈ ls, isHeaderLine l = true)
    {l : List Char} (hl : isHeaderLine l = false) (rest : List (List Char)) :
    sectionOfLines (ls ++ l :: rest) =
      if isEmptyLine l then
        ⟨(gather true none ls).fields, (gather true none ls).returned ++ rest,
          (gather true none ls).defects⟩
      else
        ⟨(gather true none ls).fields, (gather true none ls).returned ++ l :: rest,
          .missingSeparator :: (gather true none ls).defects⟩ := by
  rw [sectionOfLines, List.takeWhile_append_of_pos hls, List.dropWhile_append_of_pos hls,
    List.takeWhile_cons_of_neg (by simp [hl]), List.dropWhile_cons_of_neg (by simp [hl]),
    List.append_nil]

theorem isHeaderLine_of_isEmptyLine {l : List Char} (h : isEmptyLine l = true) :
    isHeaderLine l = false := by
  cases l with
  | nil => cases h
  | cons c r =>
    have hc : isLineEnd c = true := h
    simp only [isLineEnd, Bool.or_eq_true, beq_iff_eq] at hc
    rcases hc with rfl | rfl
    · rfl
    · rfl

/-- **A layout with an empty line behind it is read as its fields**, and what follows is the body. -/
theorem readSection_layout {fs : List RawField} (hfs : ∀ f ∈ fs, f.IsWritten) (b : Break)
    (body : List Char) : readSection (layout fs ++ b.chars ++ body)
      = ⟨fs.map RawField.shown, lines body, []⟩ := by
  have hempty : isEmptyLine b.chars = true := by
    have := b.isEmptyLine_chars []
    rwa [List.append_nil] at this
  have hgather : gather true none (layoutLines fs) = Gathered.behind (fs.map RawField.shown) {} := by
    have hnone : ∀ l ∈ ([] : List (List Char)).head?, isContinuation l = false := nofun
    have := gather_layout hfs hnone true
    rw [List.append_nil] at this
    exact this
  rw [readSection, List.append_assoc, lines_layout_append, b.lines_chars_append,
    sectionOfLines_append (isHeaderLine_of_mem_layout hfs) (isHeaderLine_of_isEmptyLine hempty),
    if_pos hempty, hgather]
  simp [Gathered.behind]

theorem fields_sectionOfLines (ls : List (List Char)) :
    (sectionOfLines ls).fields = (gather true none (ls.takeWhile isHeaderLine)).fields := by
  rw [sectionOfLines]
  split
  · rfl
  · split
    · rfl
    · rfl

/-- **A text that starts with a layout is read as its fields**, as long as another field follows them. -/
theorem fields_readSection {fs : List RawField} (hfs : ∀ f ∈ fs, f.IsWritten) {name : List Char}
    (hname : IsName name) (r : List Char) :
    ∃ more, (readSection (layout fs ++ (name ++ ':' :: r))).fields
      = fs.map RawField.shown ++ more := by
  -- the field behind the layout need not end; its name is enough to start a line
  have hplain : ∀ c ∈ name ++ [':'], isLineEnd c = false := by
    intro c hc
    rcases List.mem_append.mp hc with hc | hc
    · exact hname.not_isLineEnd c hc
    · rw [List.mem_singleton.mp hc]
      rfl
  obtain ⟨y, rest, hlines⟩ : ∃ y rest, lines (name ++ ':' :: r) = (name ++ ':' :: y) :: rest := by
    refine ⟨(lines r).head?.getD [], (lines r).tail, ?_⟩
    have := lines_append_of_plain hplain (by simp) r
    simpa using this
  have hstarts : ∀ l ∈ ((name ++ ':' :: y) :: rest.takeWhile isHeaderLine).head?,
      isContinuation l = false := by
    intro l hl
    cases hl
    exact hname.isContinuation_append _
  rw [readSection, fields_sectionOfLines, lines_layout_append, hlines,
    List.takeWhile_append_of_pos (isHeaderLine_of_mem_layout hfs),
    List.takeWhile_cons_of_pos (hname.isHeaderLine_append y), gather_layout hfs hstarts]
  exact ⟨_, rfl⟩

/-- **The first field of a name counts.** -/
theorem value?_of_fields {s : Section} {before more : List Field} {f : Field} {name : String}
    (h : s.fields = before ++ f :: more)
    (hbefore : ∀ g ∈ before, Section.values.lowerName g ≠ name.toList)
    (hf : Section.values.lowerName f = name.toList) : s.value? name = some f.value := by
  have hnone : (before.filter fun g => Section.values.lowerName g == name.toList) = [] := by
    rw [List.filter_eq_nil_iff]
    intro g hg
    simpa using hbefore g hg
  rw [Section.value?, Section.values, h, List.filter_append, hnone, List.nil_append,
    List.filter_cons_of_pos (by simpa using hf), List.map_cons, List.head?_cons]

theorem subject_of_readMetadata {s : String} {m : Metadata} (h : readMetadata (.text s) = .ok m)
    {v : List Char} (hv : (readSection s.toList).value? "subject" = some v)
    (hline : ∀ c ∈ v, isLineEnd c = false) :
    m.subject = some (Header.toText (Header.unstructured (Header.Symbol.ofText v))) := by
  -- of the steps that read a message, only the one that reads the subject matters
  obtain ⟨-, -, h⟩ := Outcome.bind_eq_ok.mp h
  obtain ⟨own, -, h⟩ := Outcome.bind_eq_ok.mp h
  obtain ⟨sender, -, h⟩ := Outcome.bind_eq_ok.mp h
  obtain ⟨recipients, -, h⟩ := Outcome.bind_eq_ok.mp h
  obtain ⟨subject, hsubject, h⟩ := Outcome.bind_eq_ok.mp h
  obtain ⟨date, -, h⟩ := Outcome.bind_eq_ok.mp h
  have hone : (readSection (Raw.text s).chars).oneLine? "subject" = some v := by
    show ((readSection s.toList).value? "subject").map _ = some v
    rw [hv, Option.map_some, List.filter_eq_self.mpr]
    intro c hc
    rw [hline c hc]
    rfl
  rw [fieldText, hone] at hsubject
  cases hsubject
  cases h
  rfl

end DeliveryWatch.Message
