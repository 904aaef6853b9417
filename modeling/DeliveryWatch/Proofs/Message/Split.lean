/-
What the two parts of a split message are.

* `headerBlock?_of_lines` — a text without empty lines is the header block of what starts with it and
  with an empty line behind it, but for its last break;
* `splitMessage_layout` — **splitting undoes a layout**: the header is the text of the fields, and the
  body is what follows the empty line. A stray line among the fields is refused;
* `splitMessage_of_ok` — a message that is split has header lines, an empty line and the rest, and the
  body is the rest, with a sender line given back if the header ends with one;
* `parts_apart_iff` — so no text is in both parts exactly if no line is given back and the header block
  does not reach beyond the empty line.
-/
import DeliveryWatch.Message.Split
import DeliveryWatch.Proofs.Message.Fields

namespace DeliveryWatch.Message

open Text

/-! ### Two breaks in a row -/

theorem afterLineEnd?_chars (b : Break) (r : List Char) : afterLineEnd? (b.chars ++ r) = some r := by
  cases b with
  | feed => rfl
  | returnFeed => rfl

theorem exists_break_of_afterLineEnd? {s r : List Char} (h : afterLineEnd? s = some r) :
    ∃ b : Break, s = b.chars ++ r := by
  rw [afterLineEnd?.eq_def] at h
  split at h
  · cases h
    exact ⟨.feed, rfl⟩
  · cases h
    exact ⟨.returnFeed, rfl⟩
  · cases h

theorem startsDoubleEnd_chars (b b' : Break) (r : List Char) :
    startsDoubleEnd (b.chars ++ (b'.chars ++ r)) = true := by
  rw [startsDoubleEnd, afterLineEnd?_chars, Option.bind_some, afterLineEnd?_chars]
  rfl

theorem exists_breaks_of_startsDoubleEnd {s : List Char} (h : startsDoubleEnd s = true) :
    ∃ (b b' : Break) (r : List Char), s = b.chars ++ (b'.chars ++ r) := by
  rw [startsDoubleEnd] at h
  obtain ⟨r, hr⟩ := Option.isSome_iff_exists.mp h
  obtain ⟨t, ht, hr⟩ := Option.bind_eq_some_iff.mp hr
  obtain ⟨b', rfl⟩ := exists_break_of_afterLineEnd? hr
  obtain ⟨b, rfl⟩ := exists_break_of_afterLineEnd? ht
  exact ⟨b, b', r, rfl⟩

theorem hasBlankLine_append (x : List Char) (b : Break) (r : List Char) :
    hasBlankLine (x ++ '\n' :: (b.chars ++ r)) = true := by
  have hholds : holdsDoubleEnd (x ++ '\n' :: (b.chars ++ r)) = true := by
    induction x with
    | nil =>
      rw [List.nil_append, holdsDoubleEnd, afterLineEnd?_chars]
      rfl
    | cons c x ih =>
      rw [List.cons_append]
      by_cases hc : c = '\n'
      · rw [hc, holdsDoubleEnd, ih, Bool.or_true]
      · rw [holdsDoubleEnd]
        · exact ih
        · exact hc
  rw [hasBlankLine, hholds, Bool.or_true]

/-- A text with two breaks in a row has an empty line, and not at its start. -/
theorem exists_empty_of_holdsDoubleEnd {s : List Char} (h : holdsDoubleEnd s = true) :
    ∃ l ∈ (lines s).tail, isEmptyLine l = true := by
  -- behind a line feed, a break makes an empty line
  have hfeed : ∀ r, holdsDoubleEnd r = true ∨ (afterLineEnd? r).isSome = true →
      (holdsDoubleEnd r = true → ∃ l ∈ (lines r).tail, isEmptyLine l = true) →
      ∃ l ∈ lines r, isEmptyLine l = true := by
    rintro r (hr | hr) ih
    · obtain ⟨l, hl, he⟩ := ih hr
      exact ⟨l, List.mem_of_mem_tail hl, he⟩
    · obtain ⟨t, ht⟩ := Option.isSome_iff_exists.mp hr
      obtain ⟨b, rfl⟩ := exists_break_of_afterLineEnd? ht
      refine ⟨b.chars, ?_, ?_⟩
      · rw [b.lines_chars_append]
        exact List.mem_cons_self
      · simpa using b.isEmptyLine_chars []
  fun_induction lines s with
  | case1 => cases h
  | case2 r ih =>
    rw [holdsDoubleEnd, Bool.or_eq_true] at h
    exact hfeed r h.symm ih
  | case3 r ih =>
    rw [holdsDoubleEnd, holdsDoubleEnd, Bool.or_eq_true] at h
    · exact hfeed r h.symm ih
    · intro heq
      exact absurd heq (by decide)
  -- a carriage return alone starts no break, but it ends a line
  | case4 r _ ih =>
    rw [holdsDoubleEnd] at h
    · obtain ⟨l, hl, he⟩ := ih h
      exact ⟨l, List.mem_of_mem_tail hl, he⟩
    · intro heq
      exact absurd heq (by decide)
  | case5 c r hc _ _ hnil ih =>
    rw [holdsDoubleEnd] at h
    · obtain ⟨l, hl, -⟩ := ih h
      rw [hnil] at hl
      cases hl
    · exact hc
  | case6 c r hc _ _ l ls hcons ih =>
    rw [holdsDoubleEnd] at h
    · rw [hcons] at ih
      exact ih h
    · exact hc

/-! ### The header block -/

/-- The header block is the shortest start of a text that two breaks follow. -/
theorem headerBlock?_eq_some {s h r : List Char} (hs : s = h ++ r) (hne : h ≠ [])
    (hr : startsDoubleEnd r = true)
    (hmin : ∀ x z, x ≠ [] → s = x ++ z → startsDoubleEnd z = true → h.length ≤ x.length) :
    headerBlock? s = some h := by
  induction h generalizing s with
  | nil => exact absurd rfl hne
  | cons c h ih =>
    rw [hs, List.cons_append, headerBlock?]
    cases h with
    | nil => rw [List.nil_append, if_pos hr]
    | cons d h =>
      -- a shorter start that breaks follow would be shorter than the shortest
      have hnot : ¬ startsDoubleEnd (d :: h ++ r) = true := by
        intro hd
        have hlen := hmin [c] (d :: h ++ r) (List.cons_ne_nil c []) hs hd
        simp at hlen
      have hrest : headerBlock? (d :: h ++ r) = some (d :: h) := by
        refine ih rfl (List.cons_ne_nil d h) ?_
        intro x z hx hz hd
        have hlen := hmin (c :: x) z (List.cons_ne_nil c x) (by rw [hs, List.cons_append, hz]; rfl) hd
        simpa using hlen
      rw [if_neg hnot, hrest, Option.map_some]

theorem prefix_of_headerBlock? {s h : List Char} (hs : headerBlock? s = some h) : h <+: s := by
  induction s generalizing h with
  | nil => cases hs
  | cons c r ih =>
    rw [headerBlock?] at hs
    split at hs
    · cases hs
      exact ⟨r, rfl⟩
    · obtain ⟨t, ht, rfl⟩ := Option.map_eq_some_iff.mp hs
      exact List.cons_prefix_cons.mpr ⟨rfl, ih ht⟩

theorem headerBlock_prefix (raw : String) : (headerBlock raw).toList <+: raw.toList := by
  rw [headerBlock, String.toList_ofList]
  cases h : headerBlock? raw.toList with
  | none => exact List.nil_prefix
  | some t => exact prefix_of_headerBlock? h

/-- A text without the break at its end. -/
def withoutBreak (s : List Char) : List Char :=
  match s.reverse with
  | '\n' :: '\r' :: r => r.reverse
  | '\n' :: r => r.reverse
  | _ => s

/-- A text that ends with a line feed ends with a break, and the longer one if both are possible. -/
theorem exists_break_at_end {s : List Char} (h : s.getLast? = some '\n') :
    ∃ b : Break, s = withoutBreak s ++ b.chars ∧
      (b = .feed → (withoutBreak s).getLast? ≠ some '\r') := by
  obtain ⟨x, rfl⟩ := List.getLast?_eq_some_iff.mp h
  -- a carriage return in front of the line feed belongs to the break
  by_cases hx : x.getLast? = some '\r'
  · obtain ⟨y, rfl⟩ := List.getLast?_eq_some_iff.mp hx
    have hcut : withoutBreak (y ++ ['\r'] ++ ['\n']) = y := by
      simp [withoutBreak]
    refine ⟨.returnFeed, ?_, nofun⟩
    rw [hcut]
    simp [Break.chars]
  · have hcut : withoutBreak (x ++ ['\n']) = x := by
      rw [withoutBreak, List.reverse_append]
      show (match '\n' :: x.reverse with
        | '\n' :: '\r' :: r => r.reverse
        | '\n' :: r => r.reverse
        | _ => x ++ ['\n']) = x
      split
      · rename_i r hr
        rw [List.getLast?_eq_head?_reverse, (List.cons.inj hr).2] at hx
        exact absurd rfl hx
      · rename_i r _ hr
        rw [← (List.cons.inj hr).2, List.reverse_reverse]
      · rename_i hne
        exact absurd rfl (hne x.reverse)
    refine ⟨.feed, ?_, fun _ => ?_⟩
    · rw [hcut]
      rfl
    · rw [hcut]
      exact hx

theorem length_le_of_breaks {h x w : List Char} {e b : Break}
    (hreturn : e = .feed → h.getLast? ≠ some '\r') (heq : h ++ e.chars ++ w = x ++ b.chars) :
    h.length ≤ x.length := by
  have hlen := congrArg List.length heq
  simp only [List.length_append] at hlen
  cases e with
  | returnFeed =>
    have hb : b.chars.length ≤ Break.returnFeed.chars.length := by cases b <;> decide
    omega
  | feed =>
    have he : Break.feed.chars.length = 1 := rfl
    cases b with
    | feed => omega
    | returnFeed =>
      have hb : Break.returnFeed.chars.length = 2 := rfl
      by_contra hlt
      have hw : w = [] := List.eq_nil_of_length_eq_zero (by omega)
      -- both breaks end at the same place, so the text would end with a carriage return
      rw [hw, List.append_nil] at heq
      have hsame : h = x ++ ['\r'] := by
        have hfeeds : h ++ ['\n'] = x ++ ['\r'] ++ ['\n'] := by
          rw [List.append_assoc]
          exact heq
        exact List.append_cancel_right hfeeds
      refine hreturn rfl ?_
      rw [hsame, List.getLast?_concat]

/-- Of two ways to cut a list, one in front of an item of which none stands before the other cut. -/
theorem prefix_of_append_cons {α : Type} {p : α → Bool} {as bs cs ds : List α} {b d : α}
    (h : as ++ b :: bs = cs ++ d :: ds) (has : ∀ a ∈ as, p a = false) (hd : p d = true) :
    as <+: cs := by
  rcases List.append_eq_append_iff.mp h with ⟨w, rfl, -⟩ | ⟨w, rfl, hw⟩
  · exact List.prefix_append as w
  · cases w with
    | nil => exact ⟨[], by rw [List.append_nil, List.append_nil]⟩
    | cons e w =>
      have he : d = e := (List.cons.inj hw).1
      have hp := has e (by simp)
      rw [← he, hd] at hp
      cases hp

/-- **A text without empty lines, with an empty line behind it, is the header block** but for its last
break. -/
theorem headerBlock?_of_lines {t : List Char} (hlast : t.getLast? = some '\n')
    (ht : ∀ l ∈ lines t, isEmptyLine l = false) (b : Break) (r : List Char) :
    headerBlock? (t ++ b.chars ++ r) = some (withoutBreak t) := by
  obtain ⟨e, hte, hfeed⟩ := exists_break_at_end hlast
  have hempty : ∀ b : Break, isEmptyLine b.chars = true := by
    intro b
    simpa using b.isEmptyLine_chars []
  have hne : withoutBreak t ≠ [] := by
    intro hnil
    rw [hnil, List.nil_append] at hte
    have hline : e.chars ∈ lines t := by
      rw [hte, ← List.append_nil e.chars, e.lines_chars_append]
      simp
    exact absurd (hempty e) (by simp [ht _ hline])
  refine headerBlock?_eq_some (r := e.chars ++ (b.chars ++ r)) ?_ hne (startsDoubleEnd_chars e b r) ?_
  · rw [← List.append_assoc, ← List.append_assoc, ← hte]
  · -- where two breaks follow, an empty line starts behind the first, and none starts within the text
    intro x z _ hxz hz
    obtain ⟨b₁, b₂, r', rfl⟩ := exists_breaks_of_startsDoubleEnd hz
    have hlines : lines t ++ b.chars :: lines r = lines (x ++ b₁.chars) ++ b₂.chars :: lines r' := by
      obtain ⟨u, hu⟩ := List.getLast?_eq_some_iff.mp hlast
      have hcut : lines (t ++ b.chars ++ r) = lines t ++ b.chars :: lines r := by
        rw [← b.lines_chars_append, List.append_assoc, hu, List.append_assoc]
        exact lines_append_feed u _
      rw [← hcut, hxz, ← List.append_assoc, lines_append_break, b₂.lines_chars_append]
    obtain ⟨w, hw⟩ := prefix_of_append_cons hlines ht (hempty b₂)
    have htext : t ++ w.flatten = x ++ b₁.chars := by
      rw [← flatten_lines t, ← List.flatten_append, hw, flatten_lines]
    rw [hte] at htext
    exact length_le_of_breaks hfeed htext

/-! ### Layouts -/

/-- A line that stands in a header by mistake: it starts no field and goes on with none, and it is no
sender line. -/
structure IsStray (s : List Char) : Prop where
  ne : s ≠ []
  one_line : ∀ c ∈ s, isLineEnd c = false
  head : ∀ c ∈ s.head?, isSpaceOrTab c = false ∧ c ≠ ':'
  not_sender : ¬ senderMark <+: s
  not_field : ∀ name r, IsName name → s ≠ name ++ ':' :: r

namespace IsStray

variable {s : List Char} (h : IsStray s)

include h

theorem exists_head : ∃ c r, s = c :: r ∧ isLineEnd c = false ∧ isSpaceOrTab c = false ∧ c ≠ ':' := by
  obtain ⟨c, r, rfl⟩ := List.exists_cons_of_ne_nil h.ne
  exact ⟨c, r, rfl, h.one_line c List.mem_cons_self, h.head c rfl⟩

theorem lines_append (b : Break) (r : List Char) :
    lines (s ++ b.chars ++ r) = (s ++ b.chars) :: lines r := by
  rw [List.append_assoc, lines_append_of_plain h.one_line h.ne, b.lines_chars_append]
  rfl

theorem isEmptyLine_append (r : List Char) : isEmptyLine (s ++ r) = false := by
  obtain ⟨c, t, rfl, hc, -, -⟩ := h.exists_head
  exact hc

/-- What follows a name in the line is no colon. -/
theorem isFieldStart_append (b : Break) : isFieldStart (s ++ b.chars) = false := by
  have hbreak : (b.chars.dropWhile isNameChar).head? ≠ some ':' := by cases b <;> decide
  rw [isFieldStart, beq_eq_false_iff_ne, List.dropWhile_append]
  split
  · exact hbreak
  · intro hcolon
    obtain ⟨c, r, rfl, -, -, hc⟩ := h.exists_head
    cases hrest : (c :: r).dropWhile isNameChar with
    | nil =>
      rename_i he
      rw [hrest] at he
      exact he rfl
    | cons d t =>
      rw [hrest] at hcolon
      cases hcolon
      -- then the line would start with a name and a colon, or with a colon alone
      have hcut := List.takeWhile_append_dropWhile (p := isNameChar) (l := c :: r)
      rw [hrest] at hcut
      refine h.not_field _ t ⟨?_, fun e he => List.all_eq_true.mp List.all_takeWhile e he⟩ hcut.symm
      intro hnil
      rw [hnil] at hcut
      exact hc (List.cons.inj hcut).1.symm

theorem isSenderLine_append (b : Break) : isSenderLine (s ++ b.chars) = false := by
  rw [isSenderLine, Bool.eq_false_iff]
  intro hp
  have hmark := List.isPrefixOf_iff_prefix.mp hp
  rcases List.prefix_or_prefix_of_prefix hmark (List.prefix_append s b.chars) with hs | ⟨w, hw⟩
  · exact h.not_sender hs
  · cases w with
    | nil =>
      rw [List.append_nil] at hw
      exact h.not_sender ⟨[], by rw [List.append_nil, hw]⟩
    | cons c w =>
      -- the mark would go on in the break, but it has no line end in it
      rw [← hw] at hmark
      have hc := (List.prefix_append_right_inj s).mp hmark
      have hend : isLineEnd c = true := by
        cases b with
        | feed =>
          rw [(List.cons_prefix_cons.mp hc).1]
          rfl
        | returnFeed =>
          rw [(List.cons_prefix_cons.mp hc).1]
          rfl
      have hall : ∀ d ∈ senderMark, isLineEnd d = false := not_isLineEnd_of_any (by decide)
      have hno := hall c (by rw [← hw]; simp)
      rw [hend] at hno
      cases hno

theorem isHeaderLine_append (b : Break) : isHeaderLine (s ++ b.chars) = false := by
  have hcontinuation : isContinuation (s ++ b.chars) = false := by
    obtain ⟨c, r, rfl, -, hc, -⟩ := h.exists_head
    exact hc
  rw [isHeaderLine, h.isSenderLine_append, h.isFieldStart_append, hcontinuation]
  rfl

end IsStray

theorem getLast?_append_break (x : List Char) (b : Break) : (x ++ b.chars).getLast? = some '\n' := by
  obtain ⟨y, hy⟩ := b.exists_chars
  rw [hy, ← List.append_assoc, List.getLast?_concat]

theorem getLast?_append_layout {x : List Char} (hx : x.getLast? = some '\n') (fs : List RawField) :
    (x ++ layout fs).getLast? = some '\n' := by
  induction fs generalizing x with
  | nil =>
    show (x ++ []).getLast? = _
    rw [List.append_nil, hx]
  | cons f fs ih =>
    show (x ++ (f.text ++ layout fs)).getLast? = _
    rw [← List.append_assoc]
    refine ih ?_
    rw [RawField.text, ← List.append_assoc]
    exact getLast?_append_break _ f.ending

theorem getLast?_layout {fs : List RawField} (h : fs ≠ []) : (layout fs).getLast? = some '\n' := by
  obtain ⟨f, fs, rfl⟩ := List.exists_cons_of_ne_nil h
  exact getLast?_append_layout (getLast?_append_break _ f.ending) fs

theorem not_isEmptyLine_of_isHeaderLine {l : List Char} (h : isHeaderLine l = true) :
    isEmptyLine l = false := by
  cases he : isEmptyLine l with
  | false => rfl
  | true =>
    rw [isHeaderLine_of_isEmptyLine he] at h
    cases h

theorem bodyText_append {t : List Char} (hlast : t.getLast? = some '\n') (b : Break) (r : List Char) :
    bodyText (String.ofList (t ++ b.chars ++ r)) =
      match (readSection (t ++ b.chars ++ r)).defects with
      | d :: _ => .error (.malformed d)
      | [] => .ok (String.ofList (readSection (t ++ b.chars ++ r)).body.flatten) := by
  obtain ⟨u, hu⟩ := List.getLast?_eq_some_iff.mp hlast
  have hblank : hasBlankLine (t ++ b.chars ++ r) = true := by
    rw [hu, List.append_assoc, List.append_assoc]
    exact hasBlankLine_append u b r
  unfold bodyText
  rw [String.toList_ofList]
  exact if_pos hblank

theorem headerBlock_of_lines {t : List Char} (hlast : t.getLast? = some '\n')
    (ht : ∀ l ∈ lines t, isEmptyLine l = false) (b : Break) (r : List Char) :
    headerBlock (String.ofList (t ++ b.chars ++ r)) = String.ofList (withoutBreak t) := by
  rw [headerBlock, String.toList_ofList, headerBlock?_of_lines hlast ht]
  rfl

theorem not_isEmptyLine_of_mem_layout {fs : List RawField} (hfs : ∀ f ∈ fs, f.IsWritten) :
    ∀ l ∈ layoutLines fs, isEmptyLine l = false :=
  fun l hl => not_isEmptyLine_of_isHeaderLine (isHeaderLine_of_mem_layout hfs l hl)

theorem lines_layout (fs : List RawField) : lines (layout fs) = layoutLines fs := by
  have h := lines_layout_append fs []
  rw [List.append_nil] at h
  rw [h]
  exact List.append_nil _

section Stray

variable {before after : List RawField} {stray : List Char} (hbefore : ∀ f ∈ before, f.IsWritten)
  (hafter : ∀ f ∈ after, f.IsWritten) (hstray : IsStray stray) (e : Break)

include hstray in
theorem lines_stray (r : List Char) :
    lines (layout before ++ (stray ++ e.chars) ++ layout after ++ r)
      = layoutLines before ++ (stray ++ e.chars) :: (layoutLines after ++ lines r) := by
  rw [List.append_assoc, List.append_assoc, lines_layout_append, hstray.lines_append,
    lines_layout_append]

include hbefore hafter hstray in
theorem not_isEmptyLine_of_mem_stray :
    ∀ l ∈ lines (layout before ++ (stray ++ e.chars) ++ layout after), isEmptyLine l = false := by
  have hcut : ∀ r, lines (layout before ++ (stray ++ e.chars) ++ layout after ++ r) = _ :=
    lines_stray hstray e
  intro l hl
  rw [← List.append_nil (_ ++ layout after), hcut, List.mem_append, List.mem_cons,
    List.mem_append] at hl
  rcases hl with hl | rfl | hl | hl
  · exact not_isEmptyLine_of_mem_layout hbefore l hl
  · exact hstray.isEmptyLine_append e.chars
  · exact not_isEmptyLine_of_mem_layout hafter l hl
  · cases hl

include hbefore hstray in
/-- The reader of fields stops at a stray line, which is not the empty line it looks for. -/
theorem exists_defects_stray (r : List Char) : ∃ more,
    (readSection (layout before ++ (stray ++ e.chars) ++ layout after ++ r)).defects
      = .missingSeparator :: more := by
  rw [readSection, lines_stray hstray e,
    sectionOfLines_append (isHeaderLine_of_mem_layout hbefore) (hstray.isHeaderLine_append e),
    hstray.isEmptyLine_append]
  exact ⟨_, rfl⟩

end Stray

/-- **Splitting undoes a layout.** With an empty line behind it, the header is its text without the last
break, and what follows is the body, whatever it holds. With a stray line in front of the fields, between
them or behind them, the message is refused, and the header is still all the text in front of the empty
line. -/
theorem splitMessage_layout {fs : List RawField} (hne : fs ≠ []) (hfs : ∀ f ∈ fs, f.IsWritten)
    (b : Break) (body : List Char) :
    splitMessage (String.ofList (layout fs ++ b.chars ++ body))
        = .ok ⟨String.ofList (withoutBreak (layout fs)), String.ofList body⟩ ∧
      ∀ (before after : List RawField) (stray : List Char) (e : Break), before ++ after = fs →
        IsStray stray →
        splitMessage (String.ofList
            (layout before ++ (stray ++ e.chars) ++ layout after ++ b.chars ++ body))
          = .error (.malformed .missingSeparator,
              ⟨String.ofList (withoutBreak (layout before ++ (stray ++ e.chars) ++ layout after)),
                ""⟩) := by
  refine ⟨?_, ?_⟩
  · have hlast := getLast?_layout hne
    have hlines : ∀ l ∈ lines (layout fs), isEmptyLine l = false := by
      rw [lines_layout]
      exact not_isEmptyLine_of_mem_layout hfs
    have hbody : bodyText (String.ofList (layout fs ++ b.chars ++ body)) = .ok (String.ofList body) := by
      rw [bodyText_append hlast, readSection_layout hfs]
      simp only [flatten_lines]
    rw [splitMessage, hbody, headerBlock_of_lines hlast hlines]
  · rintro before after stray e rfl hstray
    have hbefore : ∀ f ∈ before, f.IsWritten := fun f hf => hfs f (List.mem_append_left after hf)
    have hafter : ∀ f ∈ after, f.IsWritten := fun f hf => hfs f (List.mem_append_right before hf)
    -- whatever stands behind it, a stray line ends with its own break
    have hlast : (layout before ++ (stray ++ e.chars) ++ layout after).getLast? = some '\n' := by
      refine getLast?_append_layout ?_ after
      rw [← List.append_assoc]
      exact getLast?_append_break _ e
    have hbody : bodyText (String.ofList
        (layout before ++ (stray ++ e.chars) ++ layout after ++ b.chars ++ body))
          = .error (.malformed .missingSeparator) := by
      obtain ⟨more, hmore⟩ := exists_defects_stray hbefore hstray e (b.chars ++ body)
      rw [bodyText_append hlast, List.append_assoc _ b.chars, hmore]
    rw [splitMessage, hbody,
      headerBlock_of_lines hlast (not_isEmptyLine_of_mem_stray hbefore hafter hstray e)]

/-- Folds, mixed breaks, a field without a value, and a body that looks like a header. -/
theorem splitMessage_layout_folded :
    splitMessage "A: 1\r\n\tx\nB:\r\n\r\nC: 2\n\r\r\n\nd"
        = .ok ⟨"A: 1\r\n\tx\nB:", "C: 2\n\r\r\n\nd"⟩ ∧
      splitMessage "A: 1\r\n\tx\nFrom\r\nB:\r\n\r\nC: 2\n\r\r\n\nd"
        = .error (.malformed .missingSeparator, ⟨"A: 1\r\n\tx\nFrom\r\nB:", ""⟩) := by
  have hone : RawField.IsWritten ⟨['A'], " 1\r\n\tx".toList, .feed⟩ :=
    ⟨by decide, .char (by decide) (.char (by decide)
      (.fold .returnFeed (by decide) (.char (by decide) .nil)))⟩
  have htwo : RawField.IsWritten ⟨['B'], [], .returnFeed⟩ := ⟨by decide, .nil⟩
  have hfs : ∀ f ∈ [RawField.mk ['A'] " 1\r\n\tx".toList .feed, ⟨['B'], [], .returnFeed⟩],
      f.IsWritten := by
    simpa using ⟨hone, htwo⟩
  have hstray : IsStray "From".toList := by
    refine ⟨by decide, not_isLineEnd_of_any (by decide), ?_, by decide, ?_⟩
    · rintro c ⟨⟩
      exact ⟨rfl, by decide⟩
    intro name r _ heq
    have hcolon : ':' ∈ "From".toList := by
      rw [heq]
      simp
    exact absurd hcolon (by decide)
  obtain ⟨hsplit, hrefuse⟩ := splitMessage_layout (List.cons_ne_nil _ _) hfs .returnFeed
    "C: 2\n\r\r\n\nd".toList
  exact ⟨hsplit, hrefuse [⟨['A'], " 1\r\n\tx".toList, .feed⟩] [⟨['B'], [], .returnFeed⟩] _ .returnFeed
    rfl hstray⟩

/-! ### Both parts of any message -/

/-- The header lines of a message: those up to the first line that cannot be one. -/
def headerLines (s : List Char) : List (List Char) := (lines s).takeWhile isHeaderLine

/-- The line that ends the header of a message. -/
def endLine (s : List Char) : List Char := ((lines s).dropWhile isHeaderLine).headD []

/-- The last of some lines, if it is a sender line. -/
def lastSender (ls : List (List Char)) : List (List Char) := ls.getLast?.toList.filter isSenderLine

theorem lastSender_cons (l : List Char) (ls : List (List Char)) :
    lastSender (l :: ls) = if ls.isEmpty && isSenderLine l then [l] else lastSender ls := by
  cases ls with
  | nil =>
    cases hl : isSenderLine l with
    | true => simp [lastSender, hl]
    | false => simp [lastSender, hl]
  | cons m ls =>
    rw [lastSender, List.getLast?_cons_cons]
    rfl

theorem isSenderLine_of_isContinuation {l : List Char} (h : isContinuation l = true) :
    isSenderLine l = false := by
  cases l with
  | nil => cases h
  | cons c r =>
    have hc : isSpaceOrTab c = true := h
    simp only [isSpaceOrTab, Bool.or_eq_true, beq_iff_eq] at hc
    rcases hc with rfl | rfl
    · rfl
    · rfl

theorem returned_opening (g : Gathered) (current : Option (List Char × List (List Char))) :
    (g.opening current).returned = g.returned := by
  cases current with
  | none => rfl
  | some p => rfl

/-- A sender line is given back to the body if it is the last header line, and not the first line. -/
theorem returned_gather (atStart : Bool) (current : Option (List Char × List (List Char)))
    (ls : List (List Char)) :
    (gather atStart current ls).returned = lastSender (if atStart then ls.tail else ls) := by
  induction ls generalizing atStart current with
  | nil =>
    rw [gather, returned_opening]
    cases atStart with
    | true => rfl
    | false => rfl
  | cons l ls ih =>
    -- what is not the last line, or no sender line, is passed over
    have hpass : (ls.isEmpty && isSenderLine l) = false →
        lastSender (if atStart then (l :: ls).tail else l :: ls) = lastSender ls := by
      intro h
      cases atStart with
      | true => rfl
      | false =>
        show lastSender (l :: ls) = _
        rw [lastSender_cons, h]
        rfl
    cases hc : isContinuation l with
    | true =>
      rw [hpass (by rw [isSenderLine_of_isContinuation hc, Bool.and_false]), gather.eq_def]
      simp only [hc, if_true]
      cases current with
      | none => exact ih false none
      | some p => exact ih false _
    | false =>
      rw [gather_cons hc, returned_opening]
      cases hs : isSenderLine l with
      | false =>
        rw [hpass (by rw [hs, Bool.and_false]), if_neg Bool.false_ne_true]
        split
        · exact ih false none
        · exact ih false _
      | true =>
        rw [if_pos rfl]
        cases hlast : ls.isEmpty with
        | false =>
          rw [hpass (by rw [hlast, Bool.false_and]), Bool.and_false, if_neg Bool.false_ne_true]
          exact ih false none
        | true =>
          rw [List.isEmpty_iff.mp hlast]
          cases atStart with
          | true => rfl
          | false =>
            show [l] = lastSender [l]
            rw [lastSender_cons, hs]
            rfl

theorem eq_of_isEmptyLine {s l : List Char} (hl : l ∈ lines s) (h : isEmptyLine l = true) :
    (∃ b : Break, l = b.chars) ∨ l = ['\r'] := by
  fun_induction lines s with
  | case1 => cases hl
  | case2 r ih =>
    rcases List.mem_cons.mp hl with rfl | hl
    · exact .inl ⟨.feed, rfl⟩
    · exact ih hl
  | case3 r ih =>
    rcases List.mem_cons.mp hl with rfl | hl
    · exact .inl ⟨.returnFeed, rfl⟩
    · exact ih hl
  | case4 r _ ih =>
    rcases List.mem_cons.mp hl with rfl | hl
    · exact .inr rfl
    · exact ih hl
  -- a line that starts with another sign is not empty
  | case5 c r hfeed _ hreturn _ ih =>
    rw [List.mem_singleton.mp hl] at h
    have hc : isLineEnd c = true := h
    simp only [isLineEnd, Bool.or_eq_true, beq_iff_eq] at hc
    exact absurd hc (not_or.mpr ⟨hreturn, hfeed⟩)
  | case6 c r hfeed _ hreturn m ms hr ih =>
    rcases List.mem_cons.mp hl with rfl | hl
    · have hc : isLineEnd c = true := h
      simp only [isLineEnd, Bool.or_eq_true, beq_iff_eq] at hc
      exact absurd hc (not_or.mpr ⟨hreturn, hfeed⟩)
    · rw [hr] at ih
      exact ih (List.mem_cons_of_mem m hl)

theorem exists_empty_of_hasBlankLine {s : List Char} (h : hasBlankLine s = true) :
    ∃ l ∈ lines s, isEmptyLine l = true := by
  rw [hasBlankLine, Bool.or_eq_true] at h
  rcases h with h | h
  · obtain ⟨t, ht⟩ := Option.isSome_iff_exists.mp h
    obtain ⟨b, rfl⟩ := exists_break_of_afterLineEnd? ht
    refine ⟨b.chars, ?_, by simpa using b.isEmptyLine_chars []⟩
    rw [b.lines_chars_append]
    exact List.mem_cons_self
  · obtain ⟨l, hl, he⟩ := exists_empty_of_holdsDoubleEnd h
    exact ⟨l, List.mem_of_mem_tail hl, he⟩

theorem isHeaderLine_of_mem_headerLines (s : List Char) :
    ∀ l ∈ headerLines s, isHeaderLine l = true :=
  fun l hl => List.all_eq_true.mp List.all_takeWhile l hl

theorem exists_lines_eq_headerLines {s : List Char} (h : ∃ l ∈ lines s, isEmptyLine l = true) :
    ∃ rest, lines s = headerLines s ++ endLine s :: rest ∧ isHeaderLine (endLine s) = false := by
  have hcut := List.takeWhile_append_dropWhile (p := isHeaderLine) (l := lines s)
  rw [← headerLines] at hcut
  rw [endLine]
  cases hrest : (lines s).dropWhile isHeaderLine with
  | nil =>
    -- not all lines are header lines, for one of them is empty
    obtain ⟨l, hl, he⟩ := h
    rw [hrest, List.append_nil] at hcut
    rw [← hcut] at hl
    have hheader := isHeaderLine_of_mem_headerLines s l hl
    rw [isHeaderLine_of_isEmptyLine he] at hheader
    cases hheader
  | cons l rest =>
    rw [hrest] at hcut
    have hl := List.head?_dropWhile_not isHeaderLine (lines s)
    rw [hrest] at hl
    exact ⟨rest, hcut.symm, by simpa using hl⟩

/-- **A message that is split** has header lines, an empty line and the rest, and its body is the rest,
with the last header line in front of it if that is a sender line and not the first line. -/
theorem splitMessage_of_ok {raw : String} {parts : Parts} (h : splitMessage raw = .ok parts) :
    ∃ rest, lines raw.toList = headerLines raw.toList ++ endLine raw.toList :: rest ∧
      isEmptyLine (endLine raw.toList) = true ∧ parts.header = headerBlock raw ∧
      parts.body.toList = (lastSender (headerLines raw.toList).tail).flatten ++ rest.flatten := by
  obtain ⟨body, hbody, rfl⟩ : ∃ body, bodyText raw = .ok body ∧ parts = ⟨headerBlock raw, body⟩ := by
    rw [splitMessage] at h
    split at h
    · rename_i body hbody
      cases h
      exact ⟨body, hbody, rfl⟩
    · cases h
  rw [bodyText] at hbody
  split at hbody
  · rename_i hblank
    obtain ⟨rest, hlines, hend⟩ := exists_lines_eq_headerLines (exists_empty_of_hasBlankLine hblank)
    have hsection :=
      sectionOfLines_append (isHeaderLine_of_mem_headerLines raw.toList) hend rest
    rw [← hlines, ← readSection] at hsection
    by_cases he : isEmptyLine (endLine raw.toList) = true
    · rw [if_pos he] at hsection
      rw [hsection] at hbody
      simp only at hbody
      split at hbody
      · cases hbody
      · cases hbody
        refine ⟨rest, hlines, he, rfl, ?_⟩
        rw [String.toList_ofList, List.flatten_append, returned_gather]
        rfl
    · -- another line there is a defect
      rw [if_neg he] at hsection
      rw [hsection] at hbody
      cases hbody
  · cases hbody

/-- No sender line stands once more behind itself and an empty line. -/
theorem append_ne_of_isSenderLine {l e x : List Char} (hl : isSenderLine l = true)
    (he : (∃ b : Break, e = b.chars) ∨ e = ['\r']) (hx : x.length = e.length) : l ++ e ≠ x ++ l := by
  obtain ⟨t, rfl⟩ := List.isPrefixOf_iff_prefix.mp hl
  have hlen : x.length = 1 ∨ x.length = 2 := by
    rcases he with ⟨b, rfl⟩ | rfl
    · cases b with
      | feed => exact .inl hx
      | returnFeed => exact .inr hx
    · exact .inl hx
  intro heq
  rcases hlen with hlen | hlen
  · obtain ⟨c, rfl⟩ := List.length_eq_one_iff.mp hlen
    simp [senderMark] at heq
  · obtain ⟨c, d, rfl⟩ := List.length_eq_two.mp hlen
    simp [senderMark] at heq

theorem lastSender_eq_nil {ls : List (List Char)} (h : ∀ l ∈ ls.getLast?, isSenderLine l = false) :
    lastSender ls = [] := by
  rw [lastSender, List.filter_eq_nil_iff]
  intro l hl
  rw [h l (Option.mem_toList.mp hl)]
  exact Bool.false_ne_true

/-- A sender line that is given back is in both parts. -/
theorem ne_append_of_lastSender {ls : List (List Char)} {l e r x : List Char}
    (hlast : l ∈ ls.tail.getLast?) (hl : isSenderLine l = true)
    (he : (∃ b : Break, e = b.chars) ∨ e = ['\r']) :
    ls.flatten ++ (e ++ r) ≠ x ++ ((lastSender ls.tail).flatten ++ r) := by
  have hback : (lastSender ls.tail).flatten = l := by
    rw [lastSender, Option.mem_def.mp hlast]
    simp [hl]
  obtain ⟨before, hbefore⟩ : ∃ before, ls = before ++ [l] := by
    refine List.getLast?_eq_some_iff.mp ?_
    rw [List.getLast?_tail] at hlast
    split at hlast
    · cases hlast
    · exact hlast
  intro heq
  rw [hback, hbefore, List.flatten_append, List.flatten_singleton, ← List.append_assoc,
    ← List.append_assoc x, List.append_cancel_right_eq, List.append_assoc] at heq
  have hlen := congrArg List.length heq
  simp only [List.length_append] at hlen
  -- the text in front of the second copy goes on behind the lines before the first one
  obtain ⟨y, hy⟩ : before.flatten <+: x :=
    List.prefix_of_prefix_length_le (List.prefix_append _ _) ⟨l, heq.symm⟩ (by omega)
  rw [← hy, List.append_assoc, List.append_cancel_left_eq] at heq
  refine append_ne_of_isSenderLine hl he ?_ heq
  rw [← hy, List.length_append] at hlen
  omega

/-- The header lines of a message make up a text without empty lines, if it ends with a line feed. -/
theorem not_isEmptyLine_of_flatten {s : List Char} {pre rest : List (List Char)} {l : List Char}
    (hlines : lines s = pre ++ l :: rest) (hpre : ∀ m ∈ pre, isHeaderLine m = true) (hl : l ≠ [])
    (hlast : pre.flatten.getLast? = some '\n') :
    ∀ m ∈ lines pre.flatten, isEmptyLine m = false := by
  obtain ⟨u, hu⟩ := List.getLast?_eq_some_iff.mp hlast
  have hs : s = pre.flatten ++ (l :: rest).flatten := by
    rw [← List.flatten_append, ← hlines, flatten_lines]
  have hcut : pre ++ l :: rest = lines pre.flatten ++ lines (l :: rest).flatten := by
    rw [← hlines, hs, hu, List.append_assoc]
    exact lines_append_feed u _
  have hheader : ∀ m ∈ pre, isEmptyLine m = false :=
    fun m hm => not_isEmptyLine_of_isHeaderLine (hpre m hm)
  rcases List.append_eq_append_iff.mp hcut with ⟨w, hw, hrest⟩ | ⟨w, hw, -⟩
  · cases w with
    | nil =>
      rw [hw, List.append_nil]
      exact hheader
    | cons m w =>
      -- the text would be longer than its own lines
      have hm : l = m := (List.cons.inj hrest).1
      have hlen := congrArg (fun ls : List (List Char) => ls.flatten.length) hw
      have hpos : 0 < l.length := List.length_pos_iff.mpr hl
      simp only [flatten_lines, List.flatten_append, List.flatten_cons, List.length_append, ← hm] at hlen
      omega
  · intro m hm
    refine hheader m ?_
    rw [hw]
    exact List.mem_append_left w hm

/-- If the header lines and the line that ends them end with breaks, the header block is these lines but
for the last break. -/
theorem headerBlock_of_headerLines {raw : String} {rest : List (List Char)} {b : Break}
    (hlines : lines raw.toList = headerLines raw.toList ++ endLine raw.toList :: rest)
    (hend : endLine raw.toList = b.chars)
    (hlast : (headerLines raw.toList).flatten.getLast? = some '\n') :
    headerBlock raw = String.ofList (withoutBreak (headerLines raw.toList).flatten) := by
  have hne : endLine raw.toList ≠ [] := by
    obtain ⟨x, hx⟩ := b.exists_chars
    rw [hend, hx]
    simp
  have hnone := not_isEmptyLine_of_flatten hlines (isHeaderLine_of_mem_headerLines raw.toList) hne hlast
  have hraw : raw.toList = (headerLines raw.toList).flatten ++ b.chars ++ rest.flatten := by
    rw [List.append_assoc, ← hend, ← List.flatten_cons, ← List.flatten_append, ← hlines, flatten_lines]
  have hcut := headerBlock_of_lines hlast hnone b rest.flatten
  rwa [← hraw, String.ofList_toList] at hcut

/-- **No text is in both parts** of a message exactly if no sender line is given back to the body, and
the header block ends before the body starts: it does not reach beyond the empty line that ends the
header. So it is where two breaks stand between header and body, which is so if the header is not empty,
and neither its last line nor the empty line ends with a carriage return alone. -/
theorem parts_apart_iff {raw : String} {parts : Parts} (h : splitMessage raw = .ok parts) :
    ((∃ gap, raw.toList = parts.header.toList ++ gap ++ parts.body.toList) ↔
        (∀ l ∈ (headerLines raw.toList).tail.getLast?, isSenderLine l = false) ∧
          parts.header.toList.length
            ≤ (headerLines raw.toList).flatten.length + (endLine raw.toList).length) ∧
      ((∀ l ∈ (headerLines raw.toList).tail.getLast?, isSenderLine l = false) →
        (headerLines raw.toList).flatten.getLast? = some '\n' →
        (endLine raw.toList).getLast? = some '\n' →
        ∃ b b' : Break,
          raw.toList = parts.header.toList ++ (b.chars ++ b'.chars) ++ parts.body.toList) := by
  obtain ⟨rest, hlines, hempty, hheader, hbody⟩ := splitMessage_of_ok h
  have hraw : raw.toList
      = (headerLines raw.toList).flatten ++ (endLine raw.toList ++ rest.flatten) := by
    rw [← List.flatten_cons, ← List.flatten_append, ← hlines, flatten_lines]
  have hend : (∃ b : Break, endLine raw.toList = b.chars) ∨ endLine raw.toList = ['\r'] := by
    refine eq_of_isEmptyLine (s := raw.toList) ?_ hempty
    rw [hlines]
    simp
  have hrest : (∀ l ∈ (headerLines raw.toList).tail.getLast?, isSenderLine l = false) →
      parts.body.toList = rest.flatten := by
    intro hsender
    rw [hbody, lastSender_eq_nil hsender]
    rfl
  refine ⟨⟨?_, ?_⟩, ?_⟩
  · rintro ⟨gap, hgap⟩
    -- a sender line that is given back would be in both parts
    have hsender : ∀ l ∈ (headerLines raw.toList).tail.getLast?, isSenderLine l = false := by
      intro l hl
      cases hs : isSenderLine l with
      | false => rfl
      | true =>
        rw [hbody] at hgap
        exact absurd (hraw.symm.trans hgap) (ne_append_of_lastSender hl hs hend)
    refine ⟨hsender, ?_⟩
    have hlen := congrArg List.length (hraw.symm.trans hgap)
    rw [hrest hsender] at hlen
    simp only [List.length_append] at hlen
    omega
  · rintro ⟨hsender, hlen⟩
    -- both are starts of the text, so the shorter one is a start of the longer
    have hblock : parts.header.toList <+: raw.toList := by
      rw [hheader]
      exact headerBlock_prefix raw
    have hfront : (headerLines raw.toList).flatten ++ endLine raw.toList <+: raw.toList := by
      refine ⟨rest.flatten, ?_⟩
      rw [List.append_assoc, ← hraw]
    obtain ⟨gap, hgap⟩ := List.prefix_of_prefix_length_le hblock hfront (by simpa using hlen)
    exact ⟨gap, by rw [hgap, hrest hsender, List.append_assoc, ← hraw]⟩
  · intro hsender hlast hfeed
    obtain ⟨b', hb'⟩ : ∃ b : Break, endLine raw.toList = b.chars := by
      rcases hend with hb | hr
      · exact hb
      · rw [hr] at hfeed
        cases hfeed
    obtain ⟨b, hb, -⟩ := exists_break_at_end hlast
    refine ⟨b, b', ?_⟩
    rw [hheader, headerBlock_of_headerLines hlines hb' hlast, String.toList_ofList, hrest hsender,
      ← List.append_assoc (withoutBreak _), ← hb, ← hb', List.append_assoc, ← hraw]

/-- A carriage return alone within the header does not matter. -/
theorem parts_apart_with_return :
    splitMessage "A: 1\rB: 2\r\n\nC: 3\n\nd" = .ok ⟨"A: 1\rB: 2", "C: 3\n\nd"⟩ ∧
      ∃ b b' : Break, "A: 1\rB: 2\r\n\nC: 3\n\nd".toList
        = "A: 1\rB: 2".toList ++ (b.chars ++ b'.chars) ++ "C: 3\n\nd".toList := by
  have hsplit : splitMessage "A: 1\rB: 2\r\n\nC: 3\n\nd" = .ok ⟨"A: 1\rB: 2", "C: 3\n\nd"⟩ := by
    decide +kernel
  exact ⟨hsplit, (parts_apart_iff hsplit).2 (by decide) (by decide) (by decide)⟩

/-- Text is in both parts of a message that starts with an empty line and has two breaks further on, of
one whose header ends with a sender line, and of one whose empty line is a carriage return alone. -/
theorem parts_overlap :
    (splitMessage "\nA: 1\n\nb" = .ok ⟨"\nA: 1", "A: 1\n\nb"⟩ ∧
      ¬ ∃ gap, "\nA: 1\n\nb".toList = "\nA: 1".toList ++ gap ++ "A: 1\n\nb".toList) ∧
    (splitMessage "A: 1\nFrom x\n\nb" = .ok ⟨"A: 1\nFrom x", "From x\nb"⟩ ∧
      ¬ ∃ gap, "A: 1\nFrom x\n\nb".toList = "A: 1\nFrom x".toList ++ gap ++ "From x\nb".toList) ∧
    (splitMessage "A: 1\r\rb\n\nc" = .ok ⟨"A: 1\r\rb", "b\n\nc"⟩ ∧
      ¬ ∃ gap, "A: 1\r\rb\n\nc".toList = "A: 1\r\rb".toList ++ gap ++ "b\n\nc".toList) := by
  -- in all three the parts together are longer than the message
  have hlong : ∀ s h b : List Char, s.length < h.length + b.length → ¬ ∃ gap, s = h ++ gap ++ b := by
    rintro s h b hlt ⟨gap, rfl⟩
    simp only [List.length_append] at hlt
    omega
  refine ⟨⟨by decide +kernel, hlong _ _ _ (by decide)⟩, ⟨by decide +kernel, hlong _ _ _ (by decide)⟩,
    by decide +kernel, hlong _ _ _ (by decide)⟩

end DeliveryWatch.Message
