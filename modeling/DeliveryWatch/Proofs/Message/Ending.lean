/-
A break at the end of a text does not matter to its fields.

* `Ended` — lines, and the same lines with line ends behind the last one and empty lines after it;
* `ended_lines_append` — so are the lines of a text, and of the text with a break behind it;
* `fields_gather_of_ended` — the fields of such lines are the same;
* `fields_of_headerBlock?` — so a message has the fields of its header block, which end with the block
  whatever breaks stand behind it.
-/
import DeliveryWatch.Proofs.Message.Split

namespace DeliveryWatch.Message

open Text

/-! ### Line ends behind a line -/

theorem isContinuation_append {l : List Char} (hl : l ≠ []) (e : List Char) :
    isContinuation (l ++ e) = isContinuation l := by
  rw [isContinuation, isContinuation, List.head?_append_of_ne_nil l hl]

theorem exists_name_of_isFieldStart {l : List Char} (h : isFieldStart l = true)
    (hl : l.head? ≠ some ':') : ∃ name r, IsName name ∧ l = name ++ ':' :: r := by
  rw [isFieldStart, beq_iff_eq] at h
  obtain ⟨r, hr⟩ := List.head?_eq_some_iff.mp h
  have hcut := List.takeWhile_append_dropWhile (p := isNameChar) (l := l)
  rw [hr] at hcut
  refine ⟨l.takeWhile isNameChar, r, ⟨?_, List.all_eq_true.mp List.all_takeWhile⟩, hcut.symm⟩
  intro hnil
  rw [hnil, List.nil_append] at hcut
  exact hl (by rw [← hcut, List.head?_cons])

section Ends

variable {l e : List Char} (he : ∀ c ∈ e, isLineEnd c = true)

include he

theorem dropWhile_append_ends {p : Char → Bool} (hp : ∀ c, p c = true → isLineEnd c = false) :
    (l ++ e).dropWhile p = l.dropWhile p ++ e := by
  have hstays : e.dropWhile p = e := by
    refine dropWhile_of_head fun c hc => ?_
    rw [← Bool.not_eq_true]
    intro hpc
    have hend := he c (List.mem_of_head? hc)
    rw [hp c hpc] at hend
    cases hend
  rw [List.dropWhile_append]
  split
  · rename_i hl
    rw [List.isEmpty_iff.mp hl, hstays, List.nil_append]
  · rfl

theorem dropEndWhile_append_ends : dropEndWhile isLineEnd (l ++ e) = dropEndWhile isLineEnd l := by
  rw [dropEndWhile, List.reverse_append, List.dropWhile_append_of_pos]
  · rfl
  · intro c hc
    exact he c (List.mem_reverse.mp hc)

/-- A text without line ends does not reach into those behind the line. -/
theorem isPrefixOf_append_ends {m : List Char} (hm : ∀ c ∈ m, isLineEnd c = false) :
    m.isPrefixOf (l ++ e) = m.isPrefixOf l := by
  induction m generalizing l with
  | nil => rw [List.isPrefixOf_nil_left, List.isPrefixOf_nil_left]
  | cons c m ih =>
    cases l with
    | cons d l =>
      rw [List.cons_append, List.isPrefixOf_cons_cons, List.isPrefixOf_cons_cons,
        ih fun x hx => hm x (List.mem_cons_of_mem c hx)]
    | nil =>
      cases e with
      | nil => rfl
      | cons d e =>
        -- the line is over here, and a line end is none of the signs that are looked for
        have hne : (c == d) = false := by
          rw [beq_eq_false_iff_ne]
          rintro rfl
          have hend := he c List.mem_cons_self
          rw [hm c List.mem_cons_self] at hend
          cases hend
        rw [List.nil_append, List.isPrefixOf_cons_cons, hne, Bool.false_and]
        rfl

theorem isSenderLine_append_ends : isSenderLine (l ++ e) = isSenderLine l :=
  isPrefixOf_append_ends he (not_isLineEnd_of_any (by decide))

theorem isFieldStart_append_ends : isFieldStart (l ++ e) = isFieldStart l := by
  rw [isFieldStart, isFieldStart,
    dropWhile_append_ends he fun c hc => not_isLineEnd_of_isNameChar hc]
  cases l.dropWhile isNameChar with
  | cons c r => rfl
  | nil =>
    rw [List.nil_append, List.head?_nil, Bool.eq_iff_iff, beq_iff_eq]
    constructor
    · intro hcolon
      exact absurd (he ':' (List.mem_of_head? hcolon)) (by decide)
    · intro hnone
      cases hnone

theorem isHeaderLine_append_ends (hl : l ≠ []) : isHeaderLine (l ++ e) = isHeaderLine l := by
  rw [isHeaderLine, isHeaderLine, isSenderLine_append_ends he, isFieldStart_append_ends he,
    isContinuation_append hl]

theorem ofLines_append_ends (first : List Char) (more : List (List Char)) :
    Field.ofLines first (more ++ [l ++ e]) = Field.ofLines first (more ++ [l]) := by
  rw [Field.ofLines, Field.ofLines, List.flatten_append, List.flatten_append, List.flatten_singleton,
    List.flatten_singleton, ← List.append_assoc, ← List.append_assoc, dropEndWhile_append_ends he,
    List.append_assoc]

theorem ofLines_append_ends_of_isFieldStart (hl : isFieldStart l = true) (hname : l.head? ≠ some ':') :
    Field.ofLines (l ++ e) [] = Field.ofLines l [] := by
  obtain ⟨name, r, hn, rfl⟩ := exists_name_of_isFieldStart hl hname
  obtain ⟨htake, hdrop⟩ := hn.cut_append r
  obtain ⟨htake', hdrop'⟩ := hn.cut_append (r ++ e)
  rw [List.append_assoc, List.cons_append, Field.ofLines, Field.ofLines, htake, hdrop, htake', hdrop']
  show Field.mk name (dropEndWhile isLineEnd ((r ++ e).dropWhile isSpaceOrTab ++ [])) = _
  rw [List.append_nil, dropWhile_append_ends he fun c hc => not_isLineEnd_of_isSpaceOrTab hc,
    dropEndWhile_append_ends he]
  simp

end Ends

/-! ### Lines that end in another way -/

/-- The same lines with line ends behind the last one, and with empty lines after it. -/
inductive Ended : List (List Char) → List (List Char) → Prop
  | last {l e : List Char} {zs : List (List Char)} (hl : l ≠ []) (he : ∀ c ∈ e, isLineEnd c = true)
      (hzs : ∀ z ∈ zs, isEmptyLine z = true) : Ended [l] ((l ++ e) :: zs)
  | cons (l : List Char) {ls ls' : List (List Char)} (h : Ended ls ls') : Ended (l :: ls) (l :: ls')

theorem Break.isLineEnd_of_mem (b : Break) : ∀ c ∈ b.chars, isLineEnd c = true := by
  cases b with
  | feed => exact List.all_eq_true.mp rfl
  | returnFeed => exact List.all_eq_true.mp rfl

/-- A break behind a text whose first line is complete. -/
theorem Ended.line {l : List Char} (hl : l ≠ []) {r : List Char} {b : Break}
    (h : r ≠ [] → Ended (lines r) (lines (r ++ b.chars))) :
    Ended (l :: lines r) (l :: lines (r ++ b.chars)) := by
  cases r with
  -- only where nothing is left does the break go to the line in front
  | cons c r => exact .cons l (h (List.cons_ne_nil c r))
  | nil =>
    have hlines : lines b.chars = [b.chars] := by
      cases b with
      | feed => rfl
      | returnFeed => rfl
    have hempty : ∀ z ∈ [b.chars], isEmptyLine z = true := by
      intro z hz
      rw [List.mem_singleton.mp hz]
      simpa using b.isEmptyLine_chars []
    have hend := Ended.last (e := []) hl (List.forall_mem_nil _) hempty
    rw [List.append_nil] at hend
    rw [List.nil_append, hlines]
    exact hend

/-- **A break behind a text goes to the end of its last line, or makes an empty line.** A carriage return
at the end of the text joins a line feed, and ends a line of its own in front of any other break. -/
theorem ended_lines_append {s : List Char} (hs : s ≠ []) (b : Break) :
    Ended (lines s) (lines (s ++ b.chars)) := by
  fun_induction lines s with
  | case1 => exact absurd rfl hs
  | case2 r ih => exact .line (List.cons_ne_nil _ _) ih
  | case3 r ih => exact .line (List.cons_ne_nil _ _) ih
  | case4 r hr ih =>
    cases r with
    | nil =>
      cases b with
      | feed => exact .last (List.cons_ne_nil _ _) (Break.isLineEnd_of_mem .feed) (List.forall_mem_nil _)
      | returnFeed => exact .line (List.cons_ne_nil _ _) ih
    | cons d r =>
      have hlines : lines ('\r' :: (d :: r ++ b.chars)) = ['\r'] :: lines (d :: r ++ b.chars) := by
        rw [List.cons_append, lines]
        intro t ht
        cases ht
        exact hr r rfl
      rw [List.cons_append, hlines]
      exact .line (List.cons_ne_nil _ _) ih
  | case5 c r hfeed _ hreturn hnil ih =>
    have hr : r = [] := by
      rw [← flatten_lines r, hnil]
      rfl
    have hc : isLineEnd c = false := by simpa [isLineEnd] using ⟨hreturn, hfeed⟩
    have hlines : lines (c :: b.chars) = [[c] ++ b.chars] := by
      rw [lines_cons hc]
      cases b with
      | feed => rfl
      | returnFeed => rfl
    rw [hr, List.cons_append, List.nil_append, hlines]
    exact .last (List.cons_ne_nil c []) b.isLineEnd_of_mem (List.forall_mem_nil _)
  | case6 c r hfeed _ hreturn l ls hcons ih =>
    have hc : isLineEnd c = false := by simpa [isLineEnd] using ⟨hreturn, hfeed⟩
    have hr : r ≠ [] := by
      rintro rfl
      cases hcons
    have hrest := ih hr
    rw [hcons] at hrest
    rw [List.cons_append, lines_cons hc]
    -- the character goes to the front of the first line, which is the last line or not
    generalize lines (r ++ b.chars) = ls' at hrest
    cases hrest with
    | last hl he hzs => exact .last (l := c :: l) (List.cons_ne_nil c l) he hzs
    | cons _ h => exact .cons (c :: l) h

theorem fields_opening {g g' : Gathered} (h : g.fields = g'.fields)
    (current : Option (List Char × List (List Char))) :
    (g.opening current).fields = (g'.opening current).fields := by
  cases current with
  | none => exact h
  | some p => exact congrArg (List.cons _) h

/-- The fields of a line that goes on with a field, if one is open. -/
theorem fields_gather_cons_of_isContinuation {l : List Char} (h : isContinuation l = true)
    (atStart : Bool) (current : Option (List Char × List (List Char))) (ls : List (List Char)) :
    (gather atStart current (l :: ls)).fields =
      (gather false (current.map fun p => (p.1, p.2 ++ [l])) ls).fields := by
  rw [gather.eq_def]
  simp only [h, if_true]
  cases current with
  | none => rfl
  | some p => rfl

/-- The fields of a line that does not go on with a field. A sender line that is given back to the body
holds none, and nothing follows it. -/
theorem fields_gather_cons {l : List Char} (h : isContinuation l = false) (atStart : Bool)
    (current : Option (List Char × List (List Char))) (ls : List (List Char)) :
    (gather atStart current (l :: ls)).fields =
      ((gather false (if isSenderLine l ∨ l.head? = some ':' then none else some (l, [])) ls).opening
        current).fields := by
  rw [gather_cons h]
  refine fields_opening ?_ current
  by_cases hsender : isSenderLine l = true
  · rw [if_pos hsender, if_pos (Or.inl hsender)]
    split
    · rename_i hlast
      rw [List.isEmpty_iff.mp (Bool.and_eq_true_iff.mp hlast).2]
      rfl
    · rfl
  · rw [if_neg hsender]
    by_cases hcolon : l.head? = some ':'
    · rw [if_pos hcolon, if_pos (Or.inr hcolon)]
    · rw [if_neg hcolon, if_neg (not_or.mpr ⟨hsender, hcolon⟩)]

/-- The last of the header lines, with line ends behind it. -/
theorem fields_gather_append_ends {l e : List Char} (he : ∀ c ∈ e, isLineEnd c = true) (hl : l ≠ [])
    (hheader : isHeaderLine l = true) (atStart : Bool)
    (current : Option (List Char × List (List Char))) :
    (gather atStart current [l ++ e]).fields = (gather atStart current [l]).fields := by
  have hcont := isContinuation_append hl e
  cases hc : isContinuation l with
  | true =>
    rw [hc] at hcont
    rw [fields_gather_cons_of_isContinuation hc, fields_gather_cons_of_isContinuation hcont]
    cases current with
    | none => rfl
    | some p => exact congrArg (List.cons · []) (ofLines_append_ends he p.1 p.2)
  | false =>
    rw [hc] at hcont
    rw [fields_gather_cons hc, fields_gather_cons hcont, isSenderLine_append_ends he,
      List.head?_append_of_ne_nil l hl]
    refine fields_opening ?_ current
    -- a field that starts here keeps its value, since line ends behind it are dropped
    split
    · rfl
    · rename_i hstart
      obtain ⟨hsender, hcolon⟩ := not_or.mp hstart
      have hfield : isFieldStart l = true := by
        rw [isHeaderLine, hc, Bool.or_false, Bool.or_eq_true] at hheader
        exact hheader.resolve_left hsender
      exact congrArg (List.cons · []) (ofLines_append_ends_of_isFieldStart he hfield hcolon)

/-- **Lines that end in another way have the same fields.** -/
theorem fields_gather_of_ended {ls ls' : List (List Char)} (h : Ended ls ls') (atStart : Bool)
    (current : Option (List Char × List (List Char))) :
    (gather atStart current (ls'.takeWhile isHeaderLine)).fields
      = (gather atStart current (ls.takeWhile isHeaderLine)).fields := by
  induction h generalizing atStart current with
  | @last l e zs hl he hzs =>
    -- empty lines end the header, so they add nothing to it
    have hnone : zs.takeWhile isHeaderLine = [] := by
      cases zs with
      | nil => rfl
      | cons z zs =>
        have hz := isHeaderLine_of_isEmptyLine (hzs z List.mem_cons_self)
        rw [List.takeWhile_cons_of_neg (by simp [hz])]
    have hsame := isHeaderLine_append_ends he hl
    cases hheader : isHeaderLine l with
    | false =>
      rw [List.takeWhile_cons_of_neg (by simp [hsame, hheader]),
        List.takeWhile_cons_of_neg (by simp [hheader])]
    | true =>
      rw [List.takeWhile_cons_of_pos (hsame.trans hheader), List.takeWhile_cons_of_pos hheader, hnone]
      exact fields_gather_append_ends he hl hheader atStart current
  | @cons l ls ls' _ ih =>
    -- in front of the last line both texts have the same lines
    cases hheader : isHeaderLine l with
    | false =>
      rw [List.takeWhile_cons_of_neg (by simp [hheader]), List.takeWhile_cons_of_neg (by simp [hheader])]
    | true =>
      rw [List.takeWhile_cons_of_pos hheader, List.takeWhile_cons_of_pos hheader]
      cases hc : isContinuation l with
      | true =>
        rw [fields_gather_cons_of_isContinuation hc, fields_gather_cons_of_isContinuation hc]
        exact ih false _
      | false =>
        rw [fields_gather_cons hc, fields_gather_cons hc]
        exact fields_opening (ih false _) current

/-! ### The header block -/

/-- **A break behind a text adds no field and changes none.** -/
theorem fields_readSection_append_break (s : List Char) (b : Break) :
    (readSection (s ++ b.chars)).fields = (readSection s).fields := by
  by_cases hs : s = []
  · rw [hs]
    cases b with
    | feed => rfl
    | returnFeed => rfl
  · rw [readSection, readSection, fields_sectionOfLines, fields_sectionOfLines]
    exact fields_gather_of_ended (ended_lines_append hs b) true none

theorem fields_readSection_append_breaks (s : List Char) (b b' : Break) (r : List Char) :
    (readSection (s ++ b.chars ++ (b'.chars ++ r))).fields = (readSection s).fields := by
  have hempty : isHeaderLine b'.chars = false :=
    isHeaderLine_of_isEmptyLine (by simpa using b'.isEmptyLine_chars [])
  rw [← fields_readSection_append_break s b, readSection, readSection, fields_sectionOfLines,
    fields_sectionOfLines, lines_append_break, b'.lines_chars_append, List.takeWhile_append,
    List.takeWhile_cons_of_neg (by simp [hempty]), List.append_nil]
  split
  · rename_i hall
    exact congrArg (fun ls => (gather true none ls).fields)
      (((List.takeWhile_prefix _).eq_of_length hall).symm)
  · rfl

/-- Behind the header block stand two breaks. -/
theorem eq_append_of_headerBlock? {s h : List Char} (hs : headerBlock? s = some h) :
    ∃ (b b' : Break) (r : List Char), s = h ++ b.chars ++ (b'.chars ++ r) := by
  induction s generalizing h with
  | nil => cases hs
  | cons c s ih =>
    rw [headerBlock?] at hs
    split at hs
    · rename_i hdouble
      cases hs
      obtain ⟨b, b', r, rfl⟩ := exists_breaks_of_startsDoubleEnd hdouble
      exact ⟨b, b', r, by simp⟩
    · obtain ⟨t, ht, rfl⟩ := Option.map_eq_some_iff.mp hs
      obtain ⟨b, b', r, rfl⟩ := ih ht
      exact ⟨b, b', r, rfl⟩

/-- **A message has the fields of its header block**, whatever the two breaks behind it are. -/
theorem fields_of_headerBlock? {s h : List Char} (hs : headerBlock? s = some h) :
    (readSection s).fields = (readSection h).fields := by
  obtain ⟨b, b', r, rfl⟩ := eq_append_of_headerBlock? hs
  exact fields_readSection_append_breaks h b b' r

end DeliveryWatch.Message
