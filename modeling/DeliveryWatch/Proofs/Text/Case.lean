/-
Lower case is reached in one step.

* `CaseRun.Misses` — the images of a run lie where another run holds nothing (`not_holds_of_misses`);
  among rows in order this is seen from the bounds of the runs (`misses_of_clears`);
* `not_holds_image` — so no run of lower case leads to a capital letter, to a blank or to what is no
  character;
* `IsLower` — a character that lower case leaves alone; all characters of a text in lower case are
  (`isLower_of_mem_lowerFrom`), so a text in lower case stays as it is (`lower_lower`);
* `strip_lower_strip` — and lower case does not bring blanks to the ends of a text.
-/
import DeliveryWatch.Proofs.Bytes.WellFormed
import DeliveryWatch.Proofs.Text.Blank
import DeliveryWatch.Text.Case

namespace DeliveryWatch.Text

/-! ### Runs -/

namespace CaseRun

/-- Whether the run holds the character of this number. -/
def Holds (r : CaseRun) (n : Nat) : Prop := r.first ≤ n ∧ n ≤ r.last ∧ (n - r.first) % r.step = 0

instance (r : CaseRun) (n : Nat) : Decidable (r.Holds n) :=
  inferInstanceAs (Decidable (_ ∧ _ ∧ _))

/-- A run without gaps holds all numbers between its ends. -/
theorem holds_iff {a b n : Nat} {d : Int} : (⟨a, b, 1, d⟩ : CaseRun).Holds n ↔ a ≤ n ∧ n ≤ b := by
  simp only [Holds, Nat.mod_one, and_true]

/-- The least image. -/
def low (r : CaseRun) : Nat := ((r.first : Int) + r.shift).toNat

/-- The greatest image. -/
def high (r : CaseRun) : Nat := ((r.last : Int) + r.shift).toNat

/-- The run and `t` both hold every other number, and the images of the run lie between what `t`
holds. -/
def alternates (r t : CaseRun) : Bool :=
  t.step == 2 && (r.step == 2 || r.first == r.last) && 0 ≤ r.first + r.shift &&
    r.low % 2 != t.first % 2

/-- The images of the run lie before all that `t` holds, or behind it, or in between. -/
def Misses (r t : CaseRun) : Prop := r.high < t.first ∨ t.last < r.low ∨ r.alternates t = true

/-- Among rows in order only those have to be looked at that overlap with the images of the run. -/
def clears (r : CaseRun) (rows : List CaseRun) : Bool :=
  ((rows.dropWhile fun t => t.last.blt r.low).takeWhile fun t => t.first.ble r.high).all r.alternates

/-- The row stands before another one. -/
def Before (r t : CaseRun) : Prop := r.first ≤ r.last ∧ r.last < t.first

instance (r t : CaseRun) : Decidable (r.Before t) := inferInstanceAs (Decidable (_ ∧ _))

instance : Trans Before Before Before where
  trans := fun h h' => ⟨h.1, h.2.trans_le (h'.1.trans h'.2.le)⟩

variable {r t : CaseRun} {n m : Nat}

theorem image?_eq_none (h : ¬ r.Holds n) : r.image? n = none := if_neg h

theorem of_image?_eq_some (h : r.image? n = some m) :
    r.Holds n ∧ ((n : Int) + r.shift).toNat = m := by
  by_cases hn : r.Holds n
  · have himage : r.image? n = some ((n : Int) + r.shift).toNat := if_pos hn
    exact ⟨hn, Option.some.inj (himage.symm.trans h)⟩
  · rw [image?_eq_none hn] at h
    cases h

/-- An image lies between the least one and the greatest. -/
theorem image_bounds (h : r.image? n = some m) : r.low ≤ m ∧ m ≤ r.high := by
  obtain ⟨⟨hfirst, hlast, -⟩, himage⟩ := of_image?_eq_some h
  unfold low high
  omega

/-- No image of a run is held by one that the run misses. -/
theorem not_holds_of_misses (hmiss : r.Misses t) (h : r.image? n = some m) : ¬ t.Holds m := by
  rintro ⟨hfirst, hlast, hstep⟩
  have hbounds := image_bounds h
  obtain ⟨⟨hn, hn', hgap⟩, himage⟩ := of_image?_eq_some h
  -- the run lies below the image, above it, or between its members
  rcases hmiss with hmiss | hmiss | hmiss
  · omega
  · omega
  · simp only [alternates, Bool.and_eq_true, Bool.or_eq_true, decide_eq_true_eq, beq_iff_eq,
      bne_iff_ne] at hmiss
    obtain ⟨⟨⟨ht, hr⟩, hpos⟩, hparity⟩ := hmiss
    have hlow : r.low = ((r.first : Int) + r.shift).toNat := rfl
    rw [ht] at hstep
    rcases hr with hr | hr
    · rw [hr] at hgap
      omega
    · omega

variable {rows : List CaseRun}

theorem misses_of_takeWhile (hrows : rows.Pairwise Before)
    (h : ((rows.takeWhile fun t => t.first.ble r.high).all r.alternates) = true) :
    ∀ t ∈ rows, r.Misses t := by
  induction rows with
  | nil => nofun
  | cons u rows ih =>
    obtain ⟨hu, hrest⟩ := List.pairwise_cons.mp hrows
    rw [List.takeWhile_cons] at h
    split at h
    · rw [List.all_cons, Bool.and_eq_true] at h
      exact List.forall_mem_cons.mpr ⟨.inr (.inr h.1), ih hrest h.2⟩
    · -- what stands behind a row that lies behind the images does so itself
      rename_i hbehind
      rw [Nat.ble_eq, not_le] at hbehind
      exact List.forall_mem_cons.mpr ⟨.inl hbehind, fun t ht =>
        .inl (hbehind.trans_le ((hu t ht).1.trans (hu t ht).2.le))⟩

theorem misses_of_clears (hrows : rows.Pairwise Before) (h : r.clears rows = true) :
    ∀ t ∈ rows, r.Misses t := by
  induction rows with
  | nil => nofun
  | cons u rows ih =>
    rw [clears, List.dropWhile_cons] at h
    split at h
    · rename_i hbefore
      rw [Nat.blt_eq] at hbefore
      exact List.forall_mem_cons.mpr ⟨.inr (.inl hbefore), ih (List.pairwise_cons.mp hrows).2 h⟩
    · exact misses_of_takeWhile hrows h

end CaseRun

/-- The runs of lower case. -/
def lowerRows : List CaseRun := lowerRuns.map fun x => ⟨x.1, x.2.1, x.2.2.1, x.2.2.2⟩

/-- The blanks, the dotted capital I, which becomes two characters, and the numbers that are no
characters. -/
def oddRows : List CaseRun :=
  [⟨9, 13, 1, 0⟩, ⟨28, 32, 1, 0⟩, ⟨0x85, 0x85, 1, 0⟩, ⟨0xA0, 0xA0, 1, 0⟩, ⟨0x130, 0x130, 1, 0⟩,
   ⟨0x1680, 0x1680, 1, 0⟩, ⟨0x2000, 0x200A, 1, 0⟩, ⟨0x2028, 0x2029, 1, 0⟩, ⟨0x202F, 0x202F, 1, 0⟩,
   ⟨0x205F, 0x205F, 1, 0⟩, ⟨0x3000, 0x3000, 1, 0⟩, ⟨0xD800, 0xDFFF, 1, 0⟩]

/-- The rows stand in order. -/
theorem pairwise_before : lowerRows.Pairwise CaseRun.Before ∧ oddRows.Pairwise CaseRun.Before := by
  rw [← List.isChain_iff_pairwise, ← List.isChain_iff_pairwise]
  decide +kernel

theorem clears_lowerRows : ∀ r ∈ lowerRows,
    r.high < 0x110000 ∧ r.clears lowerRows = true ∧ r.clears oddRows = true := by
  decide +kernel

/-- No run of lower case leads to a capital letter, to a blank or to what is no character. -/
theorem not_holds_image {r : CaseRun} (hr : r ∈ lowerRows) {n m : Nat} (h : r.image? n = some m) :
    m < 0x110000 ∧ (∀ t ∈ lowerRows, ¬ t.Holds m) ∧ ∀ t ∈ oddRows, ¬ t.Holds m := by
  obtain ⟨hhigh, hlower, hodd⟩ := clears_lowerRows r hr
  obtain ⟨hlowers, hodds⟩ := pairwise_before
  refine ⟨(CaseRun.image_bounds h).2.trans_lt hhigh, fun t ht => ?_, fun t ht => ?_⟩
  · exact CaseRun.not_holds_of_misses (CaseRun.misses_of_clears hlowers hlower t ht) h
  · exact CaseRun.not_holds_of_misses (CaseRun.misses_of_clears hodds hodd t ht) h

/-! ### Characters -/

/-- Lower case leaves the character alone. -/
def IsLower (c : Char) : Prop := c ≠ 'Σ' ∧ lowerChar c = [c]

instance (c : Char) : Decidable (IsLower c) := inferInstanceAs (Decidable (_ ∧ _))

theorem mem_lowerRows {a b s : Nat} {d : Int} (h : (a, b, s, d) ∈ lowerRuns) :
    ⟨a, b, s, d⟩ ∈ lowerRows :=
  List.mem_map.mpr ⟨(a, b, s, d), h, rfl⟩

/-- A character that no run holds is its own image, and the image of any other is that of a run. -/
theorem mapRuns_cases (c : Char) :
    (mapRuns lowerRuns c = c ∧ ∀ r ∈ lowerRows, ¬ r.Holds c.toNat) ∨
    ∃ r ∈ lowerRows, ∃ m, r.image? c.toNat = some m ∧ mapRuns lowerRuns c = Char.ofNat m := by
  unfold mapRuns
  split
  · rename_i m himage
    obtain ⟨x, hx, hm⟩ := List.exists_of_findSome?_eq_some himage
    exact .inr ⟨_, mem_lowerRows hx, m, hm, rfl⟩
  · rename_i himage
    refine .inl ⟨rfl, fun r hr hheld => ?_⟩
    obtain ⟨x, hx, rfl⟩ := List.mem_map.mp hr
    have hnone := List.findSome?_eq_none_iff.mp himage x hx
    exact absurd (hnone.symm.trans (if_pos hheld)) (Option.some_ne_none _).symm

/-- A character that no run holds is left alone, but for the dotted capital I. -/
theorem isLower_of_not_holds {c : Char} (h : ∀ r ∈ lowerRows, ¬ r.Holds c.toNat)
    (hodd : c.toNat ≠ 0x130) : IsLower c := by
  -- capital letters are held by a run
  have hsigma : c ≠ 'Σ' := by
    rintro rfl
    exact h ⟨0x3A3, 0x3AB, 1, 32⟩ (mem_lowerRows (by decide +kernel)) (by decide)
  have hmap : mapRuns lowerRuns c = c := by
    rcases mapRuns_cases c with ⟨hmap, -⟩ | ⟨r, hr, m, hm, -⟩
    · exact hmap
    · exact absurd (CaseRun.of_image?_eq_some hm).1 (h r hr)
  have hlatin : c.toLower = c := by
    refine dif_neg ?_
    rintro ⟨hfirst, hlast⟩
    refine h ⟨0x41, 0x5A, 1, 32⟩ (mem_lowerRows (by decide +kernel)) (CaseRun.holds_iff.mpr ⟨?_, ?_⟩)
    · exact UInt32.le_iff_toNat_le.mp hfirst
    · exact UInt32.le_iff_toNat_le.mp hlast
  refine ⟨hsigma, ?_⟩
  rw [lowerChar, if_neg hodd, hmap, hlatin, ite_self]

theorem isBlank_of_not_holds {c : Char} (h : ∀ t ∈ oddRows, ¬ t.Holds c.toNat) : isBlank c = false := by
  simp only [oddRows, List.forall_mem_cons, CaseRun.holds_iff] at h
  simp only [isBlank, Bool.or_eq_false_iff, Bool.and_eq_false_iff, decide_eq_false_iff_not,
    beq_eq_false_iff_ne]
  omega

/-- The image of a run is left alone, and is no blank. -/
theorem isLower_of_image {r : CaseRun} (hr : r ∈ lowerRows) {n m : Nat} (h : r.image? n = some m) :
    IsLower (Char.ofNat m) ∧ isBlank (Char.ofNat m) = false := by
  obtain ⟨hbound, hrows, hodd⟩ := not_holds_image hr h
  have hspecial := hodd
  simp only [oddRows, List.forall_mem_cons, CaseRun.holds_iff] at hspecial
  have hnum : (Char.ofNat m).toNat = m := Utf8.toNat_ofNat (by omega)
  refine ⟨isLower_of_not_holds ?_ ?_, isBlank_of_not_holds ?_⟩
  · rwa [hnum]
  · rw [hnum]
    omega
  · rwa [hnum]

theorem isLower_toLower : ∀ n < 128, IsLower (Char.ofNat n).toLower ∧
    isBlank (Char.ofNat n).toLower = isBlank (Char.ofNat n) := by
  decide +kernel

/-- What lower case makes of a character is left alone, and no blank unless the character is one. -/
theorem isLower_of_mem_lowerChar {c d : Char} (h : d ∈ lowerChar c) :
    IsLower d ∧ (isBlank c = false → isBlank d = false) := by
  unfold lowerChar at h
  split at h
  · -- the dotted capital I is an i and a dot
    rcases List.mem_cons.mp h with rfl | h
    · exact ⟨by decide +kernel, fun _ => by decide⟩
    · rw [List.mem_singleton.mp h]
      exact ⟨by decide +kernel, fun _ => by decide⟩
  · rename_i hodd
    split at h
    · rename_i hascii
      obtain ⟨hlower, hblank⟩ := isLower_toLower c.toNat hascii
      rw [Char.ofNat_toNat] at hlower hblank
      rw [List.mem_singleton.mp h, hblank]
      exact ⟨hlower, id⟩
    · rw [List.mem_singleton.mp h]
      rcases mapRuns_cases c with ⟨hmap, hfree⟩ | ⟨r, hr, m, hm, hmap⟩
      · rw [hmap]
        exact ⟨isLower_of_not_holds hfree hodd, id⟩
      · rw [hmap]
        exact ⟨(isLower_of_image hr hm).1, fun _ => (isLower_of_image hr hm).2⟩

/-! ### Texts -/

/-- What lower case makes of a character between others. -/
def lowerAt (before : List Char) (c : Char) (after : List Char) : List Char :=
  if c = 'Σ' then [if endsWord before after then 'ς' else 'σ'] else lowerChar c

theorem lowerFrom_cons (before : List Char) (c : Char) (r : List Char) :
    lowerFrom before (c :: r) = lowerAt before c r ++ lowerFrom (c :: before) r := rfl

theorem isLower_of_mem_lowerAt {before after : List Char} {c d : Char} (h : d ∈ lowerAt before c after) :
    IsLower d ∧ (isBlank c = false → isBlank d = false) := by
  unfold lowerAt at h
  split at h
  · rw [List.mem_singleton.mp h]
    split
    · exact ⟨by decide +kernel, fun _ => by decide⟩
    · exact ⟨by decide +kernel, fun _ => by decide⟩
  · exact isLower_of_mem_lowerChar h

theorem lowerAt_ne_nil (before : List Char) (c : Char) (after : List Char) :
    lowerAt before c after ≠ [] := by
  unfold lowerAt lowerChar
  split_ifs <;> exact List.cons_ne_nil _ _

theorem isLower_of_mem_lowerFrom {before s : List Char} {d : Char} (h : d ∈ lowerFrom before s) :
    IsLower d := by
  induction s generalizing before with
  | nil => cases h
  | cons c s ih =>
    rw [lowerFrom_cons] at h
    rcases List.mem_append.mp h with h | h
    · exact (isLower_of_mem_lowerAt h).1
    · exact ih h

theorem lowerFrom_of_isLower {s : List Char} (h : ∀ c ∈ s, IsLower c) (before : List Char) :
    lowerFrom before s = s := by
  induction s generalizing before with
  | nil => rfl
  | cons c s ih =>
    obtain ⟨⟨hsigma, hc⟩, hs⟩ := List.forall_mem_cons.mp h
    rw [lowerFrom_cons, lowerAt, if_neg hsigma, hc, ih hs]
    rfl

/-- **Lower case is reached in one step.** -/
theorem lower_lower (s : List Char) : lower (lower s) = lower s :=
  lowerFrom_of_isLower (fun _ h => isLower_of_mem_lowerFrom h) []

/-- The sigma at the end of a word stays its own letter. -/
example : lower (lower "ΣΟΦΟΣ".toList) = "σοφος".toList := by decide +kernel

theorem head_lower {s : List Char} (h : ∀ c ∈ s.head?, isBlank c = false) :
    ∀ d ∈ (lower s).head?, isBlank d = false := by
  cases s with
  | nil => nofun
  | cons c s =>
    intro d hd
    rw [lower, lowerFrom_cons, List.head?_append_of_ne_nil _ (lowerAt_ne_nil _ _ _)] at hd
    exact (isLower_of_mem_lowerAt (List.mem_of_mem_head? hd)).2 (h c rfl)

theorem lowerFrom_ne_nil {s : List Char} (h : s ≠ []) (before : List Char) : lowerFrom before s ≠ [] := by
  cases s with
  | nil => exact absurd rfl h
  | cons c s =>
    rw [lowerFrom_cons]
    exact List.append_ne_nil_of_left_ne_nil (lowerAt_ne_nil _ _ _) _

theorem getLast_lowerFrom {s : List Char} (h : ∀ c ∈ s.getLast?, isBlank c = false)
    (before : List Char) : ∀ d ∈ (lowerFrom before s).getLast?, isBlank d = false := by
  induction s generalizing before with
  | nil => nofun
  | cons c s ih =>
    intro d hd
    rw [lowerFrom_cons] at hd
    cases s with
    | nil =>
      rw [lowerFrom, List.append_nil] at hd
      exact (isLower_of_mem_lowerAt (List.mem_of_getLast? hd)).2 (h c rfl)
    | cons e s =>
      -- the last character is that of the rest, which is not empty
      rw [List.getLast?_append_of_ne_nil _ (lowerFrom_ne_nil (List.cons_ne_nil e s) _)] at hd
      refine ih (fun a ha => h a ?_) (c :: before) d hd
      rw [List.getLast?_cons_cons]
      exact ha

/-- Lower case does not bring blanks to the ends of a text. -/
theorem strip_lower_strip (s : List Char) : strip (lower (strip s)) = lower (strip s) :=
  stripWhile_of_ends (head_lower head_stripWhile) (getLast_lowerFrom getLast_stripWhile [])

end DeliveryWatch.Text
