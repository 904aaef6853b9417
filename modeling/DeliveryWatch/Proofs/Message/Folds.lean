/-
Line feeds in the values of fields, and what unfolding leaves of them.

* `exists_spaced_unfold` — any text is a row of texts with a gap between each two, and unfolding puts a
  single space for each gap; so the ink stays (`filter_isInk_unfold`);
* `BehindFeeds` — what stands behind each line feed of a text; `FeedsFold` — a space or a tab,
  `FeedEnds` — nothing;
* `not_mem_unfold_iff` — a text is unfolded to one without line feeds exactly if they are all folded, and
  then nothing is left to unfold (`unfold_unfold`);
* `feedEnds_of_mem_lines` — a line feed ends its line; `feedsFold_of_mem_fields` — so the line feeds in the
  value of every field are folded, whatever the message.
-/
import DeliveryWatch.Proofs.Message.Ending
import DeliveryWatch.Proofs.Message.Unfold

namespace DeliveryWatch.Message

open Text

variable {c : Char} {s r : List Char}

/-! ### Rows of texts -/

theorem IsGap.not_isInk {g : List Char} (hg : IsGap g) : ∀ d ∈ g, isInk d = false := by
  cases hg with
  | space =>
    intro d hd
    rw [List.mem_singleton.mp hd]
    rfl
  | fold before b after hbefore hafter _ =>
    intro d hd
    rw [isInk]
    rcases List.mem_append.mp hd with hd | hd
    · rcases List.mem_append.mp hd with hd | hd
      · rw [hbefore d hd, Bool.not_true, Bool.false_and]
      · rw [b.isLineEnd_of_mem d hd, Bool.not_true, Bool.and_false]
    · rw [hafter d hd, Bool.not_true, Bool.false_and]

namespace Spaced

variable {ws : List (List Char)}

theorem exists_cons (hs : Spaced ws s) (c : Char) :
    ∃ ws', Spaced ws' (c :: s) ∧ [' '].intercalate ws' = c :: [' '].intercalate ws := by
  cases hs with
  | single =>
    refine ⟨[c :: s], .single (c :: s), ?_⟩
    rw [List.intercalate_singleton, List.intercalate_singleton]
  | @cons w g ws s hg hs =>
    refine ⟨(c :: w) :: ws, .cons (c :: w) hg hs, ?_⟩
    rw [hs.intercalate_cons, hs.intercalate_cons, List.cons_append]

/-- A row has the ink of its texts with single spaces between them. -/
theorem filter_isInk (hs : Spaced ws s) :
    ([' '].intercalate ws).filter isInk = s.filter isInk := by
  induction hs with
  | single w => rw [List.intercalate_singleton]
  | @cons w g ws s hg hs ih =>
    have hgap : g.filter isInk = [] := by
      rw [List.filter_eq_nil_iff]
      intro d hd
      rw [hg.not_isInk d hd]
      exact Bool.false_ne_true
    rw [hs.intercalate_cons, List.filter_append, List.filter_cons_of_neg (by decide), ih,
      List.filter_append, List.filter_append, hgap, List.append_nil]

theorem mem_intercalate (hs : Spaced ws s) {w : List Char} (hw : w ∈ ws) (hc : c ∈ w) :
    c ∈ [' '].intercalate ws := by
  induction hs with
  | single v =>
    rw [List.mem_singleton.mp hw] at hc
    rwa [List.intercalate_singleton]
  | @cons v g ws s _ hs ih =>
    rw [hs.intercalate_cons]
    rcases List.mem_cons.mp hw with rfl | hw
    · exact List.mem_append_left _ hc
    · exact List.mem_append_right _ (List.mem_cons_of_mem _ (ih hw))

end Spaced

/-- **Unfolding puts a single space for each gap** of a row of texts that makes up the text, and changes
nothing else. -/
theorem exists_spaced_unfold (s : List Char) :
    ∃ ws, Spaced ws s ∧ unfold s = [' '].intercalate ws := by
  fun_induction unfold s with
  | case1 => exact ⟨[[]], .single [], rfl⟩
  | case2 c r rest hfold ih =>
    obtain ⟨ws, hs, hunfold⟩ := ih
    obtain ⟨before, b, after, hbefore, hafter, hne, htext⟩ := exists_fold_of_afterFold? hfold
    refine ⟨[] :: ws, ?_, ?_⟩
    · rw [htext]
      exact .cons [] (.fold before b after hbefore hafter hne) hs
    · rw [hs.intercalate_cons, List.nil_append, hunfold]
  | case3 c r _ ih =>
    obtain ⟨ws, hs, hunfold⟩ := ih
    obtain ⟨ws', hs', hcons⟩ := hs.exists_cons c
    exact ⟨ws', hs', by rw [hcons, hunfold]⟩

/-- **Unfolding keeps the ink of any text**, in its order. -/
theorem filter_isInk_unfold (s : List Char) : (unfold s).filter isInk = s.filter isInk := by
  obtain ⟨ws, hs, hunfold⟩ := exists_spaced_unfold s
  rw [hunfold, hs.filter_isInk]

/-! ### What stands behind line feeds -/

/-- What stands behind each line feed of the text is of this kind. -/
def BehindFeeds (P : List Char → Prop) (s : List Char) : Prop := ∀ r, '\n' :: r <:+ s → P r

namespace BehindFeeds

variable {P : List Char → Prop}

theorem nil : BehindFeeds P [] := by
  intro r hr
  cases List.suffix_nil.mp hr

theorem cons_iff : BehindFeeds P (c :: s) ↔ (c = '\n' → P s) ∧ BehindFeeds P s := by
  constructor
  · intro h
    refine ⟨?_, fun r hr => h r (hr.trans (List.suffix_cons c s))⟩
    rintro rfl
    exact h s List.suffix_rfl
  · rintro ⟨hc, hs⟩ r hr
    rcases List.suffix_cons_iff.mp hr with heq | hr
    · cases heq
      exact hc rfl
    · exact hs r hr

theorem of_suffix (hs : BehindFeeds P s) (hr : r <:+ s) : BehindFeeds P r :=
  fun t ht => hs t (ht.trans hr)

end BehindFeeds

/-! ### Texts whose line feeds are all folded -/

/-- Every line feed of the text stands before a space or a tab. -/
def FeedsFold (s : List Char) : Prop := BehindFeeds (fun r => isContinuation r = true) s

theorem feedsFold_cons : FeedsFold (c :: s) ↔ (c = '\n' → isContinuation s = true) ∧ FeedsFold s :=
  BehindFeeds.cons_iff

theorem feedsFold_append_of_blank {w : List Char} (h : ∀ d ∈ w, isSpaceOrTab d = true)
    (s : List Char) : FeedsFold (w ++ s) ↔ FeedsFold s := by
  induction w with
  | nil => rfl
  | cons d w ih =>
    have hd : d ≠ '\n' := by
      rintro rfl
      exact absurd (h '\n' List.mem_cons_self) (by decide)
    rw [List.cons_append, feedsFold_cons, ih fun e he => h e (List.mem_cons_of_mem d he)]
    exact and_iff_right fun heq => absurd heq hd

theorem feedsFold_chars_append (b : Break) (s : List Char) :
    FeedsFold (b.chars ++ s) ↔ isContinuation s = true ∧ FeedsFold s := by
  cases b with
  | feed => simp [Break.chars, feedsFold_cons]
  | returnFeed => simp [Break.chars, feedsFold_cons]

/-- A fold in front of a text does not matter. -/
theorem feedsFold_of_afterFold? {rest : List Char} (h : afterFold? s = some rest) :
    FeedsFold s ↔ FeedsFold rest := by
  obtain ⟨before, b, after, hbefore, hafter, hne, rfl⟩ := exists_fold_of_afterFold? h
  have hcont : isContinuation (after ++ rest) = true := by
    obtain ⟨d, t, rfl⟩ := List.exists_cons_of_ne_nil hne
    exact hafter d List.mem_cons_self
  rw [List.append_assoc, List.append_assoc, feedsFold_append_of_blank hbefore, feedsFold_chars_append,
    feedsFold_append_of_blank hafter]
  exact and_iff_right hcont

theorem not_isContinuation_of_afterFold? (h : afterFold? ('\n' :: r) = none) :
    isContinuation r = false := by
  rw [afterFold?_of_feed (List.dropWhile_cons_of_neg (by decide))] at h
  cases r with
  | nil => rfl
  | cons d t =>
    rw [afterBreak?] at h
    split at h
    · cases h
    · rename_i hd
      exact Bool.eq_false_iff.mpr hd

/-- **Unfolding leaves no line feed exactly where all line feeds are folded.** -/
theorem not_mem_unfold_iff : '\n' ∉ unfold s ↔ FeedsFold s := by
  fun_induction unfold s with
  | case1 => exact iff_of_true List.not_mem_nil BehindFeeds.nil
  | case2 c r rest hfold ih =>
    rw [feedsFold_of_afterFold? hfold, ← ih, List.mem_cons, not_or]
    exact and_iff_right (by decide)
  | case3 c r hfold ih =>
    rw [feedsFold_cons, ← ih, List.mem_cons, not_or]
    refine and_congr_left fun _ => ?_
    by_cases hc : c = '\n'
    · rw [hc] at hfold ⊢
      simp [not_isContinuation_of_afterFold? hfold]
    · simp [hc, Ne.symm hc]

theorem unfold_of_not_mem (h : '\n' ∉ s) : unfold s = s := by
  induction s with
  | nil => exact unfold_nil
  | cons c r ih =>
    have hnone : afterFold? (c :: r) = none := by
      rw [← Option.not_isSome_iff_eq_none, Option.isSome_iff_exists]
      rintro ⟨rest, hfold⟩
      obtain ⟨before, b, after, -, -, -, htext⟩ := exists_fold_of_afterFold? hfold
      obtain ⟨x, hx⟩ := b.exists_chars
      rw [htext, hx] at h
      exact h (by simp)
    rw [unfold_of_not_fold hnone, ih fun hr => h (List.mem_cons_of_mem c hr)]

/-- **A text whose line feeds are all folded is unfolded once and for all.** -/
theorem unfold_unfold (h : FeedsFold s) : unfold (unfold s) = unfold s :=
  unfold_of_not_mem (not_mem_unfold_iff.mpr h)

/-- In other texts a line feed that is no part of a fold can come to stand before the space put for one. -/
example : unfold "\n\n a".toList = "\n a".toList ∧ unfold "\n a".toList = " a".toList := by cbv

/-! ### Lines -/

/-- A line feed of the text can only end it. -/
def FeedEnds (s : List Char) : Prop := BehindFeeds (fun r => r = []) s

theorem feedEnds_cons (hc : c = '\n' → s = []) (hs : FeedEnds s) : FeedEnds (c :: s) :=
  BehindFeeds.cons_iff.mpr ⟨hc, hs⟩

/-- Each line has a line feed at its end only. -/
theorem feedEnds_of_mem_lines : ∀ l ∈ lines s, FeedEnds l := by
  have hfeed : FeedEnds ['\n'] := feedEnds_cons (fun _ => rfl) BehindFeeds.nil
  fun_induction lines s with
  | case1 => exact List.forall_mem_nil _
  | case2 r ih => exact List.forall_mem_cons.mpr ⟨hfeed, ih⟩
  | case3 r ih => exact List.forall_mem_cons.mpr ⟨feedEnds_cons (by decide) hfeed, ih⟩
  | case4 r _ ih => exact List.forall_mem_cons.mpr ⟨feedEnds_cons (by decide) BehindFeeds.nil, ih⟩
  | case5 => exact List.forall_mem_singleton.mpr (feedEnds_cons (fun _ => rfl) BehindFeeds.nil)
  | case6 c r hc _ _ l ls hlines ih =>
    rw [hlines] at ih
    obtain ⟨hl, hls⟩ := List.forall_mem_cons.mp ih
    exact List.forall_mem_cons.mpr ⟨feedEnds_cons (fun heq => absurd heq hc) hl, hls⟩

theorem FeedEnds.append {l : List Char} (hl : FeedEnds l) (hcont : isContinuation s = true)
    (hs : FeedsFold s) : FeedsFold (l ++ s) := by
  rintro r ⟨p, hp⟩
  rcases List.append_eq_append_iff.mp hp with ⟨x, hlx, hx⟩ | ⟨x, -, hx⟩
  · rcases List.cons_eq_append_iff.mp hx with ⟨-, hx⟩ | ⟨y, rfl, rfl⟩
    · exact hs r ⟨[], hx.symm⟩
    · rw [hl y ⟨p, hlx.symm⟩, List.nil_append]
      exact hcont
  · exact hs r ⟨x, hx.symm⟩

theorem FeedEnds.not_mem_dropEndWhile {l : List Char} (hl : FeedEnds l) :
    '\n' ∉ dropEndWhile isLineEnd l := by
  intro hmem
  obtain ⟨p, r, hr⟩ := List.append_of_mem hmem
  have hcut := dropEndWhile_append_takeEndWhile isLineEnd l
  rw [hr, List.append_assoc, List.cons_append] at hcut
  -- nothing stands behind the line feed, so it would have been dropped
  obtain ⟨rfl, -⟩ := List.append_eq_nil_iff.mp (hl _ ⟨p, hcut⟩)
  have hlast := getLast_dropEndWhile (p := isLineEnd) (s := l) '\n' (by rw [hr]; simp)
  exact absurd hlast (by decide)

/-! ### Fields -/

/-- The lines of a field. -/
structure IsFieldLines (first : List Char) (more : List (List Char)) : Prop where
  first : FeedEnds first
  more : ∀ l ∈ more, FeedEnds l ∧ isContinuation l = true

namespace IsFieldLines

variable {first : List Char} {more : List (List Char)} (h : IsFieldLines first more)

include h

/-- One more line that goes on with the field. -/
theorem concat {l : List Char} (hl : FeedEnds l) (hcont : isContinuation l = true) :
    IsFieldLines first (more ++ [l]) := by
  refine ⟨h.first, fun m hm => ?_⟩
  rcases List.mem_append.mp hm with hm | hm
  · exact h.more m hm
  · rw [List.mem_singleton.mp hm]
    exact ⟨hl, hcont⟩

/-- The line feeds of lines that go on with each other are folded, when the ends of the last are dropped. -/
theorem feedsFold : FeedsFold (dropEndWhile isLineEnd (first ++ more.flatten)) := by
  induction more generalizing first with
  | nil =>
    rw [List.flatten_nil, List.append_nil]
    intro r hr
    exact absurd (hr.subset List.mem_cons_self) h.first.not_mem_dropEndWhile
  | cons l more ih =>
    obtain ⟨hl, hcont⟩ := h.more l List.mem_cons_self
    have hrest : FeedsFold (dropEndWhile isLineEnd (l ++ more.flatten)) :=
      ih ⟨hl, fun m hm => h.more m (List.mem_cons_of_mem l hm)⟩
    -- the space or tab in front of the second line stays, and so does all that stands before it
    obtain ⟨d, t, rfl⟩ : ∃ d t, l = d :: t := by
      cases l with
      | nil => cases hcont
      | cons d t => exact ⟨d, t, rfl⟩
    have hd : isLineEnd d = false := not_isLineEnd_of_isSpaceOrTab hcont
    have hkeep := dropEndWhile_append_cons (p := isLineEnd) [] (t ++ more.flatten) hd
    rw [List.nil_append, List.nil_append] at hkeep
    rw [List.cons_append, hkeep] at hrest
    rw [List.flatten_cons, List.cons_append, dropEndWhile_append_cons _ _ hd]
    exact h.first.append hcont hrest

theorem feedsFold_value : FeedsFold (Field.ofLines first more).value := by
  have hsuffix : ((first.dropWhile (· != ':')).drop 1).dropWhile isSpaceOrTab <:+ first :=
    ((List.dropWhile_suffix _).trans (List.drop_suffix 1 _)).trans (List.dropWhile_suffix _)
  have hlines : IsFieldLines (((first.dropWhile (· != ':')).drop 1).dropWhile isSpaceOrTab) more :=
    ⟨BehindFeeds.of_suffix h.first hsuffix, h.more⟩
  exact hlines.feedsFold

end IsFieldLines

theorem mem_fields_opening {g : Gathered} {f : Field}
    {current : Option (List Char × List (List Char))} (hf : f ∈ (g.opening current).fields) :
    (∃ p ∈ current, f = Field.ofLines p.1 p.2) ∨ f ∈ g.fields := by
  cases current with
  | none => exact .inr hf
  | some p =>
    rcases List.mem_cons.mp hf with rfl | hf
    · exact .inl ⟨p, rfl, rfl⟩
    · exact .inr hf

/-- Lines are gathered so that the line feeds of all values are folded: a line is put to the field that
is open only if it goes on with it. -/
theorem feedsFold_of_mem_gather {ls : List (List Char)} (hls : ∀ l ∈ ls, FeedEnds l) {atStart : Bool}
    {current : Option (List Char × List (List Char))} (hcurrent : ∀ p ∈ current, IsFieldLines p.1 p.2)
    {f : Field} (hf : f ∈ (gather atStart current ls).fields) : FeedsFold f.value := by
  -- the induction is on the lines: those of the field that is open go on with each other
  induction ls generalizing atStart current with
  | nil =>
    rcases mem_fields_opening hf with ⟨p, hp, rfl⟩ | hf
    · exact (hcurrent p hp).feedsFold_value
    · cases hf
  | cons l ls ih =>
    have hl := hls l List.mem_cons_self
    have hrest : ∀ m ∈ ls, FeedEnds m := fun m hm => hls m (List.mem_cons_of_mem l hm)
    cases hcont : isContinuation l with
    | true =>
      rw [fields_gather_cons_of_isContinuation hcont] at hf
      refine ih hrest ?_ hf
      intro q hq
      obtain ⟨p, hp, rfl⟩ := Option.map_eq_some_iff.mp hq
      exact (hcurrent p hp).concat hl hcont
    | false =>
      rw [fields_gather_cons hcont] at hf
      rcases mem_fields_opening hf with ⟨p, hp, rfl⟩ | hf
      · exact (hcurrent p hp).feedsFold_value
      · refine ih hrest ?_ hf
        intro p hp
        split at hp
        · cases hp
        · cases hp
          exact ⟨hl, List.forall_mem_nil _⟩

/-- **The line feeds in the value of a field are all folded**, in any message. -/
theorem feedsFold_of_mem_fields {f : Field} (hf : f ∈ (readSection s).fields) : FeedsFold f.value := by
  rw [readSection, fields_sectionOfLines] at hf
  refine feedsFold_of_mem_gather (fun l hl => ?_) (fun p hp => ?_) hf
  · exact feedEnds_of_mem_lines l (List.takeWhile_subset _ hl)
  · cases hp

end DeliveryWatch.Message
