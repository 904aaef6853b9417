/-
The token of a subject, by the words of the subject.

* `tokenIn?_append` — a mark before the last one is followed by more than one word, so it is the last
  one that counts;
* `tokenOfWords?` — the token that the last two words name; `tokenIn?_eq_tokenOfWords?` — the search
  from the front finds this one;
* `token?_of_words` — the same for subjects, with what it says of the token.
-/
import DeliveryWatch.Ping.Email
import DeliveryWatch.Proofs.Text.Blank
import DeliveryWatch.Proofs.Text.Cut

namespace DeliveryWatch.Ping

open Text

/-! ### The mark at the end -/

/-- A mark that more than one word follows names no token. -/
theorem onlyWord?_append {x w : List Char} (hx : ':' ∈ x) (hne : w ≠ [])
    (h : ∀ c ∈ w, isBlank c = false) : onlyWord? (x ++ ' ' :: w) = none := by
  have hwords : words (x ++ ' ' :: w) = words x ++ [w] := by
    rw [words_append_cons x w (by decide), words_of_not_isBlank hne h]
  obtain ⟨v, vs, hv⟩ := List.exists_cons_of_ne_nil (words_ne_nil hx (by decide))
  rw [onlyWord?, hwords, hv]
  cases vs with
  | nil => rfl
  | cons _ _ => rfl

/-- **The last word of a subject is its token, behind a mark of its own**, whatever stands before. -/
theorem tokenIn?_append (q : List Char) {w : List Char} (hne : w ≠ [])
    (h : ∀ c ∈ w, isBlank c = false) : tokenIn? (q ++ marker ++ ' ' :: w) = some w := by
  -- on what stands before the mark; the search tries every place from the front
  induction q with
  | nil =>
    have hmark : marker.isPrefixOf? (marker ++ ' ' :: w) = some (' ' :: w) := isPrefixOf?_append _ _
    have hword : onlyWord? (' ' :: w) = some w := by
      have hwords : words (' ' :: w) = words w := words_append_cons [] w (by decide)
      rw [onlyWord?, hwords, words_of_not_isBlank hne h]
    have hcons : [] ++ marker ++ ' ' :: w = 'g' :: ("uid:".toList ++ ' ' :: w) := rfl
    have hmarker : marker ++ ' ' :: w = 'g' :: ("uid:".toList ++ ' ' :: w) := rfl
    rw [hmarker] at hmark
    rw [hcons, tokenIn?, hmark, Option.bind_some, hword]
  | cons c q ih =>
    have hnone : (marker.isPrefixOf? (c :: (q ++ marker ++ ' ' :: w))).bind onlyWord? = none := by
      cases hp : marker.isPrefixOf? (c :: (q ++ marker ++ ' ' :: w)) with
      | none => rfl
      | some rest =>
        -- an earlier mark ends before the last colon of the last one
        have hlen : marker.length = 5 := rfl
        have heq := congrArg (List.drop marker.length) (eq_append_of_isPrefixOf? hp)
        have hlong : marker.length ≤ (c :: (q ++ marker)).length := by
          simp only [List.length_cons, List.length_append]
          omega
        have hlast : ((c :: (q ++ marker)).drop marker.length).getLast? = some ':' := by
          rw [List.getLast?_drop, if_neg (by simp only [List.length_cons, List.length_append]; omega),
            ← List.cons_append, List.getLast?_append]
          rfl
        rw [List.drop_left, ← List.cons_append, List.drop_append_of_le_length hlong] at heq
        rw [Option.bind_some, ← heq]
        exact onlyWord?_append (List.mem_of_getLast? hlast) hne h
    rw [List.cons_append, List.cons_append, tokenIn?, hnone]
    exact ih

theorem token?_append (q : List Char) {token : String} (hne : token ≠ "")
    (h : ∀ c ∈ token.toList, isBlank c = false) :
    token? (some (String.ofList (q ++ marker ++ ' ' :: token.toList))) = some token := by
  have hnil : token.toList ≠ [] := by
    intro hnil
    exact hne (String.toList_eq_nil_iff.mp hnil)
  rw [token?, Option.bind_some, String.toList_ofList, tokenIn?_append q hnil h, Option.map_some,
    String.ofList_toList]

/-! ### The last two words -/

/-- What stands behind the first mark of a word, if anything does. -/
def tokenInWord? (w : List Char) : Option (List Char) :=
  (cutFirst? marker w).bind fun (_, rest) => if rest = [] then none else some rest

/-- The token that words name: the last of them, if the one before it ends with the mark, or else what
stands behind the first mark of the last. -/
def tokenOfWords? (ws : List (List Char)) : Option (List Char) :=
  ws.getLast?.bind fun w =>
    if ws.dropLast.getLast?.any marker.isSuffixOf then some w else tokenInWord? w

theorem tokenInWord?_eq_some_iff {w t : List Char} : tokenInWord? w = some t ↔ t ≠ [] ∧
    ∃ a, w = a ++ marker ++ t ∧ ∀ b r, w = b ++ marker ++ r → a.length ≤ b.length := by
  rw [tokenInWord?, Option.bind_eq_some_iff]
  constructor
  · rintro ⟨⟨a, rest⟩, hcut, h⟩
    simp only at h
    split at h
    · cases h
    · rename_i hne
      cases h
      exact ⟨hne, a, cutFirst?_eq_some_iff.mp hcut⟩
  · rintro ⟨hne, a, hcut⟩
    exact ⟨(a, t), cutFirst?_eq_some_iff.mpr hcut, if_neg hne⟩

variable {c : Char} {w r x : List Char} {ws : List (List Char)}

theorem not_isBlank_of_mem_marker : ∀ c ∈ marker, isBlank c = false := by
  have hall : marker.all (!isBlank ·) = true := by decide
  simpa using hall

theorem tokenOfWords?_pair (v w : List Char) :
    tokenOfWords? [v, w] = if marker.isSuffixOf v then some w else tokenInWord? w := rfl

theorem tokenInWord?_cons (h : marker.isPrefixOf? (c :: w) = none) :
    tokenInWord? (c :: w) = tokenInWord? w := by
  rw [tokenInWord?, tokenInWord?, cutFirst?_cons h]
  cases cutFirst? marker w with
  | none => rfl
  | some p => rfl

theorem isSuffixOf_cons (h : marker ≠ c :: w) : marker.isSuffixOf (c :: w) = marker.isSuffixOf w := by
  rw [Bool.eq_iff_iff, List.isSuffixOf_iff_suffix, List.isSuffixOf_iff_suffix, List.suffix_cons_iff]
  exact or_iff_right h

/-- A sign in front of the first word changes nothing, unless it begins a mark. -/
theorem tokenOfWords?_cons_of_unmarked (h : marker.isPrefixOf? (c :: w) = none)
    (ws : List (List Char)) : tokenOfWords? ((c :: w) :: ws) = tokenOfWords? (w :: ws) := by
  match ws with
  | [] => exact tokenInWord?_cons h
  | [x] =>
    have hne : marker ≠ c :: w := by
      intro heq
      rw [← heq] at h
      revert h
      decide
    rw [tokenOfWords?_pair, tokenOfWords?_pair, isSuffixOf_cons hne]
  | x :: y :: ws => rfl

theorem tokenOfWords?_nil_cons (ws : List (List Char)) :
    tokenOfWords? ([] :: ws) = tokenOfWords? ws := by
  match ws with
  | [] => rfl
  | [x] => rfl
  | x :: y :: ws => rfl

/-- A mark in front of the first word names the only word behind it, or else counts as any other
sign. -/
theorem tokenOfWords?_of_marked {v : List Char} (h : c :: w = marker ++ v)
    (hv : ∀ d ∈ v, isBlank d = false) (hr : ∀ d ∈ r.head?, isBlank d = true) :
    tokenOfWords? ((c :: w) :: words r)
      = (onlyWord? (v ++ r)).or (tokenOfWords? (w :: words r)) := by
  cases v with
  | nil =>
    -- the mark ends the word, so it names the word behind it if that is the last one
    rw [List.append_nil] at h
    rw [List.nil_append, onlyWord?, h]
    obtain ⟨rfl, rfl⟩ : c = 'g' ∧ w = "uid:".toList := List.cons.inj h
    match words r with
    | [] => decide
    | [x] => rfl
    | x :: y :: ws => rfl
  | cons d v =>
    -- the mark goes on in its word, so it names the rest if that is the last word
    have hwords : words (d :: v ++ r) = (d :: v) :: words r :=
      words_append_of_head (List.cons_ne_nil d v) hv hr
    rw [onlyWord?, hwords]
    match words r with
    | [] =>
      have hcut : cutFirst? marker (marker ++ (d :: v)) = some ([], d :: v) := cutFirst?_mark _ _ _
      show tokenInWord? (c :: w) = some (d :: v)
      rw [h, tokenInWord?, hcut]
      rfl
    | [x] =>
      have hne : marker ≠ c :: w := by
        intro heq
        rw [h] at heq
        simpa using congrArg List.length heq
      rw [tokenOfWords?_pair, isSuffixOf_cons hne]
      rfl
    | x :: y :: ws => rfl

theorem tokenIn?_cons (c : Char) (s : List Char) :
    tokenIn? (c :: s) = ((marker.isPrefixOf? (c :: s)).bind onlyWord?).or (tokenIn? s) := by
  rw [tokenIn?]
  cases (marker.isPrefixOf? (c :: s)).bind onlyWord? with
  | none => rfl
  | some w => rfl

/-- A word in front of a text is searched before the text. -/
theorem tokenIn?_word_append (hw : ∀ c ∈ w, isBlank c = false)
    (hr : ∀ c ∈ r.head?, isBlank c = true) (h : tokenIn? r = tokenOfWords? (words r)) :
    tokenIn? (w ++ r) = tokenOfWords? (w :: words r) := by
  induction w with
  | nil => rw [tokenOfWords?_nil_cons, List.nil_append, h]
  | cons c w ih =>
    have hrest := ih fun d hd => hw d (List.mem_cons_of_mem c hd)
    -- the mark has no blank in it, so it does not reach beyond the word
    have hstop : ∀ d ∈ r.head?, d ∉ marker := by
      intro d hd hmem
      have hblank := hr d hd
      rw [not_isBlank_of_mem_marker d hmem] at hblank
      cases hblank
    rw [List.cons_append, tokenIn?_cons, ← List.cons_append, isPrefixOf?_append_of_head hstop, hrest]
    cases hp : marker.isPrefixOf? (c :: w) with
    | none => exact (tokenOfWords?_cons_of_unmarked hp (words r)).symm
    | some v =>
      have heq := eq_append_of_isPrefixOf? hp
      -- what follows the mark is part of the word
      have hv : ∀ d ∈ v, isBlank d = false := by
        intro d hd
        refine hw d ?_
        rw [heq]
        exact List.mem_append_right marker hd
      exact (tokenOfWords?_of_marked heq hv hr).symm

/-- **The token of a text is the one that its words name.** -/
theorem tokenIn?_eq_tokenOfWords? (s : List Char) : tokenIn? s = tokenOfWords? (words s) := by
  induction s using induction_on_words with
  | nil => rfl
  | blank c s hc ih =>
    have hnone : marker.isPrefixOf? (c :: s) = none := by
      refine isPrefixOf?_of_ne ?_ _ s
      rintro rfl
      cases hc
    rw [tokenIn?_cons, hnone, words_cons_of_isBlank hc]
    exact ih
  | word w r hne hw hr ih => rw [tokenIn?_word_append hw hr ih, words_append_of_head hne hw hr]

theorem visible_of_tokenOfWords? {ws : List (List Char)} {t : List Char}
    (hws : ∀ w ∈ ws, w ≠ [] ∧ ∀ c ∈ w, isBlank c = false) (h : tokenOfWords? ws = some t) :
    t ≠ [] ∧ ∀ c ∈ t, isBlank c = false := by
  obtain ⟨w, hw, h⟩ := Option.bind_eq_some_iff.mp h
  obtain ⟨hne, hvisible⟩ := hws w (List.mem_of_getLast? hw)
  split at h
  · cases h
    exact ⟨hne, hvisible⟩
  · obtain ⟨hne', a, rfl, -⟩ := tokenInWord?_eq_some_iff.mp h
    exact ⟨hne', fun c hc => hvisible c (List.mem_append_right _ hc)⟩

/-- **The token of a subject by its words**: the last word, if the one before it ends with the mark, or
else what stands behind the first mark of the last word. So it is a text without blanks, and a subject
that ends with a mark and one word names this word. -/
theorem token?_of_words :
    (∀ subject : String,
      token? (some subject) = (tokenOfWords? (words subject.toList)).map String.ofList) ∧
    (∀ w t, tokenInWord? w = some t ↔ t ≠ [] ∧
      ∃ a, w = a ++ marker ++ t ∧ ∀ b r, w = b ++ marker ++ r → a.length ≤ b.length) ∧
    (∀ subject token, token? (some subject) = some token →
      token ≠ "" ∧ ∀ c ∈ token.toList, isBlank c = false) ∧
    ∀ p g : String, g ≠ "" → (∀ c ∈ g.toList, isBlank c = false) →
      token? (some (p ++ " guid: " ++ g)) = some g := by
  have hwords : ∀ subject : String,
      token? (some subject) = (tokenOfWords? (words subject.toList)).map String.ofList := by
    intro subject
    rw [token?, Option.bind_some, tokenIn?_eq_tokenOfWords?]
  refine ⟨hwords, fun w t => tokenInWord?_eq_some_iff, ?_, ?_⟩
  · intro subject token h
    rw [hwords, Option.map_eq_some_iff] at h
    obtain ⟨t, ht, rfl⟩ := h
    obtain ⟨hne, hvisible⟩ := visible_of_tokenOfWords?
      (fun w hw => ⟨ne_nil_of_mem_words hw, not_isBlank_of_mem_words hw⟩) ht
    rw [String.toList_ofList]
    refine ⟨?_, hvisible⟩
    intro hempty
    exact hne (by simpa using congrArg String.toList hempty)
  · intro p g hne hg
    have htext : p ++ " guid: " ++ g
        = String.ofList ((p.toList ++ [' ']) ++ marker ++ ' ' :: g.toList) := by
      refine String.toList_inj.mp ?_
      rw [String.toList_append, String.toList_append, String.toList_ofList]
      simp [marker]
    rw [htext]
    exact token?_append _ hne hg

/-- The mark that counts is the one before the last word, or the first of the last word. -/
theorem token?_of_words_marks :
    token? (some "guid: old guid: new") = some "new" ∧
      token? (some "a guid:guid:x ") = some "guid:x" ∧
      token? (some ("guid: old" ++ " guid: " ++ "new")) = some "new" := by
  obtain ⟨hwords, -, hvisible, hlast⟩ := token?_of_words
  have hword : "new".toList.all (!isBlank ·) = true := by decide
  refine ⟨?_, ?_, ?_⟩
  · rw [hwords]
    decide
  · rw [hwords]
    decide
  · exact hlast _ _ (by decide) (by simpa using hword)

end DeliveryWatch.Ping
