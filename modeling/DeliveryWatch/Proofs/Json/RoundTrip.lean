/-
Printed values are read back, and show printable ASCII only.

* `IsWhole` — values whose numbers are whole;
* `Follows` — what may stand behind a value, so that it does not go on with a number;
* `IsReadBack` — a value is read from its printed form, whatever may follow; `items?_render` and
  `fields?_render` carry this over to the parts of arrays and objects;
* `isReadBack` — whole values are read back, and so a whole text is (`read?_render`);
* `isPrintable_of_mem_renderChars` — the printed form shows printable ASCII only.
-/
import DeliveryWatch.Proofs.Json.Escape
import DeliveryWatch.Proofs.Text.Digit

namespace DeliveryWatch

namespace Text

theorem decimalValue_toDigits (n : Nat) : decimalValue (Nat.toDigits 10 n) = n := by
  have hread := Nat.ofDigitChars_toDigits (b := 10) (n := n) (by decide) (by decide)
  rw [decimalValue, ofDigits, List.foldl_map]
  exact hread

theorem toList_decimal_ofNat (n : Nat) : (decimal (.ofNat n)).toList = Nat.toDigits 10 n := by
  have htext : decimal (.ofNat n) = Nat.repr n := rfl
  rw [htext, Nat.repr, String.toList_ofList]

end Text

namespace Json

open Text

/-- A value whose numbers are whole. -/
inductive IsWhole : Json → Prop
  | null : IsWhole null
  | bool (b : Bool) : IsWhole (bool b)
  | int (n : Int) : IsWhole (int n)
  | str (s : String) : IsWhole (str s)
  | arr {items : List Json} (h : ∀ v ∈ items, IsWhole v) : IsWhole (arr items)
  | obj {fields : List (String × Json)} (h : ∀ f ∈ fields, IsWhole f.2) : IsWhole (obj fields)

/-- What may stand behind a value: nothing that a number could go on with. -/
def Follows (r : List Char) : Prop :=
  ∀ c ∈ r.head?, c.isDigit = false ∧ c ≠ '.' ∧ c ≠ 'e' ∧ c ≠ 'E'

theorem follows_nil : Follows [] := by
  intro c h
  cases h

theorem follows_cons {c : Char} (h : c.isDigit = false ∧ c ≠ '.' ∧ c ≠ 'e' ∧ c ≠ 'E')
    (r : List Char) : Follows (c :: r) := by
  intro d hd
  cases hd
  exact h

/-- The value is read from its printed form, whatever may follow. -/
def IsReadBack (v : Json) : Prop :=
  ∀ n r, v.renderChars.length ≤ n → Follows r → value? (n + 1) (v.renderChars ++ r) = some (v, r)

/-! ### The printed form -/

theorem renderChars_int (n : Int) : (int n).renderChars = (decimal n).toList := rfl

theorem renderChars_str (s : String) : (str s).renderChars = renderString s := rfl

theorem renderChars_arr (items : List Json) :
    (arr items).renderChars = '[' :: (renderItems items ++ [']']) := rfl

theorem renderChars_obj (fields : List (String × Json)) :
    (obj fields).renderChars = '\x7b' :: (renderFields fields ++ ['\x7d']) := rfl

theorem renderItems_cons_cons (v w : Json) (items : List Json) :
    renderItems (v :: w :: items) = v.renderChars ++ ',' :: ' ' :: renderItems (w :: items) := by
  rw [renderItems]
  nofun

theorem renderFields_cons_cons (k : String) (v : Json) (f : String × Json)
    (fields : List (String × Json)) :
    renderFields ((k, v) :: f :: fields)
      = renderString k ++ ':' :: ' ' :: v.renderChars ++ ',' :: ' ' :: renderFields (f :: fields) := by
  rw [renderFields]
  nofun

/-! ### Gaps -/

theorem skipGap_cons {c : Char} (h : isGap c = false) (s : List Char) : skipGap (c :: s) = c :: s :=
  List.dropWhile_cons_of_neg (by rw [h]; exact Bool.false_ne_true)

/-- A space in front of a value is skipped. -/
theorem value?_space (n : Nat) (s : List Char) : value? n (' ' :: s) = value? n s := by
  cases n with
  | zero => rfl
  | succ n => rfl

theorem items?_space (n : Nat) (s : List Char) : items? n (' ' :: s) = items? n s := by
  cases n with
  | zero => rfl
  | succ n =>
    show (value? n (' ' :: s)).bind _ = (value? n s).bind _
    rw [value?_space]

theorem fields?_space (n : Nat) (s : List Char) : fields? n (' ' :: s) = fields? n s := by
  cases n with
  | zero => rfl
  | succ n => rfl

/-! ### Numbers -/

theorem isDigit_eq (c : Char) : isDigit c = c.isDigit := by
  rw [isDigit]
  simp only [Char.isDigit, Char.le_def]

theorem isDigit_of_mem_toDigits {n : Nat} {c : Char} (h : c ∈ Nat.toDigits 10 n) :
    c.isDigit = true :=
  Nat.isDigit_of_mem_toDigits (by decide) (by decide) h

theorem exponent?_of_follows {r : List Char} (h : Follows r) : exponent? r = none := by
  cases r with
  | nil => rfl
  | cons c r =>
    obtain ⟨-, -, he, hE⟩ := h c rfl
    unfold exponent?
    simp only
    rw [if_neg (not_or.mpr ⟨he, hE⟩)]

theorem readNumber?_toDigits (negative : Bool) (n : Nat) {r : List Char} (h : Follows r) :
    readNumber? negative (Nat.toDigits 10 n ++ r)
      = some (int (if negative then -(n : Int) else (n : Int)), r) := by
  have hall : ∀ c ∈ Nat.toDigits 10 n, isDigit c = true := by
    intro c hc
    rw [isDigit_eq]
    exact isDigit_of_mem_toDigits hc
  have hstop : ∀ c ∈ r.head?, isDigit c = false := by
    intro c hc
    rw [isDigit_eq]
    exact (h c hc).1
  have hne : (Nat.toDigits 10 n).isEmpty = false := by
    rw [List.isEmpty_eq_false_iff]
    exact Nat.toDigits_ne_nil
  have hpoint : ∀ t, r ≠ '.' :: t := by
    rintro t rfl
    exact (h '.' rfl).2.1 rfl
  unfold readNumber?
  simp only [takeWhile_append_of_head hall hstop, dropWhile_append_of_head hall hstop, hne,
    Bool.false_eq_true, if_false]
  have hwhole : decimalValue (Nat.toDigits 10 n ++ []) = n := by
    rw [List.append_nil, decimalValue_toDigits]
  -- neither an exponent nor a fraction follows
  split
  · rename_i heq
    rw [exponent?_of_follows h] at heq
    cases heq
  · rw [hwhole]
  · rename_i hfraction
    exact absurd rfl hfraction

/-! ### Values -/

theorem ne_of_isDigit {c d : Char} (hc : c.isDigit = true) (hd : d.isDigit = false) : c ≠ d := by
  rintro rfl
  rw [hc] at hd
  cases hd

theorem exists_toDigits (n : Nat) :
    ∃ c t, Nat.toDigits 10 n = c :: t ∧ c.isDigit = true := by
  obtain ⟨c, t, hct⟩ := List.exists_cons_of_ne_nil (Nat.toDigits_ne_nil (b := 10) (n := n))
  exact ⟨c, t, hct, isDigit_of_mem_toDigits (n := n) (hct ▸ List.mem_cons_self)⟩

theorem isGap_eq_false_of_isDigit {c : Char} (h : c.isDigit = true) : isGap c = false := by
  have hne : ∀ d : Char, d.isDigit = false → (c == d) = false := fun d hd =>
    beq_eq_false_iff_ne.mpr (ne_of_isDigit h hd)
  rw [isGap, hne ' ' (by decide), hne '\t' (by decide), hne '\n' (by decide), hne '\r' (by decide)]
  rfl

/-- A printed value begins with a sign of its own. -/
theorem exists_head {v : Json} (h : IsWhole v) :
    ∃ c t, v.renderChars = c :: t ∧ isGap c = false ∧ c ≠ ']' := by
  cases h with
  | null => exact ⟨'n', _, rfl, by decide⟩
  | bool b =>
    cases b with
    | false => exact ⟨'f', _, rfl, by decide⟩
    | true => exact ⟨'t', _, rfl, by decide⟩
  | int n =>
    cases n with
    | ofNat n =>
      obtain ⟨c, t, hct, hc⟩ := exists_toDigits n
      refine ⟨c, t, ?_, isGap_eq_false_of_isDigit hc, ne_of_isDigit hc (by decide)⟩
      rw [renderChars_int, toList_decimal_ofNat, hct]
    | negSucc n =>
      refine ⟨'-', Nat.toDigits 10 (n + 1), ?_, by decide⟩
      rw [renderChars_int, toList_decimal_negSucc, Nat.repr, String.toList_ofList]
  | str s => exact ⟨'"', _, rfl, by decide⟩
  | arr h => exact ⟨'[', _, rfl, by decide⟩
  | obj h => exact ⟨'\x7b', _, rfl, by decide⟩

theorem value?_toDigits (n m : Nat) {r : List Char} (h : Follows r) :
    value? (m + 1) (Nat.toDigits 10 n ++ r) = some (int n, r) := by
  have hread := readNumber?_toDigits false n h
  obtain ⟨c, t, hct, hc⟩ := exists_toDigits n
  rw [hct, List.cons_append] at hread ⊢
  rw [value?, skipGap_cons (isGap_eq_false_of_isDigit hc)]
  split
  -- a digit is none of the signs that begin other values
  all_goals first
    | exact hread
    | (rename_i heq
       obtain ⟨rfl, -⟩ := List.cons.inj heq
       exact absurd hc (by decide))

theorem isReadBack_int (n : Int) : IsReadBack (int n) := by
  intro m r hm hr
  rw [renderChars_int]
  cases n with
  | ofNat n =>
    rw [toList_decimal_ofNat]
    exact value?_toDigits n m hr
  | negSucc n =>
    have hread := readNumber?_toDigits true (n + 1) hr
    rw [toList_decimal_negSucc, Nat.repr, String.toList_ofList, List.cons_append]
    exact hread

/-! ### Parts of arrays and objects -/

section Parts

variable {n : Nat} {v : Json} {s r : List Char}

theorem items?_last (h : value? n s = some (v, ']' :: r)) : items? (n + 1) s = some ([v], r) := by
  rw [items?, h]
  rfl

theorem items?_comma (h : value? n s = some (v, ',' :: r)) :
    items? (n + 1) s = (items? n r).map fun x => (v :: x.1, x.2) := by
  rw [items?, h]
  show (items? n r).bind _ = _
  cases items? n r with
  | none => rfl
  | some x => rfl

theorem renderString_append (k : String) (r : List Char) :
    renderString k ++ r = '"' :: (k.toList.flatMap escapeChar ++ '"' :: r) := by
  rw [renderString, List.append_assoc, List.cons_append, List.singleton_append]

theorem fields?_last (k : String) (h : value? n s = some (v, '\x7d' :: r)) :
    fields? (n + 1) (renderString k ++ ':' :: ' ' :: s) = some ([(k, v)], r) := by
  have hvalue : value? n (' ' :: s) = some (v, '\x7d' :: r) := by rw [value?_space, h]
  rw [renderString_append, fields?, skipGap_cons (by decide)]
  simp only [readString?_body, Option.bind_eq_bind, Option.bind_some,
    skipGap_cons (c := ':') (by decide), hvalue]
  rfl

theorem fields?_comma (k : String) (h : value? n s = some (v, ',' :: r)) :
    fields? (n + 1) (renderString k ++ ':' :: ' ' :: s)
      = (fields? n r).map fun x => ((k, v) :: x.1, x.2) := by
  have hvalue : value? n (' ' :: s) = some (v, ',' :: r) := by rw [value?_space, h]
  rw [renderString_append, fields?, skipGap_cons (by decide)]
  simp only [readString?_body, Option.bind_eq_bind, Option.bind_some,
    skipGap_cons (c := ':') (by decide), hvalue, skipGap_cons (c := ',') (by decide)]
  cases fields? n r with
  | none => rfl
  | some x => rfl

end Parts

/-- The items begin as the first one does. -/
theorem exists_renderItems_head {v : Json} (h : IsWhole v) (items : List Json) :
    ∃ c t, renderItems (v :: items) = c :: t ∧ isGap c = false ∧ c ≠ ']' := by
  obtain ⟨c, t, hct, hc⟩ := exists_head h
  cases items with
  | nil => exact ⟨c, t, by rw [renderItems, hct], hc⟩
  | cons w items => exact ⟨c, _, by rw [renderItems_cons_cons, hct, List.cons_append], hc⟩

/-- The fields begin with the quote of the first name. -/
theorem exists_renderFields_head (f : String × Json) (fields : List (String × Json)) :
    ∃ t, renderFields (f :: fields) = '"' :: t := by
  obtain ⟨k, v⟩ := f
  cases fields with
  | nil => exact ⟨_, by rw [renderFields, renderString_append]⟩
  | cons w fields => exact ⟨_, by rw [renderFields_cons_cons, List.append_assoc, renderString_append]⟩

theorem items?_render {items : List Json} (hne : items ≠ []) (h : ∀ v ∈ items, IsReadBack v) {n : Nat}
    (hn : (renderItems items).length + 1 < n) (r : List Char) :
    items? n (renderItems items ++ ']' :: r) = some (items, r) := by
  induction items generalizing n with
  | nil => exact absurd rfl hne
  | cons v items ih =>
    -- one step for the item and one for its value
    obtain ⟨m, rfl⟩ : ∃ k, n = k + 2 := ⟨n - 2, by omega⟩
    have hv := h v List.mem_cons_self
    cases items with
    | nil =>
      rw [renderItems] at hn ⊢
      exact items?_last (hv m _ (by omega) (follows_cons (by decide) r))
    | cons w items =>
      rw [renderItems_cons_cons, List.length_append, List.length_cons, List.length_cons] at hn
      have hrest := ih (List.cons_ne_nil _ _) (fun x hx => h x (List.mem_cons_of_mem v hx))
        (n := m + 1) (by omega)
      rw [renderItems_cons_cons, List.append_assoc, List.cons_append, List.cons_append,
        items?_comma (hv m _ (by omega) (follows_cons (by decide) _)), items?_space, hrest]
      rfl

theorem fields?_render {fields : List (String × Json)} (hne : fields ≠ [])
    (h : ∀ f ∈ fields, IsReadBack f.2) {n : Nat} (hn : (renderFields fields).length + 1 < n)
    (r : List Char) : fields? n (renderFields fields ++ '\x7d' :: r) = some (fields, r) := by
  induction fields generalizing n with
  | nil => exact absurd rfl hne
  | cons f fields ih =>
    obtain ⟨k, v⟩ := f
    -- a name with its value and the comma behind it takes two steps
    obtain ⟨m, rfl⟩ : ∃ k, n = k + 2 := ⟨n - 2, by omega⟩
    have hv : IsReadBack v := h (k, v) List.mem_cons_self
    cases fields with
    | nil =>
      rw [renderFields, List.length_append, List.length_cons, List.length_cons] at hn
      rw [renderFields, List.append_assoc, List.cons_append, List.cons_append]
      exact fields?_last k (hv m _ (by omega) (follows_cons (by decide) r))
    | cons w fields =>
      rw [renderFields_cons_cons] at hn ⊢
      simp only [List.length_append, List.length_cons] at hn
      have hrest := ih (List.cons_ne_nil _ _) (fun x hx => h x (List.mem_cons_of_mem _ hx))
        (n := m + 1) (by omega)
      simp only [List.append_assoc, List.cons_append]
      rw [fields?_comma k (hv m _ (by omega) (follows_cons (by decide) _)), fields?_space, hrest]
      rfl

theorem value?_items {c : Char} (hgap : isGap c = false) (hc : c ≠ ']') (n : Nat) (t : List Char) :
    value? (n + 1) ('[' :: c :: t) = (items? n (c :: t)).map fun x => (arr x.1, x.2) := by
  rw [value?, skipGap_cons (by decide)]
  simp only [skipGap_cons hgap]
  split
  · rename_i heq
    exact absurd (List.cons.inj heq).1 hc
  · rfl

theorem value?_fields {c : Char} (hgap : isGap c = false) (hc : c ≠ '\x7d') (n : Nat)
    (t : List Char) :
    value? (n + 1) ('\x7b' :: c :: t) = (fields? n (c :: t)).map fun x => (obj x.1, x.2) := by
  rw [value?, skipGap_cons (by decide)]
  simp only [skipGap_cons hgap]
  split
  · rename_i heq
    exact absurd (List.cons.inj heq).1 hc
  · rfl

theorem isReadBack_arr {items : List Json} (hwhole : ∀ v ∈ items, IsWhole v)
    (h : ∀ v ∈ items, IsReadBack v) : IsReadBack (arr items) := by
  intro n r hn hr
  rw [renderChars_arr] at hn ⊢
  rw [List.length_cons, List.length_append, List.length_singleton] at hn
  rw [List.cons_append, List.append_assoc, List.singleton_append]
  cases items with
  | nil => rfl
  | cons v items =>
    have hread := items?_render (List.cons_ne_nil v items) h (n := n) (by omega) r
    obtain ⟨c, t, hct, hgap, hc⟩ := exists_renderItems_head (hwhole v List.mem_cons_self) items
    rw [hct, List.cons_append] at hread ⊢
    rw [value?_items hgap hc, hread]
    rfl

theorem isReadBack_obj {fields : List (String × Json)} (h : ∀ f ∈ fields, IsReadBack f.2) :
    IsReadBack (obj fields) := by
  intro n r hn hr
  rw [renderChars_obj] at hn ⊢
  rw [List.length_cons, List.length_append, List.length_singleton] at hn
  rw [List.cons_append, List.append_assoc, List.singleton_append]
  cases fields with
  | nil => rfl
  | cons f fields =>
    have hread := fields?_render (List.cons_ne_nil f fields) h (n := n) (by omega) r
    obtain ⟨t, ht⟩ := exists_renderFields_head f fields
    rw [ht, List.cons_append] at hread ⊢
    rw [value?_fields (by decide) (by decide), hread]
    rfl

/-- **Printed values are read back.** -/
theorem isReadBack {v : Json} (h : IsWhole v) : IsReadBack v := by
  -- the induction is on the value as a tree: items and fields are read back before their brackets
  induction h with
  | null =>
    intro n r hn hr
    rfl
  | bool b =>
    intro n r hn hr
    cases b with
    | false => rfl
    | true => rfl
  | int n => exact isReadBack_int n
  | str s =>
    intro n r hn hr
    have hread := readString?_body s r
    rw [renderChars_str, renderString_append]
    show (readString? _).map _ = _
    rw [hread]
    rfl
  | arr h ih => exact isReadBack_arr h ih
  | obj h ih => exact isReadBack_obj ih

theorem read?_render {v : Json} (h : IsWhole v) : read? v.render = some v := by
  have hread := isReadBack h v.renderChars.length [] (Nat.le_refl _) follows_nil
  rw [List.append_nil] at hread
  rw [read?, render]
  simp only [String.toList_ofList, hread]
  rfl

/-! ### What is shown -/

theorem isPrintable_of_isDigit {c : Char} (h : c.isDigit = true) : IsPrintable c := by
  have hrange : 48 ≤ c.toNat ∧ c.toNat ≤ 57 := Char.isDigit_iff_toNat.mp h
  exact ⟨by omega, by omega⟩

theorem isPrintable_of_mem_renderItems {items : List Json}
    (h : ∀ v ∈ items, ∀ c ∈ v.renderChars, IsPrintable c) : ∀ c ∈ renderItems items, IsPrintable c := by
  induction items with
  | nil => nofun
  | cons v items ih =>
    have hv := h v List.mem_cons_self
    cases items with
    | nil =>
      rw [renderItems]
      exact hv
    | cons w items =>
      have hrest := ih fun x hx => h x (List.mem_cons_of_mem v hx)
      rw [renderItems_cons_cons]
      simp only [List.forall_mem_append, List.forall_mem_cons]
      exact ⟨hv, by decide, by decide, hrest⟩

theorem isPrintable_of_mem_renderFields {fields : List (String × Json)}
    (h : ∀ f ∈ fields, ∀ c ∈ f.2.renderChars, IsPrintable c) :
    ∀ c ∈ renderFields fields, IsPrintable c := by
  have hname : ∀ k, ∀ c ∈ renderString k, IsPrintable c := fun k c => isPrintable_of_mem_renderString
  induction fields with
  | nil => nofun
  | cons f fields ih =>
    obtain ⟨k, v⟩ := f
    have hv : ∀ c ∈ v.renderChars, IsPrintable c := h (k, v) List.mem_cons_self
    -- the last field has no comma behind it
    cases fields with
    | nil =>
      rw [renderFields]
      simp only [List.forall_mem_append, List.forall_mem_cons]
      exact ⟨hname k, by decide, by decide, hv⟩
    | cons w fields =>
      have hrest := ih fun x hx => h x (List.mem_cons_of_mem _ hx)
      rw [renderFields_cons_cons]
      simp only [List.forall_mem_append, List.forall_mem_cons]
      exact ⟨⟨hname k, by decide, by decide, hv⟩, by decide, by decide, hrest⟩

theorem isPrintable_of_all {s : List Char} (h : (s.all fun c => decide (IsPrintable c)) = true) :
    ∀ c ∈ s, IsPrintable c :=
  fun c hc => of_decide_eq_true (List.all_eq_true.mp h c hc)

/-- The printed form of a whole value shows printable ASCII only. -/
theorem isPrintable_of_mem_renderChars {v : Json} (h : IsWhole v) :
    ∀ c ∈ v.renderChars, IsPrintable c := by
  have hdigits : ∀ n, ∀ c ∈ Nat.toDigits 10 n, IsPrintable c := fun n c hc =>
    isPrintable_of_isDigit (isDigit_of_mem_toDigits hc)
  induction h with
  | null => exact isPrintable_of_all (by decide)
  | bool b =>
    cases b with
    | false => exact isPrintable_of_all (by decide)
    | true => exact isPrintable_of_all (by decide)
  | int n =>
    rw [renderChars_int]
    cases n with
    | ofNat n =>
      rw [toList_decimal_ofNat]
      exact hdigits n
    | negSucc n =>
      rw [toList_decimal_negSucc, Nat.repr, String.toList_ofList, List.forall_mem_cons]
      exact ⟨by decide, hdigits (n + 1)⟩
  | str s =>
    rw [renderChars_str]
    exact fun c => isPrintable_of_mem_renderString
  | arr h ih =>
    rw [renderChars_arr]
    simp only [List.forall_mem_append, List.forall_mem_cons]
    exact ⟨by decide, isPrintable_of_mem_renderItems ih, by decide, List.forall_mem_nil _⟩
  | obj h ih =>
    rw [renderChars_obj]
    simp only [List.forall_mem_append, List.forall_mem_cons]
    exact ⟨by decide, isPrintable_of_mem_renderFields ih, by decide, List.forall_mem_nil _⟩

end Json

end DeliveryWatch
