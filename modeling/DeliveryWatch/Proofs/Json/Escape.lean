/-
Strings of JSON are read back, and show printable ASCII only.

* `toList_hexFilled_four` — the four digits of a 16-bit unit, which are read back (`unit?_hexFilled`);
* `Form` — the forms that a character may have between quotes, and `form_escapeChar` — it has one of them;
* `stringBody?_escapeChar` — so one character is read from its form, astral characters from both halves;
* `readString?_body` — a string is read up to its closing quote, whatever follows;
* `isPrintable_of_mem_renderString` — it shows printable ASCII only.
-/
import DeliveryWatch.Json.Printer
import DeliveryWatch.Json.Reader
import Mathlib.Tactic.SplitIfs

namespace DeliveryWatch

/-! ### Sixteen-bit units -/

namespace Text

/-- One more digit in front: of a number that has fewer, a zero. -/
theorem toList_hexFilled_succ {w n : Nat} (hw : 0 < w) :
    (hexFilled (w + 1) n).toList = (hexFilled w (n / 16)).toList ++ [Nat.digitChar (n % 16)] := by
  simp only [hexFilled, String.toList_ofList]
  by_cases hn : n < 16
  · have hzero : n / 16 = 0 := Nat.div_eq_of_lt hn
    obtain ⟨w, rfl⟩ : ∃ v, w = v + 1 := ⟨w - 1, by omega⟩
    rw [hzero, Nat.toDigits_of_lt_base hn, Nat.toDigits_of_lt_base (by decide), Nat.mod_eq_of_lt hn]
    show List.replicate (w + 1) '0' ++ _ = List.replicate w '0' ++ ['0'] ++ _
    rw [List.replicate_succ']
  · rw [Nat.toDigits_of_base_le (by decide) (by omega), List.length_append, List.length_singleton,
      Nat.add_sub_add_right, List.append_assoc]

theorem toList_hexFilled_four {n : Nat} (hn : n < 0x10000) :
    (hexFilled 4 n).toList = [Nat.digitChar (n / 0x1000), Nat.digitChar (n / 0x100 % 16),
      Nat.digitChar (n / 0x10 % 16), Nat.digitChar (n % 16)] := by
  have hone : (hexFilled 1 (n / 16 / 16 / 16)).toList = [Nat.digitChar (n / 0x1000)] := by
    have hdiv : n / 16 / 16 / 16 = n / 0x1000 := by omega
    rw [hdiv, hexFilled, String.toList_ofList, Nat.toDigits_of_lt_base (by omega)]
    rfl
  have htwo : n / 16 / 16 = n / 0x100 := by omega
  rw [toList_hexFilled_succ (by decide), toList_hexFilled_succ (by decide),
    toList_hexFilled_succ (by decide), hone, htwo]
  rfl

theorem hexDigit?_digitChar {n : Nat} (h : n < 16) : hexDigit? (Nat.digitChar n) = some n := by
  have hall : ∀ n < 16, hexDigit? (Nat.digitChar n) = some n := by decide
  exact hall n h

end Text

namespace Json

open Text

theorem unit?_hexFilled {n : Nat} (hn : n < 0x10000) (r : List Char) :
    unit? ((hexFilled 4 n).toList ++ r) = some (n, r) := by
  have hsum : ((n / 0x1000 * 16 + n / 0x100 % 16) * 16 + n / 0x10 % 16) * 16 + n % 16 = n := by omega
  rw [toList_hexFilled_four hn]
  simp only [List.cons_append, List.nil_append, unit?]
  rw [hexDigit?_digitChar (by omega), hexDigit?_digitChar (by omega), hexDigit?_digitChar (by omega),
    hexDigit?_digitChar (by omega)]
  simp only [Option.bind_eq_bind, Option.bind_some, hsum]

/-! ### Escapes -/

/-- A unit that is no half of an astral character is a character. -/
theorem escaped?_unit {n : Nat} (h : n < 0xD800 ∨ 0xDFFF < n ∧ n < 0x10000) (r : List Char) :
    escaped? ('u' :: ((hexFilled 4 n).toList ++ r)) = some (Char.ofNat n, r) := by
  rw [escaped?, unit?_hexFilled (by omega)]
  simp only [Option.bind_eq_bind, Option.bind_some]
  rw [if_neg (by omega)]

/-- Two halves are one astral character. -/
theorem escaped?_halves {n : Nat} (h : n < 0x100000) (r : List Char) :
    escaped? ('u' :: ((hexFilled 4 (0xD800 + n / 0x400)).toList ++
      (unitEscape (0xDC00 + n % 0x400) ++ r))) = some (Char.ofNat (0x10000 + n), r) := by
  have hsum : 0x10000 + (0xD800 + n / 0x400 - 0xD800) * 0x400 + (0xDC00 + n % 0x400 - 0xDC00)
      = 0x10000 + n := by omega
  rw [escaped?, unit?_hexFilled (by omega)]
  simp only [Option.bind_eq_bind, Option.bind_some]
  rw [if_pos (by omega)]
  simp only [unitEscape, List.cons_append]
  rw [unit?_hexFilled (by omega)]
  simp only [Option.bind_some]
  rw [if_pos (by omega), hsum]

/-- A printable character of ASCII: a space, or a sign that shows. -/
def IsPrintable (c : Char) : Prop := 0x20 ≤ c.toNat ∧ c.toNat ≤ 0x7E

instance (c : Char) : Decidable (IsPrintable c) :=
  inferInstanceAs (Decidable (0x20 ≤ c.toNat ∧ c.toNat ≤ 0x7E))

/-- The forms of a character between quotes: the character itself, a letter behind a backslash that is
read as the character, its unit, or its halves. -/
inductive Form (c : Char) : List Char → Prop
  | plain (h : IsPrintable c) (hquote : c ≠ '"') (hback : c ≠ '\\') : Form c [c]
  | letter {e : Char} (h : IsPrintable e) (hread : ∀ r, escaped? (e :: r) = some (c, r)) :
    Form c ['\\', e]
  | unit (h : c.toNat < 0x10000) : Form c (unitEscape c.toNat)
  | halves {n : Nat} (hc : c.toNat = 0x10000 + n) (hn : n < 0x100000) :
    Form c (unitEscape (0xD800 + n / 0x400) ++ unitEscape (0xDC00 + n % 0x400))

/-- A character is no half of an astral character. -/
theorem not_half (c : Char) : c.toNat < 0xD800 ∨ 0xDFFF < c.toNat ∧ c.toNat < 0x110000 := c.valid

theorem form_escapeChar (c : Char) : Form c (escapeChar c) := by
  have hvalid := not_half c
  have hof : ∀ n, c.toNat = n → c = Char.ofNat n := by
    rintro n rfl
    exact (Char.ofNat_toNat c).symm
  unfold escapeChar
  -- the forms are taken in the order in which the writer tries them
  split_ifs with hquote hback hfeed hreturn htab hbell hform hplain hsmall
  · rw [hquote]
    exact .letter (by decide) fun r => rfl
  · rw [hback]
    exact .letter (by decide) fun r => rfl
  · rw [hfeed]
    exact .letter (by decide) fun r => rfl
  · rw [hreturn]
    exact .letter (by decide) fun r => rfl
  · rw [htab]
    exact .letter (by decide) fun r => rfl
  · rw [hof 8 hbell]
    exact .letter (by decide) fun r => rfl
  · rw [hof 12 hform]
    exact .letter (by decide) fun r => rfl
  · exact .plain hplain hquote hback
  · exact .unit hsmall
  · exact .halves (by omega) (by omega)

/-! ### Strings -/

/-- Behind a backslash a character is read, and then the rest. -/
theorem stringBody?_of_escaped? {c : Char} {n : Nat} {t r : List Char}
    (h : escaped? t = some (c, r)) :
    stringBody? (n + 1) ('\\' :: t) = (stringBody? n r).map fun x => (c :: x.1, x.2) := by
  rw [stringBody?, if_neg (by decide), if_pos rfl, h]
  simp only [Option.bind_eq_bind, Option.bind_some]
  cases stringBody? n r with
  | none => rfl
  | some x => rfl

theorem stringBody?_escapeChar (c : Char) (n : Nat) (r : List Char) :
    stringBody? (n + 1) (escapeChar c ++ r) = (stringBody? n r).map fun x => (c :: x.1, x.2) := by
  have hvalid := not_half c
  have hform := form_escapeChar c
  generalize escapeChar c = t at hform
  -- each form is read by its own rule, whatever stands behind it
  cases hform with
  | plain h hquote hback =>
    rw [List.singleton_append, stringBody?, if_neg hquote, if_neg hback]
    cases stringBody? n r with
    | none => rfl
    | some x => rfl
  | letter h hread => exact stringBody?_of_escaped? (hread r)
  | unit h =>
    refine stringBody?_of_escaped? ?_
    have hread := escaped?_unit (n := c.toNat) (by omega) r
    rwa [Char.ofNat_toNat] at hread
  | halves hc hn =>
    rw [List.append_assoc]
    refine stringBody?_of_escaped? ?_
    have hread := escaped?_halves hn r
    rwa [← hc, Char.ofNat_toNat] at hread

theorem stringBody?_flatMap {n : Nat} (s : List Char) (hn : s.length < n) (r : List Char) :
    stringBody? n (s.flatMap escapeChar ++ '"' :: r) = some (s, r) := by
  induction s generalizing n with
  | nil =>
    obtain ⟨m, rfl⟩ : ∃ m, n = m + 1 := ⟨n - 1, by omega⟩
    rfl
  | cons c s ih =>
    rw [List.length_cons] at hn
    obtain ⟨m, rfl⟩ : ∃ m, n = m + 1 := ⟨n - 1, by omega⟩
    rw [List.flatMap_cons, List.append_assoc, stringBody?_escapeChar, ih (by omega)]
    rfl

theorem escapeChar_ne_nil (c : Char) : escapeChar c ≠ [] := by
  have hform := form_escapeChar c
  intro h
  rw [h] at hform
  cases hform

theorem length_le_flatMap_escapeChar (s : List Char) : s.length ≤ (s.flatMap escapeChar).length := by
  induction s with
  | nil => exact Nat.le_refl 0
  | cons c s ih =>
    have hpos := List.length_pos_iff.mpr (escapeChar_ne_nil c)
    rw [List.flatMap_cons, List.length_append, List.length_cons]
    omega

/-- **A string is read back** behind its opening quote, whatever follows. -/
theorem readString?_body (s : String) (r : List Char) :
    readString? (s.toList.flatMap escapeChar ++ '"' :: r) = some (s, r) := by
  have hlen := length_le_flatMap_escapeChar s.toList
  have hbody : stringBody? ((s.toList.flatMap escapeChar ++ '"' :: r).length + 1)
      (s.toList.flatMap escapeChar ++ '"' :: r) = some (s.toList, r) := by
    refine stringBody?_flatMap s.toList ?_ r
    rw [List.length_append, List.length_cons]
    omega
  rw [readString?, hbody, Option.map_some]
  simp only [String.ofList_toList]

/-! ### What is shown -/

theorem isPrintable_digitChar {n : Nat} (h : n < 16) : IsPrintable (Nat.digitChar n) := by
  have hall : ∀ n < 16, IsPrintable (Nat.digitChar n) := by decide
  exact hall n h

theorem isPrintable_of_mem_unitEscape {n : Nat} (hn : n < 0x10000) {c : Char}
    (h : c ∈ unitEscape n) : IsPrintable c := by
  rw [unitEscape, toList_hexFilled_four hn] at h
  simp only [List.mem_cons, List.not_mem_nil, or_false] at h
  rcases h with rfl | rfl | rfl | rfl | rfl | rfl
  · decide
  · decide
  · exact isPrintable_digitChar (by omega)
  · exact isPrintable_digitChar (by omega)
  · exact isPrintable_digitChar (by omega)
  · exact isPrintable_digitChar (by omega)

theorem isPrintable_of_mem_escapeChar {c d : Char} (h : d ∈ escapeChar c) : IsPrintable d := by
  have hform := form_escapeChar c
  generalize escapeChar c = t at hform h
  cases hform with
  | plain hc hquote hback =>
    rw [List.mem_singleton.mp h]
    exact hc
  | letter he hread =>
    rcases List.mem_cons.mp h with rfl | h
    · decide
    · rw [List.mem_singleton.mp h]
      exact he
  | unit hc => exact isPrintable_of_mem_unitEscape hc h
  | halves hc hn =>
    rcases List.mem_append.mp h with h | h
    · exact isPrintable_of_mem_unitEscape (by omega) h
    · exact isPrintable_of_mem_unitEscape (by omega) h

/-- A string shows printable ASCII only. -/
theorem isPrintable_of_mem_renderString {s : String} {c : Char} (h : c ∈ renderString s) :
    IsPrintable c := by
  rw [renderString] at h
  rcases List.mem_append.mp h with h | h
  · rcases List.mem_cons.mp h with rfl | h
    · decide
    · obtain ⟨d, -, hd⟩ := List.mem_flatMap.mp h
      exact isPrintable_of_mem_escapeChar hd
  · rw [List.mem_singleton.mp h]
    decide

end Json

end DeliveryWatch
