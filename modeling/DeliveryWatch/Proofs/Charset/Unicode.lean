/-
Text in UTF-8 is read back by its name.

* `utf8_encodeChar` — the reader of one character takes the bytes of a character and no more;
* `decode?_utf8` — the bytes of a text, under the name `utf-8`, are the characters of this text.
-/
import DeliveryWatch.Charset.Decode
import DeliveryWatch.Proofs.Bytes.Utf8

namespace DeliveryWatch.Charset

open Header (Symbol Symbols)

variable (c : Char) (r : List UInt8)

theorem utf8Prefix_of_lt {n : Nat} (h0 : 0 < n) (hn : n < (Utf8.encodeChar c).length) :
    utf8Prefix (Utf8.encodeChar c ++ r) n = none := by
  rw [utf8Prefix, Utf8.decode?]
  rw [List.take_append_of_le_length (Nat.le_of_lt hn), Utf8.pieces_take_encodeChar c h0 hn]
  rfl

theorem utf8Prefix_length :
    utf8Prefix (Utf8.encodeChar c ++ r) (Utf8.encodeChar c).length
      = some (c, (Utf8.encodeChar c).length) := by
  have hchar : Utf8.decode? (Utf8.encodeChar c) = some (String.ofList [c]) := by
    have h := Utf8.decode?_encode (String.ofList [c])
    rw [Utf8.encode] at h
    rw [String.toList_ofList, List.flatMap_singleton] at h
    exact h
  rw [utf8Prefix]
  rw [List.take_left, hchar, Option.map_some, String.toList_ofList]

/-- The reader takes the bytes of a character and no more. -/
theorem utf8_encodeChar :
    utf8 (Utf8.encodeChar c ++ r) = some (c, (Utf8.encodeChar c).length) := by
  have hshort : ∀ n, 0 < n → n < (Utf8.encodeChar c).length →
      utf8Prefix (Utf8.encodeChar c ++ r) n = none := fun n => utf8Prefix_of_lt c r
  have hwhole := utf8Prefix_length c r
  have hlen := Utf8.length_encodeChar c
  rw [utf8]
  -- the reader tries one byte, two, three and four; it fails below the length of the character
  generalize (Utf8.encodeChar c).length = k at hshort hwhole hlen
  simp only [List.mem_cons, List.not_mem_nil, or_false] at hlen
  rcases hlen with rfl | rfl | rfl | rfl
  · rw [List.findSome?_cons, hwhole]
  · rw [List.findSome?_cons, hshort 1 (by omega) (by omega), List.findSome?_cons, hwhole]
  · rw [List.findSome?_cons, hshort 1 (by omega) (by omega), List.findSome?_cons,
      hshort 2 (by omega) (by omega), List.findSome?_cons, hwhole]
  · rw [List.findSome?_cons, hshort 1 (by omega) (by omega), List.findSome?_cons,
      hshort 2 (by omega) (by omega), List.findSome?_cons, hshort 3 (by omega) (by omega),
      List.findSome?_cons, hwhole]

theorem decodeFrom_encodeChar (n : Nat) :
    decodeFrom utf8 (n + 1) (Utf8.encodeChar c ++ r)
      = (decodeFrom utf8 n r).map (.char c :: ·) := by
  have hread := utf8_encodeChar c r
  have hne := (Utf8.spells_encodeChar c).ne_nil
  -- only that there are some bytes matters from here on
  generalize Utf8.encodeChar c = bs at hread hne ⊢
  cases bs with
  | nil => exact absurd rfl hne
  | cons b bs =>
    rw [List.cons_append] at hread ⊢
    rw [decodeFrom, hread]
    have hmax : max (b :: bs).length 1 = bs.length + 1 := by
      rw [List.length_cons]
      omega
    simp only [hmax, List.drop_succ_cons, List.drop_left]

theorem decodeFrom_utf8 (s : List Char) {n : Nat} (hn : s.length ≤ n) :
    decodeFrom utf8 n (s.flatMap Utf8.encodeChar) = some (Symbol.ofText s) := by
  induction s generalizing n with
  | nil =>
    cases n with
    | zero => rfl
    | succ n => rfl
  | cons c s ih =>
    rw [List.length_cons] at hn
    obtain ⟨m, rfl⟩ : ∃ m, n = m + 1 := ⟨n - 1, by omega⟩
    rw [List.flatMap_cons, decodeFrom_encodeChar, ih (by omega)]
    rfl

theorem length_le_flatMap (s : List Char) : s.length ≤ (s.flatMap Utf8.encodeChar).length := by
  induction s with
  | nil => exact Nat.le_refl 0
  | cons c s ih =>
    have hpos : 0 < (Utf8.encodeChar c).length :=
      List.length_pos_iff.mpr (Utf8.spells_encodeChar c).ne_nil
    rw [List.flatMap_cons, List.length_append, List.length_cons]
    omega

/-- **The bytes of a text in UTF-8 are its characters.** -/
theorem decode?_utf8 (s : List Char) :
    decode? "utf-8".toList (Utf8.encode (String.ofList s)) = some (Symbol.ofText s) := by
  have hname : canonical? "utf-8".toList = some "utf_8" := by decide +kernel
  have hset : set? "utf_8" = some (decodeWith utf8) := rfl
  have hzero : ("utf-8".toList.contains (Char.ofNat 0)) = false := by decide
  simp only [decode?, hzero, Bool.false_eq_true, if_false, hname, Option.bind_some, hset]
  rw [decodeWith, Utf8.encode, String.toList_ofList]
  exact decodeFrom_utf8 s (length_le_flatMap s)

end DeliveryWatch.Charset
