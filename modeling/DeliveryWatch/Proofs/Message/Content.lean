/-
The text of a message that arrives as bytes: no byte is lost.

* `contentText_toUTF8` — the bytes of a string are read as this string;
* `contentText_of_ne` — all other bytes, one character for each;
* `latin1?_contentText_of_ne` — which Latin-1 turns back into the same bytes;
* `contentText_exact` — so the text always gives the bytes back, in UTF-8 or in Latin-1.
-/
import DeliveryWatch.Message.Section
import DeliveryWatch.Proofs.Bytes.WellFormed

namespace DeliveryWatch.Message

/-- The byte of a character in Latin-1: characters from `0x100` on have none. -/
def latin1Byte? (c : Char) : Option UInt8 :=
  if c.toNat < 0x100 then some (UInt8.ofNat c.toNat) else none

/-- The bytes of a text in Latin-1, one for each character. -/
def latin1? (s : String) : Option (List UInt8) := s.toList.mapM latin1Byte?

variable {bs : List UInt8}

theorem toNat_ofNat_byte (b : UInt8) : (Char.ofNat b.toNat).toNat = b.toNat := by
  have hb := b.toNat_lt
  exact Utf8.toNat_ofNat (.inl (by omega))

theorem map_toNat_byteChars (bs : List UInt8) :
    (byteChars bs).map Char.toNat = bs.map UInt8.toNat := by
  rw [byteChars, List.map_map]
  exact List.map_congr_left fun b _ => toNat_ofNat_byte b

theorem latin1Byte?_ofNat (b : UInt8) : latin1Byte? (Char.ofNat b.toNat) = some b := by
  have hb := b.toNat_lt
  rw [latin1Byte?, toNat_ofNat_byte, if_pos (by omega), UInt8.ofNat_toNat]

theorem mapM_byteChars (bs : List UInt8) : (byteChars bs).mapM latin1Byte? = some bs := by
  induction bs with
  | nil => rfl
  | cons b r ih =>
    rw [byteChars, List.map_cons, List.mapM_cons, latin1Byte?_ofNat]
    rw [byteChars] at ih
    rw [ih]
    rfl

/-- The bytes of a string are read as this string. -/
theorem contentText_toUTF8 (s : String) : contentText s.toUTF8.data.toList = s := by
  rw [contentText, ← Utf8.encode_eq_toUTF8, Utf8.decode?_encode, Option.getD_some]

/-- Bytes of no string are read one character each. -/
theorem contentText_of_ne (h : ∀ s : String, s.toUTF8.data.toList ≠ bs) :
    contentText bs = String.ofList (byteChars bs) := by
  have hnone : Utf8.decode? bs = none := by
    rw [Option.eq_none_iff_forall_ne_some]
    intro s hs
    refine h s ?_
    rw [← Utf8.encode_eq_toUTF8]
    exact Utf8.decode?_eq_some_iff.mp hs
  rw [contentText, hnone, Option.getD_none]

theorem latin1?_contentText_of_ne (h : ∀ s : String, s.toUTF8.data.toList ≠ bs) :
    latin1? (contentText bs) = some bs := by
  rw [contentText_of_ne h, latin1?, String.toList_ofList, mapM_byteChars]

/-- **Reading loses nothing.** The bytes of a string are read as this string, and all other bytes as one
character each, equal to the byte; so every text that is read gives its bytes back, in UTF-8 or in
Latin-1. -/
theorem contentText_exact (bs : List UInt8) :
    (∀ s : String, s.toUTF8.data.toList = bs → contentText bs = s) ∧
    ((∀ s : String, s.toUTF8.data.toList ≠ bs) →
      (contentText bs).toList.map Char.toNat = bs.map UInt8.toNat ∧
        latin1? (contentText bs) = some bs) ∧
    ((contentText bs).toUTF8.data.toList = bs ∨ latin1? (contentText bs) = some bs) := by
  refine ⟨?_, ?_, ?_⟩
  · rintro s rfl
    exact contentText_toUTF8 s
  · intro h
    refine ⟨?_, latin1?_contentText_of_ne h⟩
    rw [contentText_of_ne h, String.toList_ofList, map_toNat_byteChars]
  · by_cases h : ∃ s : String, s.toUTF8.data.toList = bs
    · obtain ⟨s, rfl⟩ := h
      rw [contentText_toUTF8]
      exact .inl rfl
    · exact .inr (latin1?_contentText_of_ne (not_exists.mp h))

/-- The bytes that a surrogate would have, with an overlong slash and a sequence that breaks off behind
them, are the bytes of no string. -/
theorem contentText_exact_surrogate :
    (∀ s : String, s.toUTF8.data.toList ≠ [0xED, 0xA0, 0x80, 0xC0, 0xAF, 0xE2, 0x82]) ∧
    (contentText [0xED, 0xA0, 0x80, 0xC0, 0xAF, 0xE2, 0x82]).toList.map Char.toNat
      = [0xED, 0xA0, 0x80, 0xC0, 0xAF, 0xE2, 0x82] ∧
    contentText [0xE2, 0x82, 0xAC] = "€" := by
  have hne : ∀ s : String, s.toUTF8.data.toList ≠ [0xED, 0xA0, 0x80, 0xC0, 0xAF, 0xE2, 0x82] := by
    intro s hs
    rw [← Utf8.encode_eq_toUTF8] at hs
    have hread := Utf8.decode?_eq_some_iff.mpr hs
    have hnone : Utf8.decode? [0xED, 0xA0, 0x80, 0xC0, 0xAF, 0xE2, 0x82] = none := by decide
    cases hnone.symm.trans hread
  refine ⟨hne, ?_, ?_⟩
  · exact ((contentText_exact _).2.1 hne).1
  · exact (contentText_exact _).1 "€" (by decide)

end DeliveryWatch.Message
