/-
Encoded words are read back.

* `IsContent` — the signs that the text of an encoded word consists of;
* `Content` — a text in one of the two encodings, which reads as given bytes;
* `exists_content` — an encoded word is such a text between its marks;
* `readEncodedWord_encodedWord` — a reader finds the text that was written, whatever follows the word.
-/
import DeliveryWatch.Header.Written
import DeliveryWatch.Header.EncodedWord
import DeliveryWatch.Proofs.Bytes.Base64
import DeliveryWatch.Proofs.Charset.Unicode
import DeliveryWatch.Proofs.Text.Blank
import DeliveryWatch.Proofs.Text.Cut

namespace DeliveryWatch.Header

open DeliveryWatch.Header.Symbol Text

/-! ### Signs -/

/-- What the text of an encoded word consists of: visible signs of ASCII but the question mark. -/
def IsContent (c : Char) : Prop := 33 ≤ c.toNat ∧ c.toNat ≤ 126 ∧ c ≠ '?'

instance (c : Char) : Decidable (IsContent c) :=
  inferInstanceAs (Decidable (33 ≤ c.toNat ∧ c.toNat ≤ 126 ∧ c ≠ '?'))

theorem isContent_of_isSign {c : Char} (h : Base64.IsSign c) : IsContent c := by
  have hall : ∀ n < 64, IsContent (Base64.letter n) := by decide +kernel
  rcases h with rfl | ⟨n, hn, rfl⟩
  · decide
  · exact hall n hn

/-- The byte of a sign. -/
def signByte (c : Char) : UInt8 := UInt8.ofNat c.toNat

theorem forall_byte {P : UInt8 → Prop} (h : ∀ n < 256, P (UInt8.ofNat n)) (b : UInt8) : P b := by
  have hb := h b.toNat b.toNat_lt
  rw [UInt8.ofNat_toNat] at hb
  exact hb

/-- The digit of a value below 16, as an escaped byte is written. -/
def upperDigit (n : Nat) : Char := (Nat.digitChar n).toUpper

theorem hexDigit?_upperDigit {n : Nat} (h : n < 16) : hexDigit? (upperDigit n) = some n := by
  have hall : ∀ n < 16, hexDigit? (upperDigit n) = some n := by decide +kernel
  exact hall n h

theorem isContent_upperDigit {n : Nat} (h : n < 16) : IsContent (upperDigit n) := by
  have hall : ∀ n < 16, IsContent (upperDigit n) := by decide +kernel
  exact hall n h

theorem ofNat_toNat_signByte {c : Char} (h : c.toNat < 256) :
    Char.ofNat (signByte c).toNat = c := by
  simp only [signByte, UInt8.toNat_ofNat']
  rw [Nat.mod_eq_of_lt h, Char.ofNat_toNat]

/-! ### The encoding `q` -/

/-- How a byte is written: as itself, as an underscore, or as two digits. -/
theorem quoteByte_cases (b : UInt8) :
    (∃ c, quoteByte b = [c] ∧ signByte c = b ∧ IsContent c ∧ b ≠ 0x3D ∧ b ≠ 0x5F) ∨
    (b = 0x20 ∧ quoteByte b = ['_']) ∨
    quoteByte b = ['=', upperDigit (b.toNat / 16), upperDigit (b.toNat % 16)] := by
  -- both facts are about one byte, so they are checked for each of them
  have hplain : ∀ b : UInt8, isPlainByte b = true →
      signByte (Char.ofNat b.toNat) = b ∧ IsContent (Char.ofNat b.toNat) ∧ b ≠ 0x3D ∧ b ≠ 0x5F := by
    refine forall_byte ?_
    decide +kernel
  have hdigits : ∀ b : UInt8, (hexFilled 2 b.toNat).toList.map Char.toUpper
      = [upperDigit (b.toNat / 16), upperDigit (b.toNat % 16)] := by
    refine forall_byte ?_
    simp only [hexFilled, String.toList_ofList]
    decide +kernel
  by_cases hp : isPlainByte b = true
  · refine .inl ⟨Char.ofNat b.toNat, ?_, hplain b hp⟩
    rw [quoteByte, if_pos hp]
  · by_cases hs : b = 0x20
    · refine .inr (.inl ⟨hs, ?_⟩)
      rw [quoteByte, if_neg hp, if_pos hs]
    · refine .inr (.inr ?_)
      rw [quoteByte, if_neg hp, if_neg hs, hdigits]

theorem isContent_of_mem_quoteByte {b : UInt8} {c : Char} (h : c ∈ quoteByte b) : IsContent c := by
  have hb : b.toNat < 256 := b.toNat_lt
  obtain ⟨d, hd, -, hcontent, -⟩ | ⟨-, hd⟩ | hd := quoteByte_cases b
  · rw [hd, List.mem_singleton] at h
    rw [h]
    exact hcontent
  · rw [hd, List.mem_singleton] at h
    rw [h]
    decide
  · rw [hd] at h
    simp only [List.mem_cons, List.not_mem_nil, or_false] at h
    rcases h with rfl | rfl | rfl
    · decide
    · exact isContent_upperDigit (by omega)
    · exact isContent_upperDigit (by omega)

theorem unquote_of_ne {b : UInt8} (h : b ≠ 0x3D) (r : List UInt8) :
    unquote (b :: r) = (if b = 0x5F then 0x20 else b) :: unquote r := by
  rw [unquote]
  intro a b' r' heq
  exact absurd heq h

theorem unquote_digits (b : UInt8) (r : List UInt8) :
    unquote (0x3D :: signByte (upperDigit (b.toNat / 16)) :: signByte (upperDigit (b.toNat % 16)) :: r)
      = b :: unquote r := by
  have hb : b.toNat < 256 := b.toNat_lt
  have hsmall : ∀ n < 16, (upperDigit n).toNat < 256 := by
    intro n hn
    have := (isContent_upperDigit hn).2.1
    omega
  have hsum : b.toNat / 16 * 16 + b.toNat % 16 = b.toNat := by omega
  rw [unquote, ofNat_toNat_signByte (hsmall _ (by omega)), ofNat_toNat_signByte (hsmall _ (by omega)),
    hexDigit?_upperDigit (by omega), hexDigit?_upperDigit (by omega)]
  simp only [hsum, UInt8.ofNat_toNat]

theorem unquote_quoteByte (b : UInt8) (r : List UInt8) :
    unquote ((quoteByte b).map signByte ++ r) = b :: unquote r := by
  obtain ⟨c, hc, hbyte, -, hne, hline⟩ | ⟨hb, hc⟩ | hc := quoteByte_cases b
  · rw [hc, List.map_singleton, hbyte, List.singleton_append, unquote_of_ne hne, if_neg hline]
  · rw [hc, hb, List.map_singleton, List.singleton_append, unquote_of_ne (by decide)]
    rfl
  · rw [hc]
    exact unquote_digits b r

/-- **Bytes in the encoding `q` are read as these bytes.** -/
theorem unquote_flatMap_quoteByte (bs : List UInt8) :
    unquote ((bs.flatMap quoteByte).map signByte) = bs := by
  induction bs with
  | nil => rfl
  | cons b bs ih => rw [List.flatMap_cons, List.map_append, unquote_quoteByte, ih]

/-! ### Texts in one of the encodings -/

/-- A text in the encoding of a letter that reads as the bytes `bs`. An equals sign at its front starts
an escaped byte. -/
structure Content (letter : Char) (text : List Char) (bs : List UInt8) : Prop where
  signs : ∀ c ∈ text, IsContent c
  reads : contentBytes? [char letter] (ofText text) = some bs
  escape : ∀ r, text = '=' :: r →
    ∃ a b r', r = a :: b :: r' ∧ (hexDigit? a).isSome = true ∧ (hexDigit? b).isSome = true

theorem rawBytes?_ofText {s : List Char} (h : ∀ c ∈ s, IsContent c) :
    rawBytes? (ofText s) = some (s.map signByte) := by
  induction s with
  | nil => rfl
  | cons c r ih =>
    have hc := (h c List.mem_cons_self).2.1
    have hr := ih fun d hd => h d (List.mem_cons_of_mem c hd)
    have hlt : c.toNat < 128 := by omega
    simp only [rawBytes?, ofText, List.map_cons, List.mapM_cons] at hr ⊢
    rw [if_pos hlt, hr]
    rfl

/-- Bytes in the encoding `q`. -/
theorem content_quoted (bs : List UInt8) : Content 'q' (bs.flatMap quoteByte) bs := by
  have hsigns : ∀ c ∈ bs.flatMap quoteByte, IsContent c := by
    intro c hc
    obtain ⟨b, -, hb⟩ := List.mem_flatMap.mp hc
    exact isContent_of_mem_quoteByte hb
  refine ⟨hsigns, ?_, ?_⟩
  · rw [contentBytes?, rawBytes?_ofText hsigns]
    show some (unquote ((bs.flatMap quoteByte).map signByte)) = some bs
    rw [unquote_flatMap_quoteByte]
  -- only the form of an escaped byte starts with an equals sign
  · intro r hr
    cases bs with
    | nil => cases hr
    | cons b bs =>
      have hb : b.toNat < 256 := b.toNat_lt
      rw [List.flatMap_cons] at hr
      obtain ⟨c, hc, hbyte, -, hne, -⟩ | ⟨-, hc⟩ | hc := quoteByte_cases b
      · rw [hc, List.singleton_append, List.cons.injEq] at hr
        rw [hr.1] at hbyte
        exact absurd hbyte.symm hne
      · rw [hc, List.singleton_append, List.cons.injEq] at hr
        exact absurd hr.1 (by decide)
      · rw [hc, List.cons_append, List.cons_append, List.cons_append, List.nil_append,
          List.cons.injEq] at hr
        refine ⟨_, _, _, hr.2.symm, ?_, ?_⟩
        · rw [hexDigit?_upperDigit (by omega)]
          rfl
        · rw [hexDigit?_upperDigit (by omega)]
          rfl

theorem content_base64 {bs : List UInt8} (h : bs ≠ []) : Content 'b' (Base64.encode bs) bs := by
  have hsigns : ∀ c ∈ Base64.encode bs, IsContent c :=
    fun c hc => isContent_of_isSign (Base64.isSign_of_mem_encode hc)
  refine ⟨hsigns, ?_, ?_⟩
  · -- the signs are in ASCII, so they come back from their bytes
    have hback : ((Base64.encode bs).map signByte).map (fun b => Char.ofNat b.toNat)
        = Base64.encode bs := by
      rw [List.map_map]
      refine (List.map_congr_left ?_).trans (List.map_id _)
      intro c hc
      have hlt := (hsigns c hc).2.1
      exact ofNat_toNat_signByte (by omega)
    rw [contentBytes?, rawBytes?_ofText hsigns]
    show some (unbase64 ((Base64.encode bs).map signByte)) = some bs
    rw [unbase64, hback]
    show some ((Base64.decode? (Base64.encode bs ++ List.replicate 2 '=')).getD _) = _
    rw [Base64.decode?_encode, Option.getD_some]
  · -- an equals sign is padding, which no text in base64 starts with
    intro r hr
    obtain ⟨n, r', hn, henc⟩ := Base64.exists_letter_encode h
    rw [henc, List.cons.injEq] at hr
    exact absurd hr.1 (Base64.letter_ne_pad hn)

/-- The parts of an encoded word between its marks. -/
def wordParts (letter : Char) (text : List Char) : List Char := "utf-8?".toList ++ letter :: '?' :: text

/-- An encoded word is a text in one of the two encodings between its marks. -/
theorem exists_content {s : List Char} (hs : s ≠ []) :
    ∃ letter text, (letter = 'q' ∨ letter = 'b') ∧
      Content letter text (Utf8.encode (String.ofList s)) ∧
      encodedWord s = "=?".toList ++ wordParts letter text ++ "?=".toList := by
  have hbytes : Utf8.encode (String.ofList s) ≠ [] := by
    intro hnil
    have hlen := Charset.length_le_flatMap s
    have hpos := List.length_pos_iff.mpr hs
    rw [Utf8.encode, String.toList_ofList] at hnil
    rw [hnil, List.length_nil] at hlen
    omega
  have hempty : s.isEmpty = false := by
    rw [List.isEmpty_eq_false_iff]
    exact hs
  simp only [encodedWord, hempty, Bool.false_eq_true, if_false]
  split
  · exact ⟨'b', _, .inr rfl, content_base64 hbytes, rfl⟩
  · exact ⟨'q', _, .inl rfl, content_quoted _, rfl⟩

/-! ### Reading -/

theorem isBlank_of_isSpaceOrTab {x : Symbol} (h : isSpaceOrTab x = true) : isBlank x = true := by
  cases x with
  | char c => exact Text.isBlank_of_isSpaceOrTab h
  | byte b => cases h

theorem ofText_append (s r : List Char) : ofText (s ++ r) = ofText s ++ ofText r := List.map_append

theorem Content.not_mark {letter : Char} {text : List Char} {bs : List UInt8}
    (h : Content letter text bs) : char '?' ∉ ofText text := by
  intro hmem
  obtain ⟨c, hc, heq⟩ := List.mem_map.mp hmem
  cases heq
  exact (h.signs '?' hc).2.2 rfl

/-- Nothing but the two question marks in front of the text are question marks. -/
theorem length_filter_wordParts {letter : Char} {text : List Char} {bs : List UInt8}
    (hl : letter = 'q' ∨ letter = 'b') (h : Content letter text bs) :
    ((ofText (wordParts letter text)).filter (·.is '?')).length = 2 := by
  have htext : (ofText text).filter (·.is '?') = [] := by
    refine List.filter_eq_nil_iff.mpr ?_
    intro x hx
    obtain ⟨c, hc, rfl⟩ := List.mem_map.mp hx
    have hne := (h.signs c hc).2.2
    simpa [Symbol.is] using hne
  rcases hl with rfl | rfl
  · show ((ofText "utf-8?q?".toList ++ ofText text).filter _).length = 2
    rw [List.filter_append, htext]
    rfl
  · show ((ofText "utf-8?b?".toList ++ ofText text).filter _).length = 2
    rw [List.filter_append, htext]
    rfl

/-- A search for the closing mark comes to the question mark in front of the text. -/
theorem cutFirst?_wordParts {letter : Char} (hl : letter = 'q' ∨ letter = 'b') (text : List Char)
    (rest : Symbols) :
    cutFirst? wordEnd (ofText (wordParts letter text) ++ rest)
      = (cutFirst? wordEnd (char '?' :: (ofText text ++ rest))).map fun (before, after) =>
          (ofText ("utf-8?".toList ++ [letter]) ++ before, after) := by
  have hsplit : ofText (wordParts letter text) ++ rest
      = ofText "utf-8".toList ++ (char '?' :: ([char letter] ++ (char '?' :: (ofText text ++ rest)))) :=
    rfl
  have hne : char '=' ≠ char letter := by
    rcases hl with rfl | rfl
    · decide
    · decide
  have hmem : char '?' ∉ [char letter] := by
    rcases hl with rfl | rfl
    · decide
    · decide
  -- a letter follows the question mark behind the name of the set: no closing mark starts there
  have hmark : wordEnd.isPrefixOf? (char '?' :: ([char letter] ++ (char '?' :: (ofText text ++ rest))))
      = none := by
    show ([char '?', char '=']).isPrefixOf? (_ :: char letter :: _) = none
    rw [isPrefixOf?_cons, if_pos (beq_self_eq_true _), isPrefixOf?_of_ne hne]
  have hend : wordEnd = char '?' :: [char '='] := rfl
  rw [hsplit, hend, cutFirst?_append (by decide), ← hend, cutFirst?_cons hmark, hend,
    cutFirst?_append hmem, Option.map_map, Option.map_map]
  rfl

theorem cutFirst?_wordEnd (rest : Symbols) : cutFirst? wordEnd (wordEnd ++ rest) = some ([], rest) :=
  cutFirst?_mark (char '?') [char '='] rest

/-- Where the text starts with an escaped byte, the question mark in front of it and the equals sign look
like a closing mark. A reader sees the two digits behind it, and searches once more. -/
theorem wordToken?_escape {letter : Char} (hl : letter = 'q' ∨ letter = 'b') {r : List Char}
    {bs : List UInt8} (h : Content letter ('=' :: r) bs) (rest : Symbols) :
    wordToken? (ofText (wordParts letter ('=' :: r)) ++ (wordEnd ++ rest))
      = some (ofText (wordParts letter ('=' :: r)), rest) := by
  obtain ⟨a, b, r', rfl, ha, hb⟩ := h.escape r rfl
  have hend : wordEnd = char '?' :: [char '='] := rfl
  -- the question mark in front of the text and its equals sign are taken for a closing mark first
  have hfirst : cutFirst? wordEnd (char '?' :: (ofText ('=' :: a :: b :: r') ++ (wordEnd ++ rest)))
      = some ([], ofText (a :: b :: r') ++ (wordEnd ++ rest)) :=
    cutFirst?_mark (char '?') [char '='] _
  -- but two digits stand behind it, so the search goes on to the next one
  have hsecond : cutFirst? wordEnd (ofText (a :: b :: r') ++ (wordEnd ++ rest))
      = some (ofText (a :: b :: r'), rest) := by
    have hnot : char '?' ∉ ofText (a :: b :: r') :=
      fun hmem => h.not_mark (List.mem_cons_of_mem _ hmem)
    rw [hend, cutFirst?_append hnot, ← hend, cutFirst?_wordEnd]
    simp
  have hhex : startsHex (ofText (a :: b :: r') ++ (wordEnd ++ rest)) = true := by
    show ((hexDigit? a).isSome && (hexDigit? b).isSome) = true
    rw [ha, hb]
    rfl
  have hone : ((ofText ("utf-8?".toList ++ [letter])).filter (·.is '?')).length < 2 := by
    rcases hl with rfl | rfl
    · decide
    · decide
  rw [wordToken?, cutFirst?_wordParts hl, hfirst]
  simp only [Option.map_some, Option.bind_eq_bind, Option.bind_some, List.append_nil, hhex,
    Bool.true_and, decide_eq_true_eq, if_pos hone, hsecond]
  rfl

/-- Any other text has the first closing mark behind it, and its parts have their two question marks. -/
theorem wordToken?_plain {letter : Char} {text : List Char} {bs : List UInt8}
    (hl : letter = 'q' ∨ letter = 'b') (h : Content letter text bs)
    (hplain : ¬ ∃ r, text = '=' :: r) (rest : Symbols) :
    wordToken? (ofText (wordParts letter text) ++ (wordEnd ++ rest))
      = some (ofText (wordParts letter text), rest) := by
  have hend : wordEnd = char '?' :: [char '='] := rfl
  -- the text starts with no equals sign, so the question mark in front of it starts no closing mark
  have hno : wordEnd.isPrefixOf? (char '?' :: (ofText text ++ (wordEnd ++ rest))) = none := by
    rw [hend, isPrefixOf?_cons, if_pos (beq_self_eq_true _)]
    cases text with
    | nil => exact isPrefixOf?_of_ne (by decide) _ _
    | cons c r =>
      refine isPrefixOf?_of_ne ?_ _ _
      intro heq
      cases heq
      exact hplain ⟨r, rfl⟩
  have hfirst : cutFirst? wordEnd (char '?' :: (ofText text ++ (wordEnd ++ rest)))
      = some (char '?' :: ofText text, rest) := by
    rw [cutFirst?_cons hno, hend, cutFirst?_append h.not_mark, ← hend, cutFirst?_wordEnd]
    simp
  have hjoin : ofText ("utf-8?".toList ++ [letter]) ++ char '?' :: ofText text
      = ofText (wordParts letter text) := rfl
  rw [wordToken?, cutFirst?_wordParts hl, hfirst]
  simp only [Option.map_some, Option.bind_eq_bind, Option.bind_some, hjoin,
    length_filter_wordParts hl h, Nat.lt_irrefl, decide_false, Bool.and_false, Bool.false_eq_true,
    if_false]

/-- **The parts of a word end with its closing mark.** -/
theorem wordToken?_wordParts {letter : Char} {text : List Char} {bs : List UInt8}
    (hl : letter = 'q' ∨ letter = 'b') (h : Content letter text bs) (rest : Symbols) :
    wordToken? (ofText (wordParts letter text) ++ (wordEnd ++ rest))
      = some (ofText (wordParts letter text), rest) := by
  by_cases hesc : ∃ r, text = '=' :: r
  · obtain ⟨r, rfl⟩ := hesc
    exact wordToken?_escape hl h rest
  · exact wordToken?_plain hl h hesc rest

/-- **The parts of a word mean the text that was written.** -/
theorem decodeParts?_wordParts {letter : Char} {text s : List Char}
    (hl : letter = 'q' ∨ letter = 'b') (h : Content letter text (Utf8.encode (String.ofList s))) :
    decodeParts? (ofText (wordParts letter text)) = some (ofText s) := by
  -- neither the letter nor the text has a question mark, so there are three parts
  have hsplit : (ofText (wordParts letter text)).splitOnP (·.is '?')
      = [ofText "utf-8".toList, [char letter], ofText text] := by
    have hparts : ofText (wordParts letter text)
        = ofText "utf-8".toList ++ char '?' :: ([char letter] ++ char '?' :: ofText text) := rfl
    have hletter : ∀ x ∈ [char letter], x.is '?' = false := by
      rcases hl with rfl | rfl
      · decide
      · decide
    have htext : ∀ x ∈ ofText text, x.is '?' = false := by
      intro x hx
      obtain ⟨c, hc, rfl⟩ := List.mem_map.mp hx
      have hne := (h.signs c hc).2.2
      simpa [Symbol.is] using hne
    rw [hparts, List.splitOnP_append_cons_of_forall_mem (by decide) _ (by decide),
      List.splitOnP_append_cons_of_forall_mem hletter _ (by decide),
      List.splitOnP_eq_singleton htext]
  have hname : ((ofText "utf-8".toList).takeWhile (!·.is '*')).mapM char? = some "utf-8".toList := by
    decide
  rw [decodeParts?, hsplit]
  simp only [h.reads, hname, Option.bind_eq_bind, Option.bind_some, Charset.decode?_utf8]

theorem flatMap_piecesOf {n : Nat} {s : Symbols} (hn : s.length ≤ n) :
    (piecesOf n s).flatMap Piece.text = s := by
  induction n generalizing s with
  | zero =>
    rw [List.length_eq_zero_iff.mp (Nat.le_zero.mp hn)]
    rfl
  | succ n ih =>
    cases s with
    | nil => rfl
    | cons x r =>
      rw [List.length_cons] at hn
      rw [piecesOf]
      -- a piece is a run of white space or of other symbols, so it takes at least one of them
      split
      · rename_i hx
        have hlen := length_dropWhile_cons_le (isBlank_of_isSpaceOrTab hx) r
        rw [List.flatMap_cons, ih (by omega)]
        exact List.takeWhile_append_dropWhile
      · rename_i hx
        have hlen := length_dropWhile_cons_le (p := (!isSpaceOrTab ·)) (by simpa using hx) r
        rw [List.flatMap_cons, ih (by omega)]
        exact List.takeWhile_append_dropWhile

/-- **A reader finds the text of an encoded word**, whatever follows the word. -/
theorem readEncodedWord_encodedWord {s : List Char} (hs : s ≠ []) (rest : Symbols) :
    readEncodedWord (ofText (encodedWord s) ++ rest)
      = .word (piecesOf s.length (ofText s)) rest := by
  obtain ⟨letter, text, hl, hcontent, hword⟩ := exists_content hs
  have hsplit : ofText (encodedWord s) ++ rest
      = wordStart ++ (ofText (wordParts letter text) ++ (wordEnd ++ rest)) := by
    rw [hword, ofText_append, ofText_append, List.append_assoc, List.append_assoc]
    rfl
  rw [readEncodedWord, hsplit, isPrefixOf?_append]
  simp only [wordToken?_wordParts hl hcontent, decodeParts?_wordParts hl hcontent]
  rw [ofText, List.length_map]

end DeliveryWatch.Header
