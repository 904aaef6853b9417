/-
Reading bytes by a named character set.

* `Charset.decode? name bs` — the characters of the bytes. A byte that belongs to no character is
  kept as a byte if it lies beyond ASCII; otherwise the whole row cannot be read;
* a set that is not known is read as ASCII, with the other bytes kept.
-/
import DeliveryWatch.Charset.EastAsian
import DeliveryWatch.Charset.Name
import DeliveryWatch.Charset.SingleByte
import DeliveryWatch.Header.Symbol

namespace DeliveryWatch.Charset

open Header (Symbol Symbols)

/-- A reader takes one character off the front of a row of bytes, and says how many bytes it takes
up. -/
abbrev Reader := List UInt8 → Option (Char × Nat)

/-- Read a row of bytes, of at most `n` characters. -/
def decodeFrom (next : Reader) : Nat → List UInt8 → Option Symbols
  | 0, _ => some []
  | _ + 1, [] => some []
  | n + 1, b :: r =>
    match next (b :: r) with
    | some (c, size) => (decodeFrom next n ((b :: r).drop (max size 1))).map (.char c :: ·)
    | none => if b < 128 then none else (decodeFrom next n r).map (.byte b :: ·)

/-- Read a row of bytes. -/
def decodeWith (next : Reader) (bs : List UInt8) : Option Symbols := decodeFrom next bs.length bs

/-! ### Readers -/

def ascii : Reader
  | b :: _ => if b < 128 then some (Char.ofNat b.toNat, 1) else none
  | [] => none

def latin1 : Reader
  | b :: _ => some (Char.ofNat b.toNat, 1)
  | [] => none

/-- The character that the first `n` bytes make up in UTF-8. -/
def utf8Prefix (bs : List UInt8) (n : Nat) : Option (Char × Nat) :=
  match (Utf8.decode? (bs.take n)).map String.toList with
  | some [c] => some (c, n)
  | _ => none

def utf8 : Reader := fun bs => [1, 2, 3, 4].findSome? (utf8Prefix bs)

/-- The character of a byte in a table that starts at the byte `start`. -/
def fromTable (start : Nat) (rows : List String) (b : UInt8) : Option Char :=
  match ((rows.map String.toList).flatten)[b.toNat - start]? with
  | some c => if c = hole then none else some c
  | none => none

/-- A set that shares its first half with ASCII. -/
def upperHalf (rows : List String) : Reader
  | b :: _ =>
    if b < 128 then some (Char.ofNat b.toNat, 1) else (fromTable 128 rows b).map (·, 1)
  | [] => none

/-- A set given by a whole table. -/
def wholeTable (rows : List String) : Reader
  | b :: _ => (fromTable 0 rows b).map (·, 1)
  | [] => none

/-- A character that may be a surrogate is none. -/
def scalar? (n : Nat) : Option Char :=
  if n < 0xD800 ∨ (0xE000 ≤ n ∧ n < 0x110000) then some (Char.ofNat n) else none

/-- The number that bytes write, the most significant first, or last if `little`. -/
def wordOf (little : Bool) (bs : List UInt8) : Nat :=
  (if little then bs.reverse else bs).foldl (fun n b => n * 256 + b.toNat) 0

def utf16 (little : Bool) : Reader := fun bs =>
  if bs.length < 2 then none
  else
    let high := wordOf little (bs.take 2)
    if 0xD800 ≤ high ∧ high < 0xDC00 then
      let low := wordOf little ((bs.drop 2).take 2)
      if bs.length < 4 ∨ low < 0xDC00 ∨ 0xE000 ≤ low then none
      else (scalar? (0x10000 + (high - 0xD800) * 0x400 + (low - 0xDC00))).map (·, 4)
    else (scalar? high).map (·, 2)

def utf32 (little : Bool) : Reader := fun bs =>
  if bs.length < 4 then none else (scalar? (wordOf little (bs.take 4))).map (·, 4)

/-- The row and the cell of JIS X 0208 that two bytes of Shift-JIS name. -/
def jisPlace? (a b : Nat) : Option (Nat × Nat) :=
  let lead? := if 0x81 ≤ a ∧ a ≤ 0x9F then some (a - 0x81)
    else if 0xE0 ≤ a ∧ a ≤ 0xFC then some (a - 0xC1) else none
  let cell? := if 0x40 ≤ b ∧ b ≤ 0x7E then some (b - 0x40)
    else if 0x80 ≤ b ∧ b ≤ 0xFC then some (b - 0x41) else none
  match lead?, cell? with
  | some l, some c => some (if c < 94 then (2 * l, c) else (2 * l + 1, c - 94))
  | _, _ => none

/-- A half-width sign of Japanese. -/
def halfWidth (b : UInt8) : Char := Char.ofNat (0xFF61 + (b.toNat - 0xA1))

def shiftJis : Reader
  | a :: r =>
    if a < 128 then some (Char.ofNat a.toNat, 1)
    else if 0xA1 ≤ a ∧ a ≤ 0xDF then some (halfWidth a, 1)
    else match r with
      | b :: _ => (jisPlace? a.toNat b.toNat).bind fun (row, cell) =>
          (jisGrid.at? row cell).map (·, 2)
      | [] => none
  | [] => none

def eucJapanese : Reader
  | a :: r =>
    if a < 128 then some (Char.ofNat a.toNat, 1)
    else match r with
      | b :: _ =>
        if a = 0x8E then (if 0xA1 ≤ b ∧ b ≤ 0xDF then some (halfWidth b, 2) else none)
        else (jisGrid.char? a.toNat b.toNat).map (·, 2)
      | [] => none
  | [] => none

/-- A set of ASCII and a grid. -/
def withGrid (char? : Nat → Nat → Option Char) : Reader
  | a :: r =>
    if a < 128 then some (Char.ofNat a.toNat, 1)
    else match r with
      | b :: _ => (char? a.toNat b.toNat).map (·, 2)
      | [] => none
  | [] => none

/-- Cells of GBK within the rows of GB 2312 that GB 2312 leaves empty. -/
def addedToGb2312 : List (Nat × Nat) :=
  [(0xA2A1, 0xA2AA), (0xA6E0, 0xA6EB), (0xA6EE, 0xA6F2), (0xA6F4, 0xA6F5), (0xA8BB, 0xA8BB),
   (0xA8BD, 0xA8BE), (0xA8C0, 0xA8C0)]

/-- The characters of GB 2312: those of GBK in its rows, but for two signs. -/
def gb2312Char? (a b : Nat) : Option Char :=
  let n := a * 256 + b
  if a < 0xA1 ∨ 0xF7 < a ∨ b < 0xA1 then none
  else if n = 0xA1A4 then some '・'
  else if n = 0xA1AA then some '―'
  else if addedToGb2312.any fun (low, high) => low ≤ n && n ≤ high then none
  else guobiaoGrid.char? a b

/-! ### A set with shifts -/

/-- Which characters the bytes of ISO-2022-JP stand for at present. -/
inductive Shift
  | ascii
  | roman
  | kanji

/-- The shift that an escape sequence, without its first byte, calls for. -/
def shift? : List UInt8 → Option (Shift × List UInt8)
  | 0x28 :: 0x42 :: r => some (.ascii, r)
  | 0x28 :: 0x4A :: r => some (.roman, r)
  | 0x24 :: 0x40 :: r => some (.kanji, r)
  | 0x24 :: 0x42 :: r => some (.kanji, r)
  | _ => none

/-- Read a row of bytes in ISO-2022-JP. -/
def iso2022 (shift : Shift) : Nat → List UInt8 → Option Symbols
  | 0, _ => some []
  | _ + 1, [] => some []
  | n + 1, b :: r =>
    if b = 0x1B then (shift? r).bind fun (shift, r) => iso2022 shift n r
    else if 128 ≤ b then (iso2022 shift n r).map (.byte b :: ·)
    else
      let plain := (iso2022 shift n r).map (.char (Char.ofNat b.toNat) :: ·)
      if b < 0x20 then plain
      else match shift with
        | .ascii => plain
        | .roman =>
          if b = 0x5C then (iso2022 shift n r).map (.char '¥' :: ·)
          else if b = 0x7E then (iso2022 shift n r).map (.char '‾' :: ·)
          else plain
        | .kanji =>
          match r with
          | c :: r =>
            (jisGrid.char? (b.toNat + 128) (c.toNat + 128)).bind fun x =>
              (iso2022 shift n r).map (.char x :: ·)
          | [] => none

/-! ### Sets by name -/

/-- How to read the bytes of a set, `none` if the set is not known. -/
def set? (name : String) : Option (List UInt8 → Option Symbols) :=
  match name with
  | "ascii" => some (decodeWith ascii)
  | "latin_1" | "iso8859_1" | "charmap" => some (decodeWith latin1)
  | "utf_8" => some (decodeWith utf8)
  | "utf_8_sig" => some fun bs =>
    decodeWith utf8 (if bs.take 3 == [0xEF, 0xBB, 0xBF] then bs.drop 3 else bs)
  | "utf_16" => some fun bs =>
    if bs.take 2 == [0xFE, 0xFF] then decodeWith (utf16 false) (bs.drop 2)
    else decodeWith (utf16 true) (if bs.take 2 == [0xFF, 0xFE] then bs.drop 2 else bs)
  | "utf_16_le" => some (decodeWith (utf16 true))
  | "utf_16_be" => some (decodeWith (utf16 false))
  | "utf_32" => some fun bs =>
    if bs.take 4 == [0, 0, 0xFE, 0xFF] then decodeWith (utf32 false) (bs.drop 4)
    else decodeWith (utf32 true) (if bs.take 4 == [0xFF, 0xFE, 0, 0] then bs.drop 4 else bs)
  | "utf_32_le" => some (decodeWith (utf32 true))
  | "utf_32_be" => some (decodeWith (utf32 false))
  | "shift_jis" | "cp932" => some (decodeWith shiftJis)
  | "euc_jp" => some (decodeWith eucJapanese)
  | "iso2022_jp" | "iso2022_jp_1" | "iso2022_jp_2" | "iso2022_jp_ext" =>
    some fun bs => iso2022 .ascii bs.length bs
  | "euc_kr" | "cp949" => some (decodeWith (withGrid koreanGrid.char?))
  | "big5" | "cp950" => some (decodeWith (withGrid bigFiveGrid.char?))
  | "gbk" | "gb18030" => some (decodeWith (withGrid guobiaoGrid.char?))
  | "gb2312" => some (decodeWith (withGrid gb2312Char?))
  | "undefined" => some fun _ => none
  | name =>
    match upperHalves.lookup name, wholeTables.lookup name with
    | some rows, _ => some (decodeWith (upperHalf rows))
    | none, some rows => some (decodeWith (wholeTable rows))
    | none, none => none

/-- The symbols of bytes by the set of a name. -/
def decode? (name : List Char) (bs : List UInt8) : Option Symbols :=
  if name.contains (Char.ofNat 0) then none
  else match (canonical? name).bind set? with
    | some read => read bs
    | none => decodeWith ascii bs

end DeliveryWatch.Charset
