/-
UTF-8: the bytes of a text, and the text of bytes.

* `Utf8.encode s` — one to four bytes for each character;
* `Utf8.decode? bs` — the text, `none` if some byte belongs to no character;
* `Utf8.decodeLossy bs` — the text with one replacement character for each sequence that breaks off
  or cannot go on.

A sequence is read byte by byte. After its lead byte it is known how many bytes have to follow and
between which bounds the next one lies: that rules out overlong forms, surrogates and values beyond
the last character.
-/

namespace DeliveryWatch.Utf8

/-- The byte with the given value. -/
def byte (n : Nat) : UInt8 := UInt8.ofNat n

/-- The bytes of one character. -/
def encodeChar (c : Char) : List UInt8 :=
  let n := c.toNat
  if n < 0x80 then [byte n]
  else if n < 0x800 then [byte (0xC0 + n / 0x40), byte (0x80 + n % 0x40)]
  else if n < 0x10000 then
    [byte (0xE0 + n / 0x1000), byte (0x80 + n / 0x40 % 0x40), byte (0x80 + n % 0x40)]
  else
    [byte (0xF0 + n / 0x40000), byte (0x80 + n / 0x1000 % 0x40), byte (0x80 + n / 0x40 % 0x40),
     byte (0x80 + n % 0x40)]

/-- The bytes of a text. -/
def encode (s : String) : List UInt8 := s.toList.flatMap encodeChar

/-- A sequence that is not complete: how many bytes are still to come, what the bytes so far make up,
and the bounds of the next byte. -/
structure Pending where
  left : Nat
  value : Nat
  low : Nat := 0x80
  high : Nat := 0xBF
  deriving Repr, DecidableEq

/-- What the first byte of a sequence says. -/
inductive Lead
  | whole (c : Char)
  | first (p : Pending)
  | invalid

/-- The lead bytes. -/
def lead (b : UInt8) : Lead :=
  let n := b.toNat
  if n < 0x80 then .whole (Char.ofNat n)
  else if n < 0xC2 then .invalid
  else if n < 0xE0 then .first { left := 1, value := n - 0xC0 }
  else if n = 0xE0 then .first { left := 2, value := 0, low := 0xA0 }
  else if n = 0xED then .first { left := 2, value := 0xD, high := 0x9F }
  else if n < 0xF0 then .first { left := 2, value := n - 0xE0 }
  else if n = 0xF0 then .first { left := 3, value := 0, low := 0x90 }
  else if n < 0xF4 then .first { left := 3, value := n - 0xF0 }
  else if n = 0xF4 then .first { left := 3, value := 4, high := 0x8F }
  else .invalid

/-- What one byte does: the pieces it completes, `none` standing for a sequence that is no
character, and the sequence that is pending after it. -/
def step (pending : Option Pending) (b : UInt8) : List (Option Char) × Option Pending :=
  let start := match lead b with
    | .whole c => ([some c], none)
    | .first p => ([], some p)
    | .invalid => ([none], none)
  match pending with
  | none => start
  | some p =>
    if p.low ≤ b.toNat ∧ b.toNat ≤ p.high then
      let value := p.value * 0x40 + b.toNat % 0x40
      if p.left ≤ 1 then ([some (Char.ofNat value)], none)
      else ([], some { left := p.left - 1, value := value })
    else (none :: start.1, start.2)

/-- The characters of a row of bytes, `none` for each sequence that is none. -/
def piecesFrom (pending : Option Pending) : List UInt8 → List (Option Char)
  | [] => if pending.isSome then [none] else []
  | b :: r => (step pending b).1 ++ piecesFrom (step pending b).2 r

/-- The characters of a row of bytes, `none` for each sequence that is none. -/
def pieces (bs : List UInt8) : List (Option Char) := piecesFrom none bs

/-- The text of a row of bytes. -/
def decode? (bs : List UInt8) : Option String := ((pieces bs).mapM id).map String.ofList

/-- The sign for what is no character. -/
def replacement : Char := Char.ofNat 0xFFFD

/-- The text of a row of bytes, with a replacement for each sequence that is no character. -/
def decodeLossy (bs : List UInt8) : String :=
  String.ofList ((pieces bs).map (·.getD replacement))

end DeliveryWatch.Utf8
