/-
Base64: bytes in groups of three, written as four letters of an alphabet of 64.

* `Base64.encode bs` — the letters, filled with `=` to a multiple of four;
* `Base64.decode? s` — the bytes; signs outside the alphabet are passed over, the text ends at the
  padding, and a group of one letter has no meaning.
-/

namespace DeliveryWatch.Base64

/-- The letters in the order of their values. -/
def alphabet : List Char :=
  "ABCDEFGHIJKLMNOPQRSTUVWXYZabcdefghijklmnopqrstuvwxyz0123456789+/".toList

/-- The letter of a value below 64. -/
def letter (n : Nat) : Char := (alphabet[n]?).getD 'A'

/-- The value of a letter. -/
def value? (c : Char) : Option Nat :=
  if 'A' ≤ c ∧ c ≤ 'Z' then some (c.toNat - 65)
  else if 'a' ≤ c ∧ c ≤ 'z' then some (c.toNat - 71)
  else if '0' ≤ c ∧ c ≤ '9' then some (c.toNat + 4)
  else if c = '+' then some 62
  else if c = '/' then some 63
  else none

/-- The letters of a row of bytes. -/
def encode : List UInt8 → List Char
  | [] => []
  | [a] =>
    let n := a.toNat * 16
    [letter (n / 64), letter (n % 64), '=', '=']
  | [a, b] =>
    let n := (a.toNat * 256 + b.toNat) * 4
    [letter (n / 4096), letter (n / 64 % 64), letter (n % 64), '=']
  | a :: b :: c :: r =>
    let n := (a.toNat * 256 + b.toNat) * 256 + c.toNat
    letter (n / 262144) :: letter (n / 4096 % 64) :: letter (n / 64 % 64) :: letter (n % 64) ::
      encode r

/-- The values of the letters up to the padding. `count` letters of the present group and `pads`
padding signs behind them were read; the padding ends the text when it fills the group. -/
def letters (count pads : Nat) : List Char → List Nat
  | [] => []
  | c :: r =>
    if c = '=' then
      if 2 ≤ count then
        if 4 ≤ count + pads + 1 then [] else letters count (pads + 1) r
      else letters count pads r
    else match value? c with
      | some v => v :: letters ((count + 1) % 4) 0 r
      | none => letters count pads r

/-- The bytes of groups of four letters; the last group may be shorter. -/
def bytes? : List Nat → Option (List UInt8)
  | [] => some []
  | [_] => none
  | [a, b] => some [UInt8.ofNat ((a * 64 + b) / 16)]
  | [a, b, c] =>
    let n := (a * 64 + b) * 64 + c
    some [UInt8.ofNat (n / 1024), UInt8.ofNat (n / 4 % 256)]
  | a :: b :: c :: d :: r =>
    let n := ((a * 64 + b) * 64 + c) * 64 + d
    (bytes? r).map fun bs =>
      UInt8.ofNat (n / 65536) :: UInt8.ofNat (n / 256 % 256) :: UInt8.ofNat (n % 256) :: bs

/-- The bytes that a text in base64 stands for. -/
def decode? (s : List Char) : Option (List UInt8) := bytes? (letters 0 0 s)

end DeliveryWatch.Base64
