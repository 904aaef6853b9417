/-
Values of JSON, as annotations of envelopes and log records hold them. Objects keep the order of
their fields.

* `Json.get?` reads a field, `Json.put` writes one and keeps its place;
* `Json.isTruthy` — which values count as yes;
* `Fractional.text` — how a number with a fraction is written.
-/
import DeliveryWatch.Text.Digit

namespace DeliveryWatch

/-- A number with a fraction or an exponent: `mantissa * 10 ^ exponent`. -/
structure Fractional where
  mantissa : Int
  exponent : Int
  deriving Repr, DecidableEq

inductive Json
  | null
  | bool (b : Bool)
  | int (n : Int)
  | fractional (x : Fractional)
  | str (s : String)
  | arr (items : List Json)
  | obj (fields : List (String × Json))
  deriving Repr, Inhabited

namespace Fractional

/-- Drop the zeros at the end of a row of digits; the result says how many there were. -/
def trimZeros (ds : List Char) : List Char × Nat :=
  let kept := Text.dropEndWhile (· == '0') ds
  (kept, ds.length - kept.length)

/-- The significant digits, and the power of ten of the first of them. -/
def digits (x : Fractional) : List Char × Int :=
  let ds := Nat.toDigits 10 x.mantissa.natAbs
  let (kept, zeros) := trimZeros ds
  (kept, x.exponent + zeros + kept.length - 1)

/-- The number in positional form from `0.0001` up to below `10 ^ 16`, else with an exponent of at
least two digits; a positional number shows a fraction, `.0` if it is whole. -/
def text (x : Fractional) : String :=
  let sign := if x.mantissa < 0 then "-" else ""
  if x.mantissa = 0 then "0.0"
  else
    let (ds, power) := x.digits
    let body :=
      if power < -4 ∨ 16 ≤ power then
        let head := String.ofList (ds.take 1)
        let tail := if ds.length ≤ 1 then "" else "." ++ String.ofList (ds.drop 1)
        let esign := if power < 0 then "-" else "+"
        head ++ tail ++ "e" ++ esign ++ Text.zeroFilled 2 power.natAbs
      else if power < 0 then
        "0." ++ String.ofList (List.replicate (power.natAbs - 1) '0' ++ ds)
      else
        let whole := power.toNat + 1
        let padded := ds ++ List.replicate (whole - ds.length) '0'
        let rest := padded.drop whole
        String.ofList (padded.take whole) ++ "." ++
          (if rest.isEmpty then "0" else String.ofList rest)
    sign ++ body

end Fractional

namespace Json

/-- The field of an object, `none` if it is missing or the value is no object. -/
def get? (name : String) : Json → Option Json
  | obj fields => fields.lookup name
  | _ => none

/-- Set a field in a list of fields: in its place, or at the end. -/
def putField (name : String) (v : Json) : List (String × Json) → List (String × Json)
  | [] => [(name, v)]
  | (k, w) :: rest => if k = name then (k, v) :: rest else (k, w) :: putField name v rest

/-- The text of a string value. -/
def string? : Json → Option String
  | str s => some s
  | _ => none

/-- The number of a whole-number value. -/
def int? : Json → Option Int
  | int n => some n
  | _ => none

/-- Empty values, zero, `false` and `null` count as no, all others as yes. -/
def isTruthy : Json → Bool
  | null => false
  | bool b => b
  | int n => n != 0
  | fractional x => x.mantissa != 0
  | str s => !s.isEmpty
  | arr items => !items.isEmpty
  | obj fields => !fields.isEmpty

/-- A text, or `null`. -/
def ofString? : Option String → Json
  | some s => str s
  | none => null

theorem lookup_putField_self (name : String) (v : Json) (fields : List (String × Json)) :
    (putField name v fields).lookup name = some v := by
  induction fields with
  | nil => simp [putField]
  | cons f rest ih =>
    obtain ⟨k, w⟩ := f
    by_cases h : k = name
    · simp [putField, h]
    · have h' : (name == k) = false := by simp [Ne.symm h]
      simp [putField, h, List.lookup_cons, h', ih]

end Json

end DeliveryWatch
