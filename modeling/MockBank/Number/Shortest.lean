/-
The shortest decimal that reads back as a given magnitude.  The reals that round to a magnitude form an interval that
ends half-way to its neighbours, the ends included when its rank is even.  For one digit, two digits and so on the two
decimals beside the magnitude are tried; the first count of digits with one in the interval is taken, of two the nearer,
and of two equally near the one with the even digit.

The digits are laid out plain, with at least one of them after the point, or with a power of ten when the number is very
great or very small.
-/
import MockBank.Number.Binary64

namespace MockBank

/-- the number `digits * 10 ^ exponent` -/
structure Decimal where
  digits : Nat
  exponent : Int
  deriving DecidableEq

namespace Decimal

def digitCount (n : Nat) : Nat :=
  (Nat.toDigits 10 n).length

/-- the same decimal without the zeros at the end of its digits -/
def stripZeros (digits : Nat) (exponent : Int) : Decimal :=
  if h : digits ≠ 0 ∧ digits % 10 = 0 then stripZeros (digits / 10) (exponent + 1) else ⟨digits, exponent⟩
termination_by digits
decreasing_by omega

/-- the factors `(a, b)` that compare `d * 10 ^ exponent` with `w` half units as `d * a` with `w * b` -/
def gridFactors (exponent : Int) : Nat × Nat :=
  if 0 ≤ exponent then (Nat.pow 10 exponent.toNat * Nat.pow 2 1075, 1)
  else (Nat.pow 2 1075, Nat.pow 10 (-exponent).toNat)

/-- the decimal beside the magnitude on the grid of `10 ^ exponent` that reads back as it, if one does -/
def onGrid? (rank : Nat) (exponent : Int) : Option Decimal :=
  let (a, b) := gridFactors exponent
  let value := 2 * Binary64.units rank * b
  let low := (Binary64.units (rank - 1) + Binary64.units rank) * b
  let high := (Binary64.units rank + Binary64.units (rank + 1)) * b
  let inside := fun w => if rank % 2 = 0 then low ≤ w && w ≤ high else low < w && w < high
  let d := value / a
  match inside (d * a), inside ((d + 1) * a) with
  | true, false => some ⟨d, exponent⟩
  | false, true => some ⟨d + 1, exponent⟩
  | false, false => none
  | true, true =>
    let before := value - d * a
    let after := (d + 1) * a - value
    if before < after then some ⟨d, exponent⟩
    else if after < before then some ⟨d + 1, exponent⟩
    else some ⟨d + d % 2, exponent⟩

/-- the power of ten that the first digit of a magnitude above zero stands for -/
def leadingExponent (rank : Nat) : Int :=
  (digitCount (Binary64.units rank * Nat.pow 10 400 / Nat.pow 2 1074) : Int) - 401

def shortest (rank : Nat) : Decimal :=
  if rank = 0 then ⟨0, 0⟩
  else
    let top := leadingExponent rank
    match (List.range 17).findSome? fun (n : Nat) => onGrid? rank (top - n) with
    | some d => stripZeros d.digits d.exponent
    | none => ⟨Binary64.units rank, -1074⟩

end Decimal

/-! ## Layout -/

namespace Decimal

def plain (d : Decimal) : String :=
  let digits := Nat.toDigits 10 d.digits
  let point : Int := digits.length + d.exponent
  let cs :=
    if 0 ≤ d.exponent then digits ++ List.replicate d.exponent.toNat '0' ++ ['.', '0']
    else if 0 < point then digits.take point.toNat ++ '.' :: digits.drop point.toNat
    else '0' :: '.' :: (List.replicate (-point).toNat '0' ++ digits)
  String.ofList cs

/-- the decimal with one digit before the point and a signed power of ten -/
def scientific (d : Decimal) : String :=
  let digits := Nat.toDigits 10 d.digits
  let power : Int := digits.length + d.exponent - 1
  let mantissa :=
    match digits with
    | [] => []
    | [first] => [first]
    | first :: rest => first :: '.' :: rest
  String.ofList mantissa ++ (if power < 0 then "e-" else "e+") ++ toString power.natAbs

def power (d : Decimal) : Int :=
  (digitCount d.digits : Int) + d.exponent - 1

end Decimal

namespace Binary64

/-- a minus sign for negative numbers, negative zero among them -/
def signText (x : Binary64) : String :=
  if x.negative then "-" else ""

/-- plain from 10^-5 up to but not including 10^16, and with a power of ten outside -/
def text (x : Binary64) : String :=
  let d := Decimal.shortest x.rank
  x.signText ++ (if -5 ≤ d.power ∧ d.power < 16 then d.plain else d.scientific)

end Binary64

end MockBank
