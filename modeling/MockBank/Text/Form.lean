/-
Encoded texts.  A percent sign and two hexadecimal digits stand for one byte; a percent sign that two digits do not
follow stands for itself.  In form-encoded pairs, as a query string holds them, pairs are separated by ampersands, a
name ends at the first equals sign, a plus sign is a space, and the bytes are read as UTF-8 with ill-formed pieces
replaced.
-/
import MockBank.Text.Digits
import MockBank.Text.Split
import MockBank.Text.Utf8

namespace MockBank.Text.Percent

/-! ## Percent-encoding -/

def byte? (high low : UInt8) : Option UInt8 :=
  match hexValue? (Char.ofNat high.toNat), hexValue? (Char.ofNat low.toNat) with
  | some h, some l => some (UInt8.ofNat (h * 16 + l))
  | _, _ => none

/-- the bytes that a percent-encoded sequence stands for -/
def decode : List UInt8 → List UInt8
  | [] => []
  | [a] => [a]
  | [a, b] => [a, b]
  | a :: b :: c :: rest =>
    if a = 0x25 then
      match byte? b c with
      | some x => x :: decode rest
      | none => a :: decode (b :: c :: rest)
    else a :: decode (b :: c :: rest)

theorem decode_of_no_percent (bytes : List UInt8) (h : 0x25 ∉ bytes) : decode bytes = bytes := by
  fun_induction decode bytes with
  | case1 => rfl
  | case2 => rfl
  | case3 => rfl
  | case4 b c rest x hx ih => simp at h
  | case5 b c rest hx ih => simp at h
  | case6 a b c rest ha ih => rw [ih (by simp_all)]

end MockBank.Text.Percent

namespace MockBank.Text.Form

/-! ## Pairs -/

/-- one name or value -/
def decodePart (bytes : List UInt8) : String :=
  Utf8.decodeLossy (Percent.decode (bytes.map fun b => if b = 0x2B then 0x20 else b))

/-- one pair; without an equals sign the value is empty -/
def decodePair (bytes : List UInt8) : String × String :=
  match splitFirst 0x3D bytes with
  | (name, value) => (decodePart name, decodePart (value.getD []))

/-- the pairs in order; empty pieces between ampersands are no pairs -/
def decode (bytes : List UInt8) : List (String × String) :=
  ((splitAt 0x26 bytes).filter fun piece => !piece.isEmpty).map decodePair

end MockBank.Text.Form
