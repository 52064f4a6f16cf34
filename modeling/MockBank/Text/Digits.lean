/-
Digits and blanks of texts.  Decimal digits are counted, run up to a limit and written to a fixed width; hexadecimal
ones are read in either case and written in lower case; an integer of 64 signed bits has perhaps one sign, and the
first fault from the left is told.
-/
namespace MockBank.Text

/-! ## Decimal digits -/

/-- the number that a run of digits denotes -/
def digitsValue (ds : List Char) : Nat :=
  ds.foldl (fun n d => n * 10 + (d.toNat - '0'.toNat)) 0

/-- the digits that a text starts with, at most `limit` of them -/
def leadingDigits (limit : Nat) (cs : List Char) : List Char :=
  (cs.take limit).takeWhile Char.isDigit

/-- a number with leading zeros up to a width -/
def padded (width n : Nat) : List Char :=
  let ds := Nat.toDigits 10 n
  List.replicate (width - ds.length) '0' ++ ds

theorem leadingDigits_isPrefixOf (limit : Nat) (cs : List Char) : leadingDigits limit cs <+: cs :=
  (List.takeWhile_prefix _).trans (List.take_prefix _ _)

theorem length_leadingDigits_le (limit : Nat) (cs : List Char) : (leadingDigits limit cs).length ≤ limit :=
  Nat.le_trans (List.takeWhile_prefix _).length_le (List.length_take_le _ _)

theorem leadingDigits_ne_nil {limit : Nat} (hlimit : 0 < limit) {c : Char} {cs : List Char} (hc : c.isDigit = true) :
    leadingDigits limit (c :: cs) ≠ [] := by
  obtain ⟨k, rfl⟩ := Nat.exists_eq_succ_of_ne_zero (Nat.ne_of_gt hlimit)
  rw [leadingDigits, List.take_succ_cons, List.takeWhile_cons_of_pos hc]
  exact List.cons_ne_nil _ _

theorem isDigit_of_mem_leadingDigits (limit : Nat) (cs : List Char) (c : Char) (h : c ∈ leadingDigits limit cs) :
    c.isDigit = true :=
  List.all_eq_true.1 List.all_takeWhile c h

/-- a run of digits ends where its limit is reached or something else follows -/
theorem leadingDigits_append {limit : Nat} {ds rest : List Char} (hd : ∀ c ∈ ds, c.isDigit = true)
    (hlen : ds.length ≤ limit) (hstop : ds.length = limit ∨ ∀ c ∈ rest.head?, c.isDigit = false) :
    leadingDigits limit (ds ++ rest) = ds := by
  have hrest : (rest.take (limit - ds.length)).takeWhile Char.isDigit = [] := by
    rcases hstop with h | h
    · rw [h, Nat.sub_self, List.take_zero, List.takeWhile_nil]
    · cases rest with
      | nil => rw [List.take_nil, List.takeWhile_nil]
      | cons c rest =>
        have hc : c.isDigit = false := h c rfl
        cases limit - ds.length with
        | zero => rfl
        | succ k => rw [List.take_succ_cons, List.takeWhile_cons_of_neg (by simp [hc])]
  rw [leadingDigits, List.take_append, List.take_of_length_le hlen, List.takeWhile_append_of_pos hd, hrest,
    List.append_nil]

/-! ## Hexadecimal digits -/

/-- the value of a hexadecimal digit -/
def hexValue? (c : Char) : Option Nat :=
  if '0' ≤ c ∧ c ≤ '9' then some (c.toNat - '0'.toNat)
  else if 'a' ≤ c ∧ c ≤ 'f' then some (c.toNat - 'a'.toNat + 10)
  else if 'A' ≤ c ∧ c ≤ 'F' then some (c.toNat - 'A'.toNat + 10)
  else none

/-- the lower-case digit of a value below sixteen -/
def hexDigit (n : Nat) : Char :=
  if n < 10 then Char.ofNat ('0'.toNat + n) else Char.ofNat ('a'.toNat + n - 10)

/-- the last `width` hexadecimal digits of a number, leading zeros included -/
def hexText : Nat → Nat → List Char
  | 0, _ => []
  | width + 1, n => hexText width (n / 16) ++ [hexDigit (n % 16)]

/-! ## Blanks -/

/-- the 25 characters with the property White_Space -/
def isBlank (c : Char) : Bool :=
  let n := c.toNat
  (9 ≤ n && n ≤ 13) || n == 0x20 || n == 0x85 || n == 0xA0 || n == 0x1680 || (0x2000 ≤ n && n ≤ 0x200A) ||
    n == 0x2028 || n == 0x2029 || n == 0x202F || n == 0x205F || n == 0x3000

/-- a text without the blanks it starts with -/
def skipBlanks (cs : List Char) : List Char :=
  cs.dropWhile isBlank

theorem skipBlanks_of_not_blank (c : Char) (cs : List Char) (h : isBlank c = false) :
    skipBlanks (c :: cs) = c :: cs := by
  simp [skipBlanks, h]

/-! ## Signed integers -/

inductive IntegerError where
  | empty
  | invalidDigit
  | tooGreat
  | tooSmall
  deriving DecidableEq

def IntegerError.message : IntegerError → String
  | .empty => "cannot parse integer from empty string"
  | .invalidDigit => "invalid digit found in string"
  | .tooGreat => "number too large to fit in target type"
  | .tooSmall => "number too small to fit in target type"

/-- whether an integer of this magnitude fits -/
def fitsInt64 (negative : Bool) (n : Nat) : Bool :=
  if negative then n ≤ 0x8000000000000000 else n < 0x8000000000000000

/-- the integer of a sign and digits; the digits may be too many before a character that is none -/
def signedInteger (negative : Bool) (cs : List Char) : Except IntegerError Int64 :=
  let ds := cs.takeWhile Char.isDigit
  let n := digitsValue ds
  if !fitsInt64 negative n then .error (if negative then .tooSmall else .tooGreat)
  else if cs.isEmpty || ds.length < cs.length then .error .invalidDigit
  else .ok (Int64.ofInt (if negative then -(n : Int) else n))

def readInt64 (text : String) : Except IntegerError Int64 :=
  match text.toList with
  | [] => .error .empty
  | '-' :: cs => signedInteger true cs
  | '+' :: cs => signedInteger false cs
  | cs => signedInteger false cs

end MockBank.Text
