/-
Arithmetic in words of fixed size, every step of which is checked.  A result that has no place in its word is no result.
-/
namespace MockBank.Checked

/-- a number in a word that can hold so many numbers -/
def fit? (size n : Nat) : Option Nat :=
  if n < size then some n else none

/-- a difference that is not below zero -/
def sub? (a b : Nat) : Option Nat :=
  if b ≤ a then some (a - b) else none

def byteSize : Nat :=
  0x100

def halfSize : Nat :=
  0x100000000

def fullSize : Nat :=
  0x10000000000000000

theorem fit?_of_lt {size n : Nat} (h : n < size) : fit? size n = some n :=
  if_pos h

theorem fit?_of_le {size n : Nat} (h : size ≤ n) : fit? size n = none :=
  if_neg (Nat.not_lt.2 h)

theorem sub?_of_le {a b : Nat} (h : b ≤ a) : sub? a b = some (a - b) :=
  if_pos h

end MockBank.Checked
