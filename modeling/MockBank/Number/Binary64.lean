/-
The finite binary64 numbers.  A magnitude is named by its rank among the finite magnitudes in increasing order, so that
the neighbours of a number are one rank away, and it is measured in units of 2^-1074, the least magnitude above zero.
`nearestRank` rounds a ratio to the nearest magnitude, ties to the even rank.  A decimal is read by scaling its digits
with powers of ten that are rounded themselves, so the last place may differ from the nearest one.
-/
namespace MockBank

/-- the finite magnitudes have ranks below this -/
def Binary64.rankBound : Nat :=
  0x7FF0000000000000

/-- a finite binary64 number: its sign and the rank of its magnitude -/
structure Binary64 where
  negative : Bool
  rank : Nat
  rank_lt : rank < Binary64.rankBound
  deriving DecidableEq

namespace Binary64

/-- a magnitude in units of 2^-1074: the first 2^53 ranks lie one unit apart, and each further 2^52 twice as far -/
def units (rank : Nat) : Nat :=
  if rank < 0x10000000000000 then rank
  else (0x10000000000000 + rank % 0x10000000000000) * Nat.pow 2 (rank / 0x10000000000000 - 1)

/-- the rank of the greatest magnitude that is at most `n` units -/
def rankBelow (n : Nat) : Nat :=
  if n < 0x20000000000000 then n
  else
    let shift := Nat.log2 n - 52
    shift * 0x10000000000000 + n / Nat.pow 2 shift

/-- the rank of the magnitude nearest to `num / den`; of two equally near the even one -/
def nearestRank (num den : Nat) : Nat :=
  let scaled := num * Nat.pow 2 1074
  let below := rankBelow (scaled / den)
  let twice := 2 * scaled
  let middle := (units below + units (below + 1)) * den
  if twice < middle then below
  else if middle < twice then below + 1
  else below + below % 2

/-- the number nearest to a ratio, if it is finite -/
def ofRatio? (negative : Bool) (num den : Nat) : Option Binary64 :=
  let rank := nearestRank num den
  if h : rank < rankBound then some ⟨negative, rank, h⟩ else none

def ofNat (negative : Bool) (n : Nat) : Binary64 :=
  ⟨negative, min (nearestRank n 1) (rankBound - 1), by
    have : 0 < rankBound := by decide
    omega⟩

def ofInt (n : Int) : Binary64 :=
  ofNat (decide (n < 0)) n.natAbs

/-- the units of the number nearest to a power of ten -/
def tenUnits (power : Nat) : Nat :=
  units (nearestRank (Nat.pow 10 power) 1)

/-- a number times a power of ten, rounded once, if it is finite -/
def timesTen? (x : Binary64) (power : Nat) : Option Binary64 :=
  ofRatio? x.negative (units x.rank * tenUnits power) (Nat.pow 2 2148)

/-- a number over a power of ten, rounded once; a positive power makes it no greater, so it stays finite -/
def overTen? (x : Binary64) (power : Nat) : Option Binary64 :=
  ofRatio? x.negative (units x.rank) (tenUnits power)

/-- a number scaled by a power of ten in at most so many steps of at most 308, each rounded, if it is finite -/
def scaleWithin? : Nat → Binary64 → Int → Option Binary64
  | 0, x, _ => some ⟨x.negative, 0, by decide⟩
  | steps + 1, x, exponent =>
    if x.rank = 0 then some x
    else if 308 < exponent then none
    else if 0 ≤ exponent then x.timesTen? exponent.toNat
    else if -308 ≤ exponent then x.overTen? (-exponent).toNat
    else (x.overTen? 308).bind fun y => scaleWithin? steps y (exponent + 308)

/-- the number nearest to `digits`, scaled by a power of ten, if it is finite; three steps down make any number zero -/
def ofDecimal? (negative : Bool) (digits : Nat) (exponent : Int) : Option Binary64 :=
  scaleWithin? 4 (ofNat negative digits) exponent

theorem units_lt_succ (rank : Nat) : units rank < units (rank + 1) := by
  unfold units
  split
  · split
    · omega
    · have : rank + 1 = 4503599627370496 := by omega
      rw [this]
      omega
  · rename_i h
    rw [if_neg (by omega)]
    by_cases hm : rank % 4503599627370496 + 1 < 4503599627370496
    · have hd : (rank + 1) / 4503599627370496 = rank / 4503599627370496 := by omega
      have hr : (rank + 1) % 4503599627370496 = rank % 4503599627370496 + 1 := by omega
      rw [hd, hr]
      have hp : 0 < Nat.pow 2 (rank / 4503599627370496 - 1) := Nat.two_pow_pos _
      exact Nat.mul_lt_mul_of_pos_right (by omega) hp
    · have hd : (rank + 1) / 4503599627370496 - 1 = rank / 4503599627370496 - 1 + 1 := by omega
      have hr : (rank + 1) % 4503599627370496 = 0 := by omega
      have double : ∀ n, Nat.pow 2 (n + 1) = Nat.pow 2 n * 2 := fun _ => rfl
      have hp : 0 < Nat.pow 2 (rank / 4503599627370496 - 1) := Nat.two_pow_pos _
      rw [hd, hr, double]
      calc (4503599627370496 + rank % 4503599627370496) * Nat.pow 2 (rank / 4503599627370496 - 1)
          < (4503599627370496 * 2) * Nat.pow 2 (rank / 4503599627370496 - 1) :=
            Nat.mul_lt_mul_of_pos_right (by omega) hp
        _ = (4503599627370496 + 0) * (Nat.pow 2 (rank / 4503599627370496 - 1) * 2) := by
            rw [Nat.add_zero, Nat.mul_assoc, Nat.mul_comm 2]

end Binary64

end MockBank
