/-
Whole numbers among the binary64 numbers.  A number of up to 53 bits is one of them, so nothing is lost when it is
rounded.

- `Binary64.units_rankBelow`: a magnitude whose bits beyond the 53rd are zero has a rank of its own.
- `Binary64.equals_ofNat`: whole numbers of up to 53 bits are exact.
-/
import Mathlib.Algebra.Group.Nat.Defs
import MockBank.Number.Binary64

namespace MockBank

namespace Binary64

/-- a number is a natural number exactly; magnitudes are told in units of 2^-1074 -/
def Equals (x : Binary64) (n : Nat) : Prop :=
  x.negative = false ∧ units x.rank = n * Nat.pow 2 1074

theorem units_of_lt {m : Nat} (h : m < 0x20000000000000) : units m = m := by
  unfold units
  split
  · rfl
  · have hquotient : m / 0x10000000000000 - 1 = 0 := by omega
    have hone : Nat.pow 2 0 = 1 := rfl
    rw [hquotient, hone, Nat.mul_one]
    omega

/-- the leading 53 bits of a number that has as many -/
theorem leading_bounds {m : Nat} (h : 0x20000000000000 ≤ m) :
    0x10000000000000 ≤ m / Nat.pow 2 (Nat.log2 m - 52) ∧ m / Nat.pow 2 (Nat.log2 m - 52) < 0x20000000000000 := by
  have hne : m ≠ 0 := by omega
  have hlog : 53 ≤ Nat.log2 m := (Nat.le_log2 hne).2 h
  obtain ⟨shift, hshift⟩ := Nat.exists_eq_add_of_le (Nat.le_trans (by decide : 52 ≤ 53) hlog)
  have hlow : 2 ^ (52 + shift) ≤ m := hshift ▸ Nat.log2_self_le hne
  have hhigh : m < 2 ^ (53 + shift) := by
    have hnext : 53 + shift = Nat.log2 m + 1 := by omega
    rw [hnext]
    exact Nat.lt_log2_self
  rw [hshift, Nat.add_sub_cancel_left]
  constructor
  · apply (Nat.le_div_iff_mul_le (Nat.two_pow_pos shift)).2
    calc 0x10000000000000 * Nat.pow 2 shift = 2 ^ (52 + shift) := (Nat.pow_add 2 52 shift).symm
      _ ≤ m := hlow
  · apply (Nat.div_lt_iff_lt_mul (Nat.two_pow_pos shift)).2
    calc m < 2 ^ (53 + shift) := hhigh
      _ = 0x20000000000000 * Nat.pow 2 shift := Nat.pow_add 2 53 shift

/-- **A magnitude whose bits beyond the 53rd are zero has a rank of its own.** -/
theorem units_rankBelow {m : Nat} (h : Nat.pow 2 (Nat.log2 m - 52) ∣ m) : units (rankBelow m) = m := by
  by_cases hsmall : m < 0x20000000000000
  · rw [rankBelow, if_pos hsmall]
    exact units_of_lt hsmall
  · obtain ⟨hlow, hhigh⟩ := leading_bounds (Nat.not_lt.1 hsmall)
    have hcancel : m / Nat.pow 2 (Nat.log2 m - 52) * Nat.pow 2 (Nat.log2 m - 52) = m := Nat.div_mul_cancel h
    rw [rankBelow, if_neg hsmall]
    dsimp only
    generalize m / Nat.pow 2 (Nat.log2 m - 52) = leading at hlow hhigh hcancel ⊢
    generalize Nat.log2 m - 52 = shift at hcancel ⊢
    have hrank : ¬ shift * 0x10000000000000 + leading < 0x10000000000000 := by omega
    have hpower : (shift * 0x10000000000000 + leading) / 0x10000000000000 - 1 = shift := by omega
    have hfraction : 0x10000000000000 + (shift * 0x10000000000000 + leading) % 0x10000000000000 = leading := by omega
    rw [units, if_neg hrank, hpower, hfraction, hcancel]

theorem rankBelow_lt {m : Nat} (h : Nat.log2 m - 52 ≤ 1074) : rankBelow m < rankBound := by
  by_cases hsmall : m < 0x20000000000000
  · rw [rankBelow, if_pos hsmall, rankBound]
    omega
  · obtain ⟨-, hhigh⟩ := leading_bounds (Nat.not_lt.1 hsmall)
    rw [rankBelow, if_neg hsmall, rankBound]
    dsimp only
    omega

/-- a number of up to 53 bits, moved to the left, has no more bits than it had -/
theorem shift_le {n : Nat} (h : n < 0x20000000000000) (k : Nat) : Nat.log2 (n * Nat.pow 2 k) - 52 ≤ k := by
  by_cases hn : n = 0
  · rw [hn, Nat.zero_mul]
    exact Nat.zero_le k
  · have hne : n * Nat.pow 2 k ≠ 0 := Nat.mul_ne_zero hn (Nat.pos_iff_ne_zero.1 (Nat.two_pow_pos k))
    have hlt : n * Nat.pow 2 k < 2 ^ (53 + k) := by
      calc n * Nat.pow 2 k < 0x20000000000000 * Nat.pow 2 k := Nat.mul_lt_mul_of_pos_right h (Nat.two_pow_pos k)
        _ = 2 ^ (53 + k) := (Nat.pow_add 2 53 k).symm
    have hlog := (Nat.log2_lt hne).2 hlt
    omega

theorem units_rankBelow_shifted {n : Nat} (h : n < 0x20000000000000) (k : Nat) :
    units (rankBelow (n * Nat.pow 2 k)) = n * Nat.pow 2 k :=
  units_rankBelow (Nat.dvd_trans (Nat.pow_dvd_pow 2 (shift_le h k)) (Nat.dvd_mul_left _ n))

/-- a whole number that is a magnitude is not rounded; the power of two has a name, so that nothing computes it -/
theorem nearestRank_eq {n k : Nat} (hk : 1074 = k) (h : units (rankBelow (n * Nat.pow 2 k)) = n * Nat.pow 2 k) :
    nearestRank n 1 = rankBelow (n * Nat.pow 2 k) := by
  unfold nearestRank
  rw [hk]
  dsimp only
  generalize n * Nat.pow 2 k = m at h ⊢
  have hnext := units_lt_succ (rankBelow m)
  rw [h] at hnext
  rw [Nat.div_one, h, if_pos (by omega)]

/-- **Whole numbers of up to 53 bits are exact.** -/
theorem equals_ofNat {n : Nat} (h : n < 0x20000000000000) : (ofNat false n).Equals n := by
  obtain ⟨k, hk⟩ : ∃ k, 1074 = k := ⟨1074, rfl⟩
  have hunits := units_rankBelow_shifted h k
  have hrank := nearestRank_eq hk hunits
  have hlt : nearestRank n 1 < rankBound := by
    rw [hrank]
    exact rankBelow_lt (by rw [hk]; exact shift_le h k)
  refine ⟨rfl, ?_⟩
  show units (min (nearestRank n 1) (rankBound - 1)) = _
  rw [hk, Nat.min_eq_left (Nat.le_sub_one_of_lt hlt), hrank, hunits]

end Binary64

end MockBank
