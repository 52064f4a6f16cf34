/-
The days of a year up to today, and drawing one of them.  Each of them is drawn from some words, and no other day is.

- `Date.ThisYear`: a day of the same year, up to a day.  `Date.ThisYear.of_earlier?`, `Date.ThisYear.exists_earlier?`:
  these are the days that are reached by going back as many days as the year has had.
- `Draw.exists_between`: every number within bounds is drawn from some words.
- `Synthetic.ensures_dateThisYear`, `Synthetic.exists_dateThisYear`: the days that are drawn are those of the year so
  far.
-/
import MockBank.Proofs.Seeding

namespace MockBank

namespace Date

/-! ## The year so far -/

/-- the first of January of a day's year -/
def yearStart (d : Date) : Date :=
  ⟨d.year, 1, 1, d.exists_day.1, by decide, Nat.le_refl 1, Nat.le_trans (by decide) (daysInMonth_bounds d.year 1).1⟩

/-- a day of the same year, from the first of January up to today -/
structure ThisYear (today d : Date) : Prop where
  year : d.year = today.year
  first : today.yearStart ≤ d
  last : d ≤ today

theorem dayNumber_yearStart (d : Date) : d.yearStart.dayNumber = daysBeforeYear d.year :=
  Int.add_zero _

/-- days between the first of January and today are of this year -/
theorem ThisYear.of_between {today d : Date} (hfirst : today.yearStart ≤ d) (hlast : d ≤ today) : ThisYear today d := by
  refine ⟨?_, hfirst, hlast⟩
  rw [le_def, dayNumber_yearStart] at hfirst
  rw [le_def] at hlast
  rcases Int.lt_trichotomy d.year today.year with hbefore | hsame | hafter
  · have hnext := d.dayNumber_lt_nextYear
    have hyears : daysBeforeYear (d.year + 1) ≤ daysBeforeYear today.year := daysBeforeYear_le hbefore
    omega
  · exact hsame
  · have hlt : today.dayNumber < d.dayNumber := Before.dayNumber_lt (.inl hafter)
    omega

/-- **Going back as many days as the year has had, or fewer, stays in the year.** -/
theorem ThisYear.of_earlier? {today d : Date} {n : Nat} (hn : n ≤ today.ordinal) (h : earlier? n today = some d) :
    ThisYear today d := by
  have hnumber := dayNumber_earlier? h
  have htoday : today.dayNumber = daysBeforeYear today.year + today.ordinal := rfl
  apply ThisYear.of_between
  · rw [le_def, dayNumber_yearStart]
    omega
  · rw [le_def]
    omega

/-- **Every day of the year so far is reached by going back.** -/
theorem ThisYear.exists_earlier? {today d : Date} (h : ThisYear today d) :
    ∃ n, n ≤ today.ordinal ∧ earlier? n today = some d := by
  have hfirst := (le_def _ _).1 h.first
  have hlast := (le_def _ _).1 h.last
  rw [dayNumber_yearStart] at hfirst
  have htoday : today.dayNumber = daysBeforeYear today.year + today.ordinal := rfl
  have hn : (today.dayNumber - d.dayNumber).toNat ≤ today.ordinal := by omega
  obtain ⟨e, he⟩ := exists_earlier?_of_le_ordinal hn
  have hnumber := dayNumber_earlier? he
  have hsame : e = d := eq_of_dayNumber_eq (by omega)
  exact ⟨_, hn, hsame ▸ he⟩

end Date

/-! ## Numbers from words -/

/-- every number of a width is the part of some word -/
theorem Width.exists_take {w : Width} {x : Nat} (hx : x < w.size) : ∃ word, w.take word = x := by
  cases w with
  | half =>
    have hx : x < 0x100000000 := hx
    refine ⟨UInt64.ofNat (x * 0x100000000), ?_⟩
    rw [take, UInt64.toNat_ofNat', Nat.mod_eq_of_lt (by omega)]
    omega
  | full =>
    have hx : x < 0x10000000000000000 := hx
    exact ⟨UInt64.ofNat x, (UInt64.toNat_ofNat' ..).trans (Nat.mod_eq_of_lt hx)⟩

namespace Draw

/-- the least number that is multiplied into the stretch of a bound's multiple -/
theorem exists_multiple {n k size : Nat} (hk : k < n) (hn : n ≤ size) :
    ∃ x, x < size ∧ k * size ≤ x * n ∧ x * n < k * size + n := by
  have hpos : 0 < n := Nat.lt_of_le_of_lt (Nat.zero_le k) hk
  have hfloor : (k * size + (n - 1)) / n * n ≤ k * size + (n - 1) := Nat.div_mul_le_self _ n
  have hceiling : k * size + (n - 1) < ((k * size + (n - 1)) / n + 1) * n := by
    rw [Nat.add_mul, Nat.one_mul]
    exact Nat.lt_div_mul_add hpos
  generalize (k * size + (n - 1)) / n = x at hfloor hceiling
  rw [Nat.succ_mul] at hceiling
  refine ⟨x, ?_, by omega, by omega⟩
  have hroom : k * size + size ≤ n * size := by
    rw [← Nat.succ_mul]
    exact Nat.mul_le_mul_right size hk
  have hproduct : x * n < size * n := by
    rw [Nat.mul_comm size n]
    omega
  exact Nat.lt_of_mul_lt_mul_right hproduct

/-- **Every number below a bound is drawn from some words.** The second word is zero, so that nothing is carried. -/
theorem exists_below (w : Width) {n k : Nat} (hk : k < n) (hn : n ≤ w.size) :
    ∃ words left, below w n words = some (k, left) := by
  obtain ⟨x, hx, hlow, hhigh⟩ := exists_multiple hk hn
  obtain ⟨first, hfirst⟩ := Width.exists_take hx
  have hquotient : x * n / w.size = k := by
    refine Nat.div_eq_of_lt_le hlow ?_
    rw [Nat.succ_mul]
    omega
  let words : Source := ⟨fun i => if i = 0 then first else 0, 0⟩
  have hword : word w words = some (x, { words with used := 1 }) := by
    rw [← hfirst]
    rfl
  have hzero : w.take 0 = 0 := by cases w <;> decide
  have hsecond : word w { words with used := 1 } = some (0, { words with used := 2 }) := by
    show some (w.take 0, { words with used := 2 }) = _
    rw [hzero]
  have hremainder : x * n % w.size < w.size := Nat.mod_lt _ (Nat.lt_of_le_of_lt (Nat.zero_le x) hx)
  by_cases hcarry : w.size - n < x * n % w.size
  · refine ⟨words, { words with used := 2 }, ?_⟩
    rw [below, bind_eq_of_eq_some hword, if_pos hcarry, bind_eq_of_eq_some hsecond, Nat.zero_mul, Nat.zero_div,
      Nat.add_zero, if_neg (Nat.not_le.2 hremainder), hquotient]
    rfl
  · refine ⟨words, { words with used := 1 }, ?_⟩
    rw [below, bind_eq_of_eq_some hword, if_neg hcarry, hquotient]
    rfl

theorem exists_between (w : Width) {low high k : Nat} (hlow : low ≤ k) (hhigh : k ≤ high) (hsize : high < w.size) :
    ∃ words left, between w low high words = some (k, left) := by
  obtain ⟨words, left, hwords⟩ :=
    exists_below w (n := high - low + 1) (k := k - low) (by omega) (by omega)
  refine ⟨words, left, ?_⟩
  rw [between, bind_eq_of_eq_some hwords, Nat.add_sub_cancel' hlow]
  rfl

end Draw

/-! ## A day of this year -/

namespace Synthetic

open Draw

theorem ensures_dateThisYear (today : Date) : (dateThisYear today).Ensures (Date.ThisYear today) :=
  (ensures_between .full (Nat.zero_le _)).bind fun _ hn => ensures_ofOption fun _ hd => .of_earlier? hn.2 hd

/-- **Every day of the year so far is drawn from some words.** -/
theorem exists_dateThisYear {today d : Date} (h : Date.ThisYear today d) :
    ∃ words left, dateThisYear today words = some (d, left) := by
  obtain ⟨n, hn, hearlier⟩ := h.exists_earlier?
  have hordinal := today.ordinal_lt
  have hsize : today.ordinal < Width.full.size := by
    have hfull : Width.full.size = 0x10000000000000000 := rfl
    split at hordinal <;> omega
  obtain ⟨words, left, hwords⟩ := exists_between .full (Nat.zero_le n) hn hsize
  refine ⟨words, left, ?_⟩
  show (between .full 0 today.ordinal >>= _) words = _
  rw [bind_eq_of_eq_some hwords, Arithmetic.unbounded_days, ofOption_bind, hearlier]
  rfl

end Synthetic

end MockBank
