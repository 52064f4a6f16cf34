/-
Days counted along one line.  The number of a day places it in the calendar: days are ordered by it as by year, month
and day, and moving by so many days is moving by so much in number, up to the two ends of the calendar.

- `Date.ordinal_lt`: the days of a year are numbered within the year.
- `Date.not_before_iff`: the order of days is that of year, month and day.
- `Date.le_latest`: the calendar ends.
- `Date.exists_earlier?`, `Date.exists_later?`: a day that is within the calendar by its number is reached.
-/
import MockBank.Calendar.Date

namespace MockBank

namespace Date

/-! ## Days of a year -/

theorem daysBeforeMonth_le {year : Int} {m n : Nat} (hm : 1 ≤ m) (h : m ≤ n) :
    daysBeforeMonth year m ≤ daysBeforeMonth year n := by
  obtain ⟨more, rfl⟩ := Nat.exists_eq_add_of_le h
  clear h
  induction more with
  | zero => exact Nat.le_refl _
  | succ more ih =>
    rw [← Nat.add_assoc, daysBeforeMonth_succ year (m + more) (by omega)]
    omega

/-- a day comes before the first of the next month -/
theorem ordinal_lt_nextMonth (d : Date) : d.ordinal < daysBeforeMonth d.year (d.month + 1) := by
  obtain ⟨-, hmonth, hday⟩ := d.exists_day
  rw [ordinal, daysBeforeMonth_succ d.year d.month hmonth.1]
  omega

/-- **The days of a year are fewer than 365, or 366 in a leap year.** -/
theorem ordinal_lt (d : Date) : d.ordinal < 365 + (if isLeapYear d.year then 1 else 0) := by
  obtain ⟨-, hmonth, -⟩ := d.exists_day
  have hlast : daysBeforeMonth d.year 13 = daysBeforeMonth d.year 12 + 31 := by
    rw [daysBeforeMonth_succ d.year 12 (by decide)]
    rfl
  have hmono : daysBeforeMonth d.year (d.month + 1) ≤ daysBeforeMonth d.year 13 :=
    daysBeforeMonth_le (by omega) (by omega)
  have hlt := d.ordinal_lt_nextMonth
  rw [daysBeforeMonth_twelve] at hlast
  omega

/-- a day comes before the first of the next year -/
theorem dayNumber_lt_nextYear (d : Date) : d.dayNumber < daysBeforeYear (d.year + 1) := by
  have hlt := d.ordinal_lt
  rw [dayNumber, daysBeforeYear_succ]
  cases hleap : isLeapYear d.year <;> simp only [hleap, if_true, Bool.false_eq_true, if_false] at hlt ⊢ <;> omega

theorem daysBeforeYear_le {y z : Int} (h : y ≤ z) : daysBeforeYear y ≤ daysBeforeYear z := by
  unfold daysBeforeYear
  omega

/-! ## The order of days -/

theorem le_def (a b : Date) : a ≤ b ↔ a.dayNumber ≤ b.dayNumber := Iff.rfl

/-- a day of an earlier year, or of an earlier month of the year, or an earlier day of the month -/
def Before (a b : Date) : Prop :=
  a.year < b.year ∨ a.year = b.year ∧ (a.month < b.month ∨ a.month = b.month ∧ a.day < b.day)

instance (a b : Date) : Decidable (a.Before b) :=
  inferInstanceAs (Decidable (_ ∨ _ ∧ _))

theorem Before.dayNumber_lt {a b : Date} (h : a.Before b) : a.dayNumber < b.dayNumber := by
  rcases h with hyear | ⟨hyear, hmonth | ⟨hmonth, hday⟩⟩
  · have hnext := a.dayNumber_lt_nextYear
    have hle : daysBeforeYear (a.year + 1) ≤ daysBeforeYear b.year := daysBeforeYear_le hyear
    rw [dayNumber.eq_1 b]
    omega
  · have hnext := a.ordinal_lt_nextMonth
    have hle : daysBeforeMonth a.year (a.month + 1) ≤ daysBeforeMonth a.year b.month :=
      daysBeforeMonth_le (by omega) hmonth
    have hb : b.ordinal = daysBeforeMonth a.year b.month + (b.day - 1) := by rw [ordinal, hyear]
    rw [dayNumber, dayNumber, hyear, hb]
    omega
  · have ha := a.exists_day.2.2
    rw [dayNumber, dayNumber, ordinal, ordinal, hyear, hmonth]
    omega

/-- two days are the same, or one is before the other -/
theorem before_trichotomy (a b : Date) : a.Before b ∨ a = b ∨ b.Before a := by
  have hext : a.year = b.year → a.month = b.month → a.day = b.day → a = b := by
    obtain ⟨_, _, _, _⟩ := a
    obtain ⟨_, _, _, _⟩ := b
    rintro rfl rfl rfl
    rfl
  unfold Before
  by_cases hyear : a.year = b.year
  · by_cases hmonth : a.month = b.month
    · by_cases hday : a.day = b.day
      · exact .inr (.inl (hext hyear hmonth hday))
      · omega
    · omega
  · omega

/-- **The order of days is that of year, month and day.** -/
theorem not_before_iff (a b : Date) : ¬ a.Before b ↔ b ≤ a := by
  rw [le_def]
  constructor
  · intro h
    rcases before_trichotomy a b with hab | rfl | hba
    · exact absurd hab h
    · exact Int.le_refl _
    · exact Int.le_of_lt hba.dayNumber_lt
  · intro h hab
    have hlt := hab.dayNumber_lt
    omega

/-- a day is known by its number -/
theorem eq_of_dayNumber_eq {a b : Date} (h : a.dayNumber = b.dayNumber) : a = b := by
  rcases before_trichotomy a b with hab | hab | hba
  · have hlt := hab.dayNumber_lt
    omega
  · exact hab
  · have hlt := hba.dayNumber_lt
    omega

/-! ## The ends of the calendar -/

def earliest : Date :=
  ⟨minYear, 1, 1, by decide⟩

def latest : Date :=
  ⟨maxYear, 12, 31, by decide⟩

theorem le_latest (d : Date) : d ≤ latest := by
  have hle : daysBeforeYear (d.year + 1) ≤ daysBeforeYear (maxYear + 1) :=
    daysBeforeYear_le (Int.add_le_add_right d.exists_day.1.2 1)
  have hlast : daysBeforeYear (maxYear + 1) = latest.dayNumber + 1 := by decide
  have hlt := d.dayNumber_lt_nextYear
  rw [le_def]
  omega

/-! ## Moving by days -/

/-- the day before has the number before -/
theorem dayNumber_previous? {d e : Date} (h : d.previous? = some e) : d.dayNumber = e.dayNumber + 1 := by
  have hd := d.exists_day.2
  unfold previous? at h
  unfold dayNumber ordinal
  split at h
  · obtain ⟨hyear, hmonth, hday⟩ := (of?_eq_some_iff _ _ _ _).1 h
    rw [hyear, hmonth, hday]
    omega
  split at h
  · -- the last day of the month before
    obtain ⟨hyear, hmonth, hday⟩ := (of?_eq_some_iff _ _ _ _).1 h
    have hbefore := daysBeforeMonth_succ d.year (d.month - 1) (by omega)
    rw [Nat.sub_add_cancel (by omega)] at hbefore
    have hlength := daysInMonth_bounds d.year (d.month - 1)
    rw [hyear, hmonth, hday, hbefore]
    omega
  · -- the last day of the year before
    obtain ⟨hyear, hmonth, hday⟩ := (of?_eq_some_iff _ _ _ _).1 h
    have hfirst : d.month = 1 := by omega
    have hyears := daysBeforeYear_succ (d.year - 1)
    rw [Int.sub_add_cancel] at hyears
    have hjanuary : daysBeforeMonth d.year 1 = 0 := rfl
    rw [hyear, hmonth, hday, hfirst, hjanuary, hyears, daysBeforeMonth_twelve]
    split <;> omega

theorem exists_of? {year : Int} {month day : Nat} (h : Exists year month day) : ∃ d, of? year month day = some d :=
  ⟨⟨year, month, day, h⟩, dif_pos h⟩

/-- only the first day has no day before -/
theorem exists_previous? {d : Date} (h : earliest.dayNumber < d.dayNumber) : ∃ e, d.previous? = some e := by
  obtain ⟨hyear, hmonth, hday⟩ := d.exists_day
  have hlength := daysInMonth_bounds d.year (d.month - 1)
  unfold previous?
  split
  · exact exists_of? ⟨hyear, hmonth, by omega⟩
  split
  · exact exists_of? ⟨hyear, by omega, by omega⟩
  · have hne : d.year ≠ minYear := by
      intro hmin
      have hm : d.month = 1 := by omega
      have hd : d.day = 1 := by omega
      have hnumber : d.dayNumber = earliest.dayNumber := by
        rw [dayNumber, ordinal, hmin, hm, hd]
        rfl
      omega
    have hdecember : daysInMonth (d.year - 1) 12 = 31 := rfl
    exact exists_of? ⟨by omega, by decide, by rw [hdecember]; decide⟩

/-- only the last day has no day after -/
theorem exists_next? {d : Date} (h : d.dayNumber < latest.dayNumber) : ∃ e, d.next? = some e := by
  obtain ⟨hyear, hmonth, hday⟩ := d.exists_day
  have hlength := daysInMonth_bounds d.year (d.month + 1)
  unfold next?
  split
  · exact exists_of? ⟨hyear, hmonth, by omega⟩
  split
  · exact exists_of? ⟨hyear, by omega, by omega⟩
  · have hne : d.year ≠ maxYear := by
      intro hmax
      have hm : d.month = 12 := by omega
      have hdecember : daysInMonth d.year 12 = 31 := rfl
      rw [hm, hdecember] at hday
      have hd : d.day = 31 := by
        rename_i hlast _
        rw [hm, hdecember] at hlast
        omega
      have hnumber : d.dayNumber = latest.dayNumber := by
        rw [dayNumber, ordinal, hmax, hm, hd]
        rfl
      omega
    have hjanuary : daysInMonth (d.year + 1) 1 = 31 := rfl
    exact exists_of? ⟨by omega, by decide, by rw [hjanuary]; decide⟩

/-- **A day that is so many days earlier is there if its number is.** -/
theorem exists_earlier? {n : Nat} {d : Date} (h : earliest.dayNumber + n ≤ d.dayNumber) :
    ∃ e, earlier? n d = some e ∧ e.dayNumber + n = d.dayNumber := by
  induction n generalizing d with
  | zero => exact ⟨d, rfl, by simp⟩
  | succ n ih =>
    obtain ⟨p, hp⟩ := exists_previous? (d := d) (by omega)
    have hnumber := dayNumber_previous? hp
    obtain ⟨e, he, hdays⟩ := ih (d := p) (by omega)
    refine ⟨e, ?_, by omega⟩
    rw [earlier?, hp]
    exact he

/-- **A day that is so many days later is there if its number is.** -/
theorem exists_later? {n : Nat} {d : Date} (h : d.dayNumber + n ≤ latest.dayNumber) :
    ∃ e, later? n d = some e ∧ e.dayNumber = d.dayNumber + n := by
  induction n generalizing d with
  | zero => exact ⟨d, rfl, by simp⟩
  | succ n ih =>
    obtain ⟨p, hp⟩ := exists_next? (d := d) (by omega)
    have hnumber := dayNumber_next? d p hp
    obtain ⟨e, he, hdays⟩ := ih (d := p) (by omega)
    refine ⟨e, ?_, by omega⟩
    rw [later?, hp]
    exact he

/-- a day that is so many days earlier has a number less by as many -/
theorem dayNumber_earlier? {n : Nat} {d e : Date} (h : earlier? n d = some e) : e.dayNumber + n = d.dayNumber := by
  induction n generalizing d with
  | zero =>
    obtain rfl := Option.some.inj h
    exact Int.add_zero _
  | succ n ih =>
    obtain ⟨p, hp, hrest⟩ := Option.bind_eq_some_iff.1 h
    have hnumber := dayNumber_previous? hp
    have hdays := ih hrest
    omega

/-- a day that is so many days later has a number greater by as many -/
theorem dayNumber_later? {n : Nat} {d e : Date} (h : later? n d = some e) : e.dayNumber = d.dayNumber + n := by
  induction n generalizing d with
  | zero =>
    obtain rfl := Option.some.inj h
    exact (Int.add_zero _).symm
  | succ n ih =>
    obtain ⟨p, hp, hrest⟩ := Option.bind_eq_some_iff.1 h
    have hnumber := dayNumber_next? d p hp
    have hdays := ih hrest
    omega

/-- every day of a year up to this one is there -/
theorem exists_earlier?_of_le_ordinal {n : Nat} {d : Date} (h : n ≤ d.ordinal) : ∃ e, earlier? n d = some e := by
  have hle : daysBeforeYear minYear ≤ daysBeforeYear d.year := daysBeforeYear_le d.exists_day.1.1
  have hfirst : earliest.dayNumber = daysBeforeYear minYear := rfl
  have hnumber : d.dayNumber = daysBeforeYear d.year + d.ordinal := rfl
  obtain ⟨e, he, -⟩ := exists_earlier? (n := n) (d := d) (by omega)
  exact ⟨e, he⟩

end Date

end MockBank
