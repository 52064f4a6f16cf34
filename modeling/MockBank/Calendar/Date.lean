/-
Days of the proleptic Gregorian calendar, in which year zero exists and is a leap year.  `dayNumber` counts days along
one line; `next?` and `previous?` move by one day and stop only at the ends of the calendar.
-/
namespace MockBank

/-- every fourth year, but of the full centuries only every fourth -/
def Date.isLeapYear (year : Int) : Bool :=
  year % 4 == 0 && (year % 100 != 0 || year % 400 == 0)

def Date.daysInMonth (year : Int) (month : Nat) : Nat :=
  if month = 2 then (if Date.isLeapYear year then 29 else 28)
  else if month = 4 ∨ month = 6 ∨ month = 9 ∨ month = 11 then 30
  else 31

def Date.minYear : Int :=
  -262143

def Date.maxYear : Int :=
  262142

def Date.Exists (year : Int) (month day : Nat) : Prop :=
  (Date.minYear ≤ year ∧ year ≤ Date.maxYear) ∧ (1 ≤ month ∧ month ≤ 12) ∧
    (1 ≤ day ∧ day ≤ Date.daysInMonth year month)

instance (year : Int) (month day : Nat) : Decidable (Date.Exists year month day) :=
  inferInstanceAs (Decidable (_ ∧ _ ∧ _))

/-- a day of the calendar -/
structure Date where
  year : Int
  month : Nat
  day : Nat
  exists_day : Date.Exists year month day
  deriving DecidableEq

namespace Date

/-- the day with these numbers, if there is one -/
def of? (year : Int) (month day : Nat) : Option Date :=
  if h : Exists year month day then some ⟨year, month, day, h⟩ else none

/-- the days of a year before a month -/
def daysBeforeMonth (year : Int) : Nat → Nat
  | 0 => 0
  | 1 => 0
  | month + 2 => daysBeforeMonth year (month + 1) + daysInMonth year (month + 1)

/-- the days from the first of January of year one to the first of January of a year -/
def daysBeforeYear (year : Int) : Int :=
  365 * (year - 1) + (year - 1) / 4 - (year - 1) / 100 + (year - 1) / 400

/-- the days of the year before this one -/
def ordinal (d : Date) : Nat :=
  daysBeforeMonth d.year d.month + (d.day - 1)

/-- the days from the first of January of year one to this one -/
def dayNumber (d : Date) : Int :=
  daysBeforeYear d.year + d.ordinal

instance : LE Date := ⟨fun a b => a.dayNumber ≤ b.dayNumber⟩

instance (a b : Date) : Decidable (a ≤ b) :=
  inferInstanceAs (Decidable (a.dayNumber ≤ b.dayNumber))

def next? (d : Date) : Option Date :=
  if d.day < daysInMonth d.year d.month then of? d.year d.month (d.day + 1)
  else if d.month < 12 then of? d.year (d.month + 1) 1
  else of? (d.year + 1) 1 1

def previous? (d : Date) : Option Date :=
  if 1 < d.day then of? d.year d.month (d.day - 1)
  else if 1 < d.month then of? d.year (d.month - 1) (daysInMonth d.year (d.month - 1))
  else of? (d.year - 1) 12 31

/-- the day that many days later, if the calendar has it -/
def later? : Nat → Date → Option Date
  | 0, d => some d
  | n + 1, d => d.next?.bind (later? n)

/-- the day that many days earlier, if the calendar has it -/
def earlier? : Nat → Date → Option Date
  | 0, d => some d
  | n + 1, d => d.previous?.bind (earlier? n)

theorem of?_eq_some_iff (year : Int) (month day : Nat) (d : Date) :
    of? year month day = some d ↔ d.year = year ∧ d.month = month ∧ d.day = day := by
  obtain ⟨y, m, n, h⟩ := d
  unfold of?
  constructor
  · intro e
    split at e
    · simp only [Option.some.injEq, Date.mk.injEq] at e
      obtain ⟨rfl, rfl, rfl⟩ := e
      exact ⟨rfl, rfl, rfl⟩
    · simp at e
  · rintro ⟨rfl, rfl, rfl⟩
    rw [dif_pos h]

theorem daysInMonth_bounds (year : Int) (month : Nat) :
    28 ≤ daysInMonth year month ∧ daysInMonth year month ≤ 31 := by
  unfold daysInMonth
  split
  · split <;> omega
  · split <;> omega

theorem daysBeforeMonth_succ (year : Int) (month : Nat) (h : 1 ≤ month) :
    daysBeforeMonth year (month + 1) = daysBeforeMonth year month + daysInMonth year month := by
  obtain ⟨m, rfl⟩ : ∃ m, month = m + 1 := ⟨month - 1, by omega⟩
  rfl

theorem daysBeforeYear_succ (year : Int) :
    daysBeforeYear (year + 1) = daysBeforeYear year + 365 + (if isLeapYear year then 1 else 0) := by
  have leap : isLeapYear year = true ↔ year % 4 = 0 ∧ (year % 100 ≠ 0 ∨ year % 400 = 0) := by
    simp [isLeapYear]
  unfold daysBeforeYear
  split <;> rename_i h <;> rw [leap] at h <;> omega

theorem daysBeforeMonth_twelve (year : Int) :
    daysBeforeMonth year 12 = 334 + (if isLeapYear year then 1 else 0) := by
  cases h : isLeapYear year <;> simp [daysBeforeMonth, daysInMonth, h]

/-- the day after has the next number -/
theorem dayNumber_next? (d e : Date) (h : d.next? = some e) : e.dayNumber = d.dayNumber + 1 := by
  have hd := d.exists_day.2.2
  have hm := d.exists_day.2.1
  unfold next? at h
  unfold dayNumber ordinal
  split at h
  · obtain ⟨hy, hmo, hda⟩ := (of?_eq_some_iff _ _ _ _).1 h
    rw [hy, hmo, hda]
    omega
  · rename_i hlast
    split at h
    · obtain ⟨hy, hmo, hda⟩ := (of?_eq_some_iff _ _ _ _).1 h
      rw [hy, hmo, hda, daysBeforeMonth_succ _ _ hm.1]
      omega
    · obtain ⟨hy, hmo, hda⟩ := (of?_eq_some_iff _ _ _ _).1 h
      have h12 : d.month = 12 := by omega
      have h31 : daysInMonth d.year 12 = 31 := by simp [daysInMonth]
      rw [h12, h31] at hlast hd
      rw [hy, hmo, hda, h12, daysBeforeYear_succ, daysBeforeMonth_twelve]
      have : daysBeforeMonth (d.year + 1) 1 = 0 := rfl
      rw [this]
      split <;> omega

end Date

end MockBank
