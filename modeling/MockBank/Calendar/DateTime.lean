/-
A day and a time of day, and the written form of days and times: `2024-02-29` and `2024-02-29T09:30:00.250`.  A leap
second follows a second of the clock: its fraction is a whole second or more, and it is written as the second after.
-/
import MockBank.Calendar.Date
import MockBank.Text.Digits

namespace MockBank

/-! ## Days and times of day -/

/-- a point of time on a day's clock; in a leap second, which may follow any second, the fraction is a whole second or
more -/
structure DateTime where
  date : Date
  hour : Nat
  minute : Nat
  second : Nat
  nanosecond : Nat
  hour_lt : hour < 24
  minute_lt : minute < 60
  second_lt : second < 60
  nanosecond_lt : nanosecond < 2000000000
  deriving DecidableEq

/-- the first moment of a day -/
def Date.start (d : Date) : DateTime :=
  ⟨d, 0, 0, 0, 0, by decide, by decide, by decide, by decide⟩

/-- the day at a time given to the minute -/
def Date.at (d : Date) (hour : Fin 24) (minute : Fin 60) : DateTime :=
  { d.start with hour, minute, hour_lt := hour.isLt, minute_lt := minute.isLt }

/-! ## Written forms -/

open Text (padded)

/-- four digits for the years 0 to 9999; a sign and at least four digits for all others -/
def Date.yearText (year : Int) : List Char :=
  if 0 ≤ year ∧ year ≤ 9999 then padded 4 year.natAbs
  else (if year < 0 then '-' else '+') :: padded 4 year.natAbs

/-- year, month and day -/
def Date.chars (d : Date) : List Char :=
  Date.yearText d.year ++ '-' :: (padded 2 d.month ++ '-' :: padded 2 d.day)

/-- the written form of a day -/
def Date.text (d : Date) : String :=
  String.ofList d.chars

/-- nothing for zero, else thousandths, millionths or billionths, the first of them that is exact -/
def DateTime.fractionText (nanosecond : Nat) : List Char :=
  if nanosecond = 0 then []
  else if nanosecond % 1000000 = 0 then '.' :: padded 3 (nanosecond / 1000000)
  else if nanosecond % 1000 = 0 then '.' :: padded 6 (nanosecond / 1000)
  else '.' :: padded 9 nanosecond

/-- the day, the letter T, and the time, with a leap second counted as a second -/
def DateTime.chars (t : DateTime) : List Char :=
  t.date.chars ++ 'T' :: (padded 2 t.hour ++ ':' :: (padded 2 t.minute ++ ':' ::
    (padded 2 (t.second + t.nanosecond / 1000000000) ++ DateTime.fractionText (t.nanosecond % 1000000000))))

def DateTime.text (t : DateTime) : String :=
  String.ofList t.chars

end MockBank
