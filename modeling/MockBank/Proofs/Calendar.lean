/-
Days and times written and read back.  The writer pads its numbers with zeros to a fixed width; the reader takes blanks,
short numbers and long years as well.  What the writer makes is one of the forms that the reader takes, for every year
of the calendar and every fraction of a second.  It denotes the same day, and the same time unless that is in a leap
second inside a minute, which is written like the second after it.

- `Calendar.numeral_padded`, `Calendar.yearNumeral_yearText`: what is written for a number or a year denotes it.
- `Calendar.dateFields_chars`: the three numbers of a day are read back, whatever follows.
- `DateTime.told`: the point of time that the written form tells; `DateTime.told_eq_iff`: for which points it is the
  same.
- `Date.read_text`, `DateTime.read_text`: reading inverts writing.
-/
import Mathlib.Algebra.Group.Nat.Defs
import MockBank.Calendar.DateTime
import MockBank.Proofs.DayForms

namespace MockBank

/-! ## Runs of digits -/

namespace Text

theorem digitsValue_eq_ofDigitChars (ds : List Char) : digitsValue ds = Nat.ofDigitChars 10 ds 0 := by
  simp only [digitsValue, Nat.ofDigitChars_eq_foldl, Nat.mul_comm]

/-- leading zeros do not count -/
theorem digitsValue_padded (width n : Nat) : digitsValue (padded width n) = n := by
  rw [digitsValue_eq_ofDigitChars]
  simp [padded, Nat.ofDigitChars_append]

theorem isDigit_of_mem_padded {width n : Nat} {c : Char} (h : c ∈ padded width n) : c.isDigit = true := by
  rcases List.mem_append.1 h with h | h
  · rw [(List.mem_replicate.1 h).2]
    rfl
  · exact Nat.isDigit_of_mem_toDigits (by decide) (by decide) h

/-- a number below the power of ten of a width is written with exactly that many digits -/
theorem length_padded {width n : Nat} (hw : 0 < width) (hn : n < 10 ^ width) : (padded width n).length = width := by
  have h := (Nat.length_toDigits_le_iff (b := 10) (by decide) hw).2 hn
  simp only [padded, List.length_append, List.length_replicate]
  omega

end Text

/-! ## Numbers and marks -/

namespace Calendar

open Text

/-- what is written for a number denotes it -/
theorem numeral_padded (width n : Nat) : Numeral n (padded width n) :=
  ⟨fun h => Nat.toDigits_ne_nil (List.append_eq_nil_iff.1 h).2, fun _ => isDigit_of_mem_padded,
    digitsValue_padded width n⟩

theorem shortNumeral_padded {width n : Nat} (hw : 0 < width) (h : n < 10 ^ width) :
    ShortNumeral width n (padded width n) :=
  ⟨numeral_padded width n, Nat.le_of_eq (length_padded hw h)⟩

/-- what is written for a year denotes it -/
theorem yearNumeral_yearText (year : Int) : YearNumeral year (Date.yearText year) := by
  unfold Date.yearText
  split
  · rename_i hplain
    have hyear : (year.natAbs : Int) = year := by omega
    have hform := YearNumeral.plain (shortNumeral_padded (n := year.natAbs) (by decide : 0 < 4) (by omega))
    rwa [hyear] at hform
  · split
    · have hyear : -(year.natAbs : Int) = year := by omega
      have hform := YearNumeral.negative (numeral_padded 4 year.natAbs)
      rwa [hyear] at hform
    · have hyear : (year.natAbs : Int) = year := by omega
      have hform := YearNumeral.positive (numeral_padded 4 year.natAbs)
      rwa [hyear] at hform

/-- a number of two digits is read back if it is within the bounds -/
theorem field_padded {low high n : Nat} (hlow : low ≤ n) (hhigh : n ≤ high) (h : n < 100) (rest : List Char) :
    field low high (padded 2 n ++ rest) = .ok (n, rest) := by
  have hlen : (padded 2 n).length = 2 := length_padded (by decide) h
  rw [← List.nil_append (padded 2 n)]
  exact field_append blanks_nil (shortNumeral_padded (by decide) h) hlow hhigh (.inl hlen)

/-- the numbers of a day are read back, whatever follows -/
theorem dateFields_chars (d : Date) (rest : List Char) :
    dateFields (d.chars ++ rest) = .ok ((d.year, d.month, d.day), rest) := by
  obtain ⟨-, hmonth, hday⟩ := d.exists_day
  have hlast := (Date.daysInMonth_bounds d.year d.month).2
  have hm : ShortNumeral 2 d.month (padded 2 d.month) := shortNumeral_padded (by decide) (by omega)
  have hd : ShortNumeral 2 d.day (padded 2 d.day) := shortNumeral_padded (by decide) (by omega)
  have hlen : (padded 2 d.day).length = 2 := length_padded (by decide) (by omega)
  rw [Date.chars, List.append_assoc, List.cons_append, List.append_assoc, List.cons_append,
    ← List.nil_append (padded 2 d.day)]
  exact dateFields_append (spaced_of_bare (yearNumeral_yearText d.year)) (spaced_of_bare hm) blanks_nil hd (.inl hlen)

/-- a fraction that is written with all its digits is read back -/
theorem fraction_padded {width n : Nat} (hw : 0 < width) (hle : width ≤ 9) (hn : n < 10 ^ width) :
    fraction ('.' :: padded width n) = .ok (n * 10 ^ (9 - width), []) := by
  have hlen := length_padded hw hn
  have hle9 : (padded width n).length ≤ 9 := Nat.le_trans (Nat.le_of_eq hlen) hle
  have hshort : ShortNumeral 9 n (padded width n) := ⟨numeral_padded width n, hle9⟩
  have hnumber : number 9 (padded width n) = .ok (n, []) := by
    have hstop : ∀ c ∈ ([] : List Char).head?, c.isDigit = false := by simp
    simpa using hshort.number_eq (.inr hstop)
  simp [fraction, hnumber, bind, Except.bind, hlen]

/-- a fraction of a second is read back, however many digits it is written with -/
theorem fraction_fractionText {n : Nat} (h : n < 1000000000) : fraction (DateTime.fractionText n) = .ok (n, []) := by
  unfold DateTime.fractionText
  split
  · rename_i h0
    rw [h0]
    rfl
  split
  · rw [fraction_padded (by decide) (by decide) (by omega)]
    have hn : n / 1000000 * 10 ^ (9 - 3) = n := by omega
    rw [hn]
  split
  · rw [fraction_padded (by decide) (by decide) (by omega)]
    have hn : n / 1000 * 10 ^ (9 - 6) = n := by omega
    rw [hn]
  · rw [fraction_padded (by decide) (by decide) (by omega)]
    have hn : n * 10 ^ (9 - 9) = n := by omega
    rw [hn]

theorem finish_nil : finish [] = .ok () := rfl

end Calendar

/-! ## Leap seconds -/

namespace DateTime

/-- if the point of time is in a leap second, that is the end of a minute -/
def Regular (t : DateTime) : Prop :=
  t.nanosecond < 1000000000 ∨ t.second = 59

instance (t : DateTime) : Decidable t.Regular :=
  inferInstanceAs (Decidable (_ ∨ _))

/-- the point of time that the written form tells: a leap second inside a minute passes for the second after it -/
def told (t : DateTime) : DateTime :=
  if h : t.Regular then t
  else
    { t with
      second := t.second + 1
      nanosecond := t.nanosecond - 1000000000
      second_lt := by
        have := t.second_lt
        rw [Regular] at h
        omega
      nanosecond_lt := Nat.lt_of_le_of_lt (Nat.sub_le _ _) t.nanosecond_lt }

theorem told_of_regular {t : DateTime} (h : t.Regular) : t.told = t :=
  dif_pos h

/-- the written form tells a point of time exactly unless it is in a leap second inside a minute -/
theorem told_eq_iff (t : DateTime) : t.told = t ↔ t.Regular := by
  refine ⟨fun h => ?_, told_of_regular⟩
  by_cases hregular : t.Regular
  · exact hregular
  · have hsecond := congrArg second h
    rw [told, dif_neg hregular] at hsecond
    exact absurd hsecond (Nat.succ_ne_self _)

theorem regular_at (d : Date) (hour : Fin 24) (minute : Fin 60) : (d.at hour minute).Regular :=
  .inl (show 0 < 1000000000 by decide)

theorem date_told (t : DateTime) : t.told.date = t.date := by
  unfold told
  split <;> rfl

end DateTime

namespace Calendar

/-- the numbers that are written for a point of time are those of the point that is told -/
theorem timeOf_written (t : DateTime) :
    timeOf t.date t.hour t.minute (t.second + t.nanosecond / 1000000000) (t.nanosecond % 1000000000) = .ok t.told := by
  have hsecond := t.second_lt
  have hnanosecond := t.nanosecond_lt
  rw [timeOf, dif_pos ⟨t.hour_lt, t.minute_lt, by omega, by omega⟩]
  by_cases hplain : t.nanosecond < 1000000000
  · have hsum : t.second + t.nanosecond / 1000000000 = t.second := by omega
    simp only [hsum, Nat.mod_eq_of_lt hplain, hsecond, dif_pos, DateTime.told_of_regular (.inl hplain)]
  · have hsum : t.second + t.nanosecond / 1000000000 = t.second + 1 := by omega
    have hremainder : t.nanosecond % 1000000000 = t.nanosecond - 1000000000 := by omega
    simp only [hsum, hremainder]
    by_cases hlast : t.second = 59
    · have hback : t.nanosecond - 1000000000 + 1000000000 = t.nanosecond := by omega
      rw [dif_neg (by omega), DateTime.told_of_regular (.inr hlast)]
      simp only [hback, ← hlast]
    · rw [dif_pos (by omega), DateTime.told, dif_neg fun h => h.elim hplain hlast]

/-- a point of time with given numbers is in a leap second only at the end of a minute -/
theorem regular_of_timeOf {date : Date} {hour minute second nanosecond : Nat} {t : DateTime}
    (h : timeOf date hour minute second nanosecond = .ok t) : t.Regular := by
  unfold timeOf at h
  split at h
  · rename_i hbounds
    split at h
    · obtain rfl := Except.ok.inj h
      exact .inl hbounds.2.2.2
    · obtain rfl := Except.ok.inj h
      exact .inr rfl
  · exact absurd h nofun

end Calendar

/-! ## Whole days and times -/

open Calendar

/-- **Every day is read back from its written form.** -/
theorem Date.read_text (d : Date) : Date.read d.text = .ok d := by
  have hfields : dateFields d.chars = .ok ((d.year, d.month, d.day), []) := by
    simpa using dateFields_chars d []
  simp only [Date.read, Date.text, String.toList_ofList, hfields, finish_nil, dateOf_eq_ok, bind, Except.bind]

/-- **From the written form of every day and time the point that it tells is read.** -/
theorem DateTime.read_text (t : DateTime) : DateTime.read t.text = .ok t.told := by
  have hhour := t.hour_lt
  have hminute := t.minute_lt
  have hsecond := t.second_lt
  have hnanosecond := t.nanosecond_lt
  have hmark : ∀ cs, mark ':' (':' :: cs) = .ok cs := mark_cons rfl
  have hT : ∀ cs, mark 'T' ('T' :: cs) = .ok cs := mark_cons rfl
  have h1 := field_padded (Nat.zero_le t.hour) (Nat.le_of_lt_succ hhour) (by omega)
  have h2 := field_padded (Nat.zero_le t.minute) (Nat.le_of_lt_succ hminute) (by omega)
  have h3 := field_padded (n := t.second + t.nanosecond / 1000000000) (Nat.zero_le _) (by omega : _ ≤ 60) (by omega)
  have h4 := fraction_fractionText (Nat.mod_lt t.nanosecond (by decide : 0 < 1000000000))
  simp only [DateTime.read, DateTime.text, DateTime.chars, String.toList_ofList, dateFields_chars, hT, h1, hmark, h2, h3,
    h4, finish_nil, dateOf_eq_ok, bind, Except.bind]
  exact timeOf_written t

/-- **What is read is never in a leap second inside a minute.** -/
theorem DateTime.regular_of_read {text : String} {t : DateTime} (h : DateTime.read text = .ok t) : t.Regular := by
  obtain ⟨⟨⟨year, month, day⟩, cs⟩, -, h⟩ := exists_of_bind_eq_ok h
  obtain ⟨cs, -, h⟩ := exists_of_bind_eq_ok h
  obtain ⟨⟨hour, cs⟩, -, h⟩ := exists_of_bind_eq_ok h
  obtain ⟨cs, -, h⟩ := exists_of_bind_eq_ok h
  obtain ⟨⟨minute, cs⟩, -, h⟩ := exists_of_bind_eq_ok h
  obtain ⟨cs, -, h⟩ := exists_of_bind_eq_ok h
  obtain ⟨⟨second, cs⟩, -, h⟩ := exists_of_bind_eq_ok h
  obtain ⟨⟨nanosecond, cs⟩, -, h⟩ := exists_of_bind_eq_ok h
  obtain ⟨done, -, h⟩ := exists_of_bind_eq_ok h
  obtain ⟨date, -, h⟩ := exists_of_bind_eq_ok h
  exact regular_of_timeOf h

end MockBank
