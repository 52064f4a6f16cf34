/-
Which texts denote days.  The reader takes more than the written form: blanks around every number, months and days of
one digit, years of fewer than four digits or with a sign.  Its grammar is given here on its own, and the reader accepts
the texts of the grammar and no others.

- `Calendar.Denotes`: the texts that denote a day, as a grammar.
- `Calendar.field_append`, `Calendar.yearField_append`: each part of the reader takes what the grammar says, behind any
  blanks; `Calendar.shortNumeral_of_field`, `Calendar.yearNumeral_of_yearField`: and nothing else.
- `Date.read_eq_ok_iff`: a text is read as a day exactly if it denotes that day.
- `Calendar.Written`: the texts of the form YYYY-MM-DD that name a day; `Calendar.written_iff`: they are the compact
  ones among the texts that denote it.
-/
import MockBank.Calendar.Reader

namespace MockBank

/-! ## Digits and blanks -/

namespace Text

theorem not_isBlank_of_isDigit {c : Char} (h : c.isDigit = true) : isBlank c = false := by
  simp only [Char.isDigit, Bool.and_eq_true, decide_eq_true_eq] at h
  have hlow : 48 ≤ c.toNat := h.1
  have hhigh : c.toNat ≤ 57 := h.2
  simp only [isBlank, Bool.or_eq_false_iff, Bool.and_eq_false_iff, decide_eq_false_iff_not, beq_eq_false_iff_ne]
  omega

end Text

namespace Calendar

open Text

/-! ## The grammar of days -/

/-- a run of blanks, perhaps an empty one -/
def Blanks (cs : List Char) : Prop :=
  ∀ c ∈ cs, isBlank c = true

/-- one or more digits that denote a number -/
structure Numeral (n : Nat) (cs : List Char) : Prop where
  ne_nil : cs ≠ []
  digits : ∀ c ∈ cs, c.isDigit = true
  value : digitsValue cs = n

/-- a number of at most so many digits -/
structure ShortNumeral (limit n : Nat) (cs : List Char) : Prop extends Numeral n cs where
  length_le : cs.length ≤ limit

/-- a year: up to four digits, or a sign and any number of digits -/
inductive YearNumeral : Int → List Char → Prop
  | plain {n : Nat} {cs : List Char} (h : ShortNumeral 4 n cs) : YearNumeral n cs
  | positive {n : Nat} {cs : List Char} (h : Numeral n cs) : YearNumeral n ('+' :: cs)
  | negative {n : Nat} {cs : List Char} (h : Numeral n cs) : YearNumeral (-n) ('-' :: cs)

/-- blanks may stand before and after a number -/
def Spaced (Form : List Char → Prop) (cs : List Char) : Prop :=
  ∃ before core after, cs = before ++ core ++ after ∧ Blanks before ∧ Form core ∧ Blanks after

/-- three numbers with hyphens between them -/
def Hyphenated (Year Month Day : List Char → Prop) (cs : List Char) : Prop :=
  ∃ year month day, cs = year ++ '-' :: (month ++ '-' :: day) ∧ Year year ∧ Month month ∧ Day day

/-- a text that denotes a day -/
def Denotes (text : String) (d : Date) : Prop :=
  Hyphenated (Spaced (YearNumeral d.year)) (Spaced (ShortNumeral 2 d.month)) (Spaced (ShortNumeral 2 d.day)) text.toList

/-- so many digits that denote a number -/
def FixedNumeral (width : Nat) (n : Int) (cs : List Char) : Prop :=
  cs.length = width ∧ (∀ c ∈ cs, c.isDigit = true) ∧ (digitsValue cs : Int) = n

/-- a text of the form YYYY-MM-DD that names a day -/
def Written (text : String) (d : Date) : Prop :=
  Hyphenated (FixedNumeral 4 d.year) (FixedNumeral 2 d.month) (FixedNumeral 2 d.day) text.toList

/-- ten digits and hyphens, a hyphen not first -/
def Compact (text : String) : Prop :=
  text.toList.length = 10 ∧ (∀ c ∈ text.toList, c.isDigit = true ∨ c = '-') ∧ text.toList.head? ≠ some '-'

/-! ## What the parts of the reader take -/

theorem skipBlanks_eq (cs : List Char) : ∃ before, cs = before ++ skipBlanks cs ∧ Blanks before :=
  ⟨cs.takeWhile isBlank, List.takeWhile_append_dropWhile.symm, List.all_eq_true.1 List.all_takeWhile⟩

theorem blanks_nil : Blanks [] :=
  nofun

theorem skipBlanks_append {before : List Char} (h : Blanks before) (cs : List Char) :
    skipBlanks (before ++ cs) = skipBlanks cs :=
  List.dropWhile_append_of_pos h

theorem not_isDigit_of_isBlank {c : Char} (h : isBlank c = true) : c.isDigit = false := by
  cases hc : c.isDigit with
  | false => rfl
  | true => rw [not_isBlank_of_isDigit hc] at h; exact absurd h nofun

/-- neither blanks nor what follows them in place of a digit continue a number -/
theorem head_not_isDigit {after rest : List Char} (hafter : Blanks after) (hrest : ∀ c ∈ rest.head?, c.isDigit = false) :
    ∀ c ∈ (after ++ rest).head?, c.isDigit = false := by
  cases after with
  | nil => exact hrest
  | cons b more =>
    intro c hc
    obtain rfl : b = c := Option.some.inj hc
    exact not_isDigit_of_isBlank (hafter b List.mem_cons_self)

theorem Numeral.skipBlanks_eq {n : Nat} {cs : List Char} (h : Numeral n cs) (rest : List Char) :
    skipBlanks (cs ++ rest) = cs ++ rest := by
  obtain ⟨c, more, rfl⟩ := List.exists_cons_of_ne_nil h.ne_nil
  exact skipBlanks_of_not_blank c _ (not_isBlank_of_isDigit (h.digits c List.mem_cons_self))

/-- a number is read where the limit or what follows ends it -/
theorem ShortNumeral.number_eq {limit n : Nat} {cs rest : List Char} (h : ShortNumeral limit n cs)
    (hstop : cs.length = limit ∨ ∀ c ∈ rest.head?, c.isDigit = false) : number limit (cs ++ rest) = .ok (n, rest) := by
  have hlead := leadingDigits_append h.digits h.length_le hstop
  have hvalue := h.value
  obtain ⟨c, more, rfl⟩ := List.exists_cons_of_ne_nil h.ne_nil
  have hc : c.isDigit = true := h.digits c List.mem_cons_self
  rw [List.cons_append] at hlead
  simp only [number, List.cons_append, hc, if_true, hlead, hvalue]
  simp

/-- a number that is read stands at the front, and is no longer than the limit -/
theorem shortNumeral_of_number {limit n : Nat} {cs rest : List Char} (hlimit : cs ≠ [] → 0 < limit)
    (h : number limit cs = .ok (n, rest)) : ∃ ds, cs = ds ++ rest ∧ ShortNumeral limit n ds := by
  cases cs with
  | nil => exact absurd h nofun
  | cons c more =>
    cases hc : c.isDigit with
    | false => simp [number, hc] at h
    | true =>
      simp only [number, hc, if_true, Except.ok.injEq, Prod.mk.injEq] at h
      obtain ⟨hvalue, hrest⟩ := h
      have hnumeral : Numeral n (leadingDigits limit (c :: more)) :=
        ⟨leadingDigits_ne_nil (hlimit nofun) hc, isDigit_of_mem_leadingDigits _ _, hvalue⟩
      refine ⟨leadingDigits limit (c :: more), ?_, hnumeral, length_leadingDigits_le _ _⟩
      rw [← hrest]
      exact (List.prefix_iff_eq_append.1 (leadingDigits_isPrefixOf _ _)).symm

/-- a number of one or two digits within the bounds is read behind any blanks -/
theorem field_append {low high n : Nat} {before cs rest : List Char} (hbefore : Blanks before) (h : ShortNumeral 2 n cs)
    (hlow : low ≤ n) (hhigh : n ≤ high) (hstop : cs.length = 2 ∨ ∀ c ∈ rest.head?, c.isDigit = false) :
    field low high (before ++ cs ++ rest) = .ok (n, rest) := by
  rw [List.append_assoc, field, skipBlanks_append hbefore, h.skipBlanks_eq, h.number_eq hstop]
  simp only [bind, Except.bind, if_pos (And.intro hlow hhigh)]

theorem shortNumeral_of_field {low high n : Nat} {cs rest : List Char} (h : field low high cs = .ok (n, rest)) :
    ∃ before ds, cs = before ++ ds ++ rest ∧ Blanks before ∧ ShortNumeral 2 n ds := by
  obtain ⟨before, hcs, hbefore⟩ := skipBlanks_eq cs
  unfold field at h
  cases hnumber : number 2 (skipBlanks cs) with
  | error e => simp [hnumber, bind, Except.bind] at h
  | ok p =>
    obtain ⟨m, after⟩ := p
    simp only [hnumber, bind, Except.bind] at h
    split at h
    · obtain ⟨rfl, rfl⟩ := Prod.mk.inj (Except.ok.inj h)
      obtain ⟨ds, hds, hshort⟩ := shortNumeral_of_number (fun _ => by decide) hnumber
      exact ⟨before, ds, by rw [List.append_assoc, ← hds, ← hcs], hbefore, hshort⟩
    · exact absurd h nofun

theorem mark_cons {c : Char} (h : isBlank c = false) (rest : List Char) : mark c (c :: rest) = .ok rest := by
  simp only [mark, skipBlanks_of_not_blank c rest h, if_true]

theorem mark_append {c : Char} {before : List Char} (hbefore : Blanks before) (hc : isBlank c = false)
    (rest : List Char) : mark c (before ++ c :: rest) = .ok rest := by
  rw [mark, skipBlanks_append hbefore]
  exact mark_cons hc rest

theorem eq_of_mark {c : Char} {cs rest : List Char} (h : mark c cs = .ok rest) :
    ∃ before, cs = before ++ c :: rest ∧ Blanks before := by
  obtain ⟨before, hcs, hbefore⟩ := skipBlanks_eq cs
  unfold mark at h
  cases hskip : skipBlanks cs with
  | nil => simp [hskip] at h
  | cons d after =>
    simp only [hskip] at h
    split at h
    · rename_i hd
      obtain rfl := Except.ok.inj h
      exact ⟨before, by rw [← hd, ← hskip, ← hcs], hbefore⟩
    · exact absurd h nofun

theorem finish_eq_ok_iff (cs : List Char) : finish cs = .ok () ↔ Blanks cs := by
  unfold finish Blanks
  constructor
  · intro h
    split at h
    · rename_i hempty
      have hskip : cs.dropWhile isBlank = [] := List.isEmpty_iff.1 hempty
      have hall : cs.takeWhile isBlank = cs := by
        simpa [hskip] using List.takeWhile_append_dropWhile (p := isBlank) (l := cs)
      rw [← hall]
      exact List.all_eq_true.1 List.all_takeWhile
    · exact absurd h nofun
  · intro h
    have hskip := skipBlanks_append h []
    rw [List.append_nil] at hskip
    rw [hskip]
    rfl

theorem Numeral.number_eq {n : Nat} {cs rest : List Char} (h : Numeral n cs)
    (hstop : ∀ c ∈ rest.head?, c.isDigit = false) : number (cs ++ rest).length (cs ++ rest) = .ok (n, rest) := by
  have hshort : ShortNumeral (cs ++ rest).length n cs := ⟨h, by rw [List.length_append]; omega⟩
  exact hshort.number_eq (.inr hstop)

/-- a text that starts with a digit starts with a year of up to four digits without a sign -/
theorem yearField_of_number {c : Char} {cs rest : List Char} {n : Nat} (hc : c.isDigit = true)
    (hn : number 4 (c :: cs) = .ok (n, rest)) (hlt : n < 0x80000000) : yearField (c :: cs) = .ok ((n : Int), rest) := by
  have hrange : -0x80000000 ≤ (n : Int) ∧ (n : Int) < 0x80000000 := by omega
  rw [yearField, skipBlanks_of_not_blank c cs (not_isBlank_of_isDigit hc)]
  split
  · rename_i hsign
    obtain rfl := (List.cons.inj hsign).1
    exact absurd hc (by decide)
  · rename_i hsign
    obtain rfl := (List.cons.inj hsign).1
    exact absurd hc (by decide)
  · simp only [hn, Except.map, bind, Except.bind, if_pos hrange]

/-- a year of the calendar is read behind any blanks -/
theorem yearField_append {year : Int} {before cs rest : List Char} (hbefore : Blanks before) (h : YearNumeral year cs)
    (hrange : -0x80000000 ≤ year ∧ year < 0x80000000) (hstop : ∀ c ∈ rest.head?, c.isDigit = false) :
    yearField (before ++ cs ++ rest) = .ok (year, rest) := by
  have hskip : yearField (before ++ cs ++ rest) = yearField (cs ++ rest) := by
    rw [List.append_assoc, yearField, yearField, skipBlanks_append hbefore]
  rw [hskip]
  cases h with
  | @plain n cs h =>
    have hnumber := h.number_eq (.inr hstop)
    obtain ⟨c, more, rfl⟩ := List.exists_cons_of_ne_nil h.ne_nil
    exact yearField_of_number (h.digits c List.mem_cons_self) hnumber (by omega)
  | @positive n ds h =>
    rw [List.cons_append, yearField, skipBlanks_of_not_blank '+' _ rfl]
    simp only [h.number_eq hstop, Except.map, bind, Except.bind, if_pos hrange]
  | @negative n ds h =>
    rw [List.cons_append, yearField, skipBlanks_of_not_blank '-' _ rfl]
    simp only [h.number_eq hstop, Except.map, bind, Except.bind, if_pos hrange]

/-- behind a sign any number of digits is read -/
theorem numeral_of_number {n : Nat} {cs rest : List Char} (h : number cs.length cs = .ok (n, rest)) :
    ∃ ds, cs = ds ++ rest ∧ Numeral n ds := by
  obtain ⟨ds, hcs, hds⟩ := shortNumeral_of_number (fun hne => List.length_pos_iff.2 hne) h
  exact ⟨ds, hcs, hds.toNumeral⟩

theorem exists_of_bind_eq_ok {α β : Type} {x : Except ReadError α} {f : α → Except ReadError β} {b : β}
    (h : (x >>= f) = .ok b) : ∃ a, x = .ok a ∧ f a = .ok b := by
  cases x with
  | error e => exact absurd h nofun
  | ok a => exact ⟨a, rfl, h⟩

/-- the number behind the sign of a year that is read -/
theorem exists_of_signed {f : Nat → Int} {read : Except ReadError (Nat × List Char)} {year : Int} {rest : List Char}
    (h : (read.map (fun p => (f p.1, p.2)) >>= fun p =>
      if -0x80000000 ≤ p.1 ∧ p.1 < 0x80000000 then .ok (p.1, p.2) else .error .outOfRange) = .ok (year, rest)) :
    ∃ n, read = .ok (n, rest) ∧ f n = year := by
  obtain ⟨⟨y, r⟩, hmap, hrange⟩ := exists_of_bind_eq_ok h
  have hpair : y = year ∧ r = rest := by
    dsimp only at hrange
    split at hrange
    · exact Prod.mk.inj (Except.ok.inj hrange)
    · exact absurd hrange nofun
  obtain ⟨rfl, rfl⟩ := hpair
  cases read with
  | error e => exact absurd hmap nofun
  | ok p =>
    obtain ⟨hy, hr⟩ := Prod.mk.inj (Except.ok.inj hmap)
    exact ⟨p.1, by rw [← hr], hy⟩

theorem yearNumeral_of_yearField {year : Int} {cs rest : List Char} (h : yearField cs = .ok (year, rest)) :
    ∃ before ds, cs = before ++ ds ++ rest ∧ Blanks before ∧ YearNumeral year ds := by
  obtain ⟨before, hcs, hbefore⟩ := skipBlanks_eq cs
  unfold yearField at h
  split at h
  · rename_i signed hsign
    obtain ⟨n, hnumber, rfl⟩ := exists_of_signed (f := fun n => -(n : Int)) h
    obtain ⟨ds, hds, hnumeral⟩ := numeral_of_number hnumber
    exact ⟨before, '-' :: ds, by rw [List.append_assoc, List.cons_append, ← hds, ← hsign, ← hcs], hbefore,
      .negative hnumeral⟩
  · rename_i signed hsign
    obtain ⟨n, hnumber, rfl⟩ := exists_of_signed (f := fun n => (n : Int)) h
    obtain ⟨ds, hds, hnumeral⟩ := numeral_of_number hnumber
    exact ⟨before, '+' :: ds, by rw [List.append_assoc, List.cons_append, ← hds, ← hsign, ← hcs], hbefore,
      .positive hnumeral⟩
  · obtain ⟨n, hnumber, rfl⟩ := exists_of_signed (f := fun n => (n : Int)) h
    obtain ⟨ds, hds, hshort⟩ := shortNumeral_of_number (fun _ => by decide) hnumber
    exact ⟨before, ds, by rw [List.append_assoc, ← hds, ← hcs], hbefore, .plain hshort⟩

/-! ## The reader and the grammar -/

theorem dateOf_eq_ok (d : Date) : dateOf d.year d.month d.day = .ok d := by
  rw [dateOf, (Date.of?_eq_some_iff d.year d.month d.day d).2 ⟨rfl, rfl, rfl⟩]

/-- the numbers of a day are read up to what ends the last one -/
theorem dateFields_append {d : Date} {year month before day rest : List Char} (hy : Spaced (YearNumeral d.year) year)
    (hm : Spaced (ShortNumeral 2 d.month) month) (hbefore : Blanks before) (hn : ShortNumeral 2 d.day day)
    (hstop : day.length = 2 ∨ ∀ c ∈ rest.head?, c.isDigit = false) :
    dateFields (year ++ '-' :: (month ++ '-' :: (before ++ day ++ rest))) = .ok ((d.year, d.month, d.day), rest) := by
  obtain ⟨b₁, y, a₁, rfl, hb₁, hy, ha₁⟩ := hy
  obtain ⟨b₂, m, a₂, rfl, hb₂, hm, ha₂⟩ := hm
  obtain ⟨hyear, hmonth, hday⟩ := d.exists_day
  have hlast := (Date.daysInMonth_bounds d.year d.month).2
  have hrange : -0x80000000 ≤ d.year ∧ d.year < 0x80000000 := by
    simp only [Date.minYear, Date.maxYear] at hyear
    omega
  have hhyphen : ∀ cs : List Char, ∀ c ∈ ('-' :: cs).head?, c.isDigit = false := by simp
  have hreadYear := fun cs => yearField_append hb₁ hy hrange (head_not_isDigit ha₁ (hhyphen cs))
  have hreadMonth := fun cs => field_append hb₂ hm hmonth.1 hmonth.2 (.inr (head_not_isDigit ha₂ (hhyphen cs)))
  have hreadDay := field_append hbefore hn hday.1 (Nat.le_trans hday.2 hlast) hstop
  have hmark₁ := fun cs => mark_append (c := '-') ha₁ rfl cs
  have hmark₂ := fun cs => mark_append (c := '-') ha₂ rfl cs
  rw [List.append_assoc _ a₁, List.append_assoc _ a₂]
  simp only [dateFields, bind, Except.bind, hreadYear, hmark₁, hreadMonth, hmark₂, hreadDay]

/-- **A text that denotes a day is read as that day.** -/
theorem read_of_denotes {text : String} {d : Date} (h : Denotes text d) : Date.read text = .ok d := by
  obtain ⟨year, month, day, htext, hyear, hmonth, before, n, after, rfl, hbefore, hday, hafter⟩ := h
  have hstop : ∀ c ∈ after.head?, c.isDigit = false := by
    rw [← List.append_nil after]
    exact head_not_isDigit hafter nofun
  have hfields := dateFields_append hyear hmonth hbefore hday (.inr hstop)
  simp only [Date.read, htext, hfields, (finish_eq_ok_iff after).2 hafter, dateOf_eq_ok, bind, Except.bind]

/-- the numbers of a day that is read, and what follows them -/
theorem hyphenated_of_dateFields {year : Int} {month day : Nat} {cs rest : List Char}
    (h : dateFields cs = .ok ((year, month, day), rest)) (hrest : Blanks rest) :
    Hyphenated (Spaced (YearNumeral year)) (Spaced (ShortNumeral 2 month)) (Spaced (ShortNumeral 2 day)) cs := by
  obtain ⟨⟨y, cs₁⟩, hyear, h⟩ := exists_of_bind_eq_ok h
  obtain ⟨cs₂, hmark₁, h⟩ := exists_of_bind_eq_ok h
  obtain ⟨⟨m, cs₃⟩, hmonth, h⟩ := exists_of_bind_eq_ok h
  obtain ⟨cs₄, hmark₂, h⟩ := exists_of_bind_eq_ok h
  obtain ⟨⟨n, cs₅⟩, hday, h⟩ := exists_of_bind_eq_ok h
  simp only [Except.ok.injEq, Prod.mk.injEq] at h
  obtain ⟨⟨rfl, rfl, rfl⟩, rfl⟩ := h
  obtain ⟨b₁, ycore, rfl, hb₁, hy⟩ := yearNumeral_of_yearField hyear
  obtain ⟨a₁, rfl, ha₁⟩ := eq_of_mark hmark₁
  obtain ⟨b₂, mcore, rfl, hb₂, hm⟩ := shortNumeral_of_field hmonth
  obtain ⟨a₂, rfl, ha₂⟩ := eq_of_mark hmark₂
  obtain ⟨b₃, ncore, rfl, hb₃, hn⟩ := shortNumeral_of_field hday
  exact ⟨b₁ ++ ycore ++ a₁, b₂ ++ mcore ++ a₂, b₃ ++ ncore ++ cs₅, by simp only [List.append_assoc],
    ⟨b₁, ycore, a₁, rfl, hb₁, hy, ha₁⟩, ⟨b₂, mcore, a₂, rfl, hb₂, hm, ha₂⟩, ⟨b₃, ncore, cs₅, rfl, hb₃, hn, hrest⟩⟩

/-- **A text that is read as a day denotes it.** -/
theorem denotes_of_read {text : String} {d : Date} (h : Date.read text = .ok d) : Denotes text d := by
  obtain ⟨⟨⟨year, month, day⟩, rest⟩, hfields, h⟩ := exists_of_bind_eq_ok h
  obtain ⟨done, hfinish, hdate⟩ := exists_of_bind_eq_ok h
  have hexists : Date.of? year month day = some d := by
    unfold dateOf at hdate
    split at hdate
    · rename_i d' hd
      rw [hd, Except.ok.inj hdate]
    · exact absurd hdate nofun
  obtain ⟨rfl, rfl, rfl⟩ := (Date.of?_eq_some_iff _ _ _ _).1 hexists
  exact hyphenated_of_dateFields hfields ((finish_eq_ok_iff rest).1 hfinish)

/-! ## The written form -/

/-- without blanks there is only the number -/
theorem Spaced.bare {Form : List Char → Prop} {cs : List Char} (h : Spaced Form cs)
    (hcs : ∀ c ∈ cs, isBlank c = false) : Form cs := by
  obtain ⟨before, core, after, rfl, hbefore, hcore, hafter⟩ := h
  have hnone : ∀ blanks : List Char, Blanks blanks → (∀ c ∈ blanks, c ∈ before ++ core ++ after) → blanks = [] := by
    intro blanks hblanks hmem
    refine List.eq_nil_iff_forall_not_mem.2 fun c hc => ?_
    have hblank := hblanks c hc
    rw [hcs c (hmem c hc)] at hblank
    exact absurd hblank nofun
  rw [hnone before hbefore (by simp_all), hnone after hafter (by simp_all), List.nil_append, List.append_nil]
  exact hcore

theorem spaced_of_bare {Form : List Char → Prop} {cs : List Char} (h : Form cs) : Spaced Form cs :=
  ⟨[], cs, [], by simp, nofun, h, nofun⟩

theorem shortNumeral_of_fixed {width n : Nat} {cs : List Char} (hwidth : 0 < width) (h : FixedNumeral width n cs) :
    ShortNumeral width n cs := by
  obtain ⟨hlength, hdigits, hvalue⟩ := h
  have hne : cs ≠ [] := fun hnil => by simp [hnil] at hlength; omega
  exact ⟨⟨hne, hdigits, by exact_mod_cast hvalue⟩, Nat.le_of_eq hlength⟩

theorem ShortNumeral.fixed {width n : Nat} {cs : List Char} (h : ShortNumeral width n cs) (hlength : cs.length = width) :
    FixedNumeral width n cs :=
  ⟨hlength, h.digits, by rw [h.value]⟩

/-- a text in the written form denotes its day -/
theorem Written.denotes {text : String} {d : Date} (h : Written text d) : Denotes text d := by
  obtain ⟨y, m, n, htext, hy, hm, hn⟩ := h
  have hyear : YearNumeral d.year y := by
    obtain ⟨hlength, hdigits, hvalue⟩ := hy
    rw [← hvalue]
    exact .plain (shortNumeral_of_fixed (by decide) ⟨hlength, hdigits, rfl⟩)
  exact ⟨y, m, n, htext, spaced_of_bare hyear, spaced_of_bare (shortNumeral_of_fixed (by decide) hm),
    spaced_of_bare (shortNumeral_of_fixed (by decide) hn)⟩

theorem Written.compact {text : String} {d : Date} (h : Written text d) : Compact text := by
  obtain ⟨y, m, n, htext, ⟨hylength, hydigits, -⟩, ⟨hmlength, hmdigits, -⟩, ⟨hnlength, hndigits, -⟩⟩ := h
  refine ⟨?_, ?_, ?_⟩
  · simp [htext, hylength, hmlength, hnlength]
  · intro c hc
    simp only [htext, List.mem_append, List.mem_cons] at hc
    rcases hc with hc | rfl | hc | rfl | hc
    · exact .inl (hydigits c hc)
    · exact .inr rfl
    · exact .inl (hmdigits c hc)
    · exact .inr rfl
    · exact .inl (hndigits c hc)
  · obtain ⟨c, more, rfl⟩ := List.exists_cons_of_ne_nil (l := y) fun hnil => by simp [hnil] at hylength
    rw [htext]
    intro hhead
    obtain rfl : c = '-' := Option.some.inj hhead
    exact absurd (hydigits '-' List.mem_cons_self) (by decide)

/-- a compact text that denotes a day is in the written form: there is no room for anything else -/
theorem Denotes.written {text : String} {d : Date} (h : Denotes text d) (hcompact : Compact text) : Written text d := by
  obtain ⟨y, m, n, htext, hy, hm, hn⟩ := h
  obtain ⟨hlength, hchars, hhead⟩ := hcompact
  rw [htext] at hlength hchars hhead
  have hplain : ∀ c ∈ y ++ '-' :: (m ++ '-' :: n), isBlank c = false := by
    intro c hc
    rcases hchars c hc with hdigit | rfl
    · exact not_isBlank_of_isDigit hdigit
    · rfl
  have hm := hm.bare fun c hc => hplain c (by simp [hc])
  have hn := hn.bare fun c hc => hplain c (by simp [hc])
  have hy := hy.bare fun c hc => hplain c (by simp [hc])
  simp only [List.length_append, List.length_cons] at hlength
  have hmle := hm.length_le
  have hnle := hn.length_le
  generalize hyear : d.year = year at hy
  cases hy with
  | plain hshort =>
    have hyle := hshort.length_le
    refine ⟨y, m, n, htext, ?_, hm.fixed (by omega), hn.fixed (by omega)⟩
    rw [hyear]
    exact hshort.fixed (by omega)
  | positive => exact absurd (hchars '+' (by simp)) (by decide)
  | negative => exact absurd rfl hhead

/-- **The written form is what is compact** of the texts that denote a day. -/
theorem written_iff (text : String) (d : Date) : Written text d ↔ Denotes text d ∧ Compact text :=
  ⟨fun h => ⟨h.denotes, h.compact⟩, fun h => h.1.written h.2⟩

end Calendar

open Calendar

/-- **The reader accepts the grammar of days**, and reads each text as the day that it denotes. -/
theorem Date.read_eq_ok_iff (text : String) (d : Date) : Date.read text = .ok d ↔ Denotes text d :=
  ⟨denotes_of_read, read_of_denotes⟩

end MockBank
