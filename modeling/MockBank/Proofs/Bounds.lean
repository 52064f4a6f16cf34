/-
The bounds of a range of days, given as texts.  The reader takes more than the form YYYY-MM-DD that the refusals ask
for.  A filter is refused for the texts that the reader refuses, and for no others, so that form is not enforced.

- `TransactionFilter.Respects`: what a filter does with its bounds if the texts that name days are those of a grammar.
- `TransactionFilter.day_eq_ok_iff`, `TransactionFilter.day_eq_error_iff`: one bound is what the reader's grammar
  makes of its text.
- `TransactionFilter.respects_of_agrees`: a filter respects every grammar that tells its texts apart as the reader does.
- `bounds_follow_reader`: a filter respects the grammar of the reader, and respects the written form exactly where no
  bound is lax; `respects_written_short_month`: where one is.
-/
import MockBank.Proofs.DayForms
import MockBank.Proofs.Listing

namespace MockBank

open Calendar

namespace TransactionFilter

open Listing (noDay)

variable (Names : String → Date → Prop)

/-- what a given text makes of a bound, if texts name days in a certain way; an empty text is no bound -/
def Bounds (given : Option String) : Option Date → Prop
  | none => given = none ∨ given = some ""
  | some d => ∃ text, given = some text ∧ Names text d

/-- a given text that is absent, empty, or names a day -/
def Readable (given : Option String) : Prop :=
  given = none ∨ given = some "" ∨ ∃ text d, given = some text ∧ Names text d

/-- a given text that is not empty and names no day, and the error that says so -/
def Refuses (param : String) (given : Option String) (e : QueryError) : Prop :=
  ∃ text, given = some text ∧ text ≠ "" ∧ (¬ ∃ d, Names text d) ∧ e = noDay param text

/-- what a filter does with its bounds, if texts name days in a certain way: it is made if both are absent, empty or
name days, has these days as bounds, and is else refused for the first that is not -/
structure Respects (accountId startDate endDate : Option String) : Prop where
  succeeds_iff : (∃ f, of accountId startDate endDate = .ok f) ↔ Readable Names startDate ∧ Readable Names endDate
  bounds : ∀ f, of accountId startDate endDate = .ok f → Bounds Names startDate f.startDate ∧
    Bounds Names endDate f.endDate
  refusal : ∀ e, of accountId startDate endDate = .error e → Refuses Names "start_date" startDate e ∨
    Readable Names startDate ∧ Refuses Names "end_date" endDate e

/-- a given text that denotes a day, but not in the written form -/
def Lax (given : Option String) : Prop :=
  ∃ text d, given = some text ∧ Denotes text d ∧ ¬ Compact text

variable {Names}

theorem readable_iff (given : Option String) : Readable Names given ↔ ∃ bound, Bounds Names given bound := by
  constructor
  · rintro (hnone | hnil | ⟨text, d, hgiven, hnames⟩)
    · exact ⟨none, .inl hnone⟩
    · exact ⟨none, .inr hnil⟩
    · exact ⟨some d, text, hgiven, hnames⟩
  · rintro ⟨bound, h⟩
    cases bound with
    | none => exact h.imp id .inl
    | some d => exact .inr (.inr (h.imp fun text ht => ⟨d, ht⟩))

theorem Readable.not_refuses {param : String} {given : Option String} {e : QueryError} (h : Readable Names given) :
    ¬ Refuses Names param given e := by
  rintro ⟨text, rfl, hne, hno, -⟩
  rcases h with hnone | hnil | ⟨text', d, hgiven, hnames⟩
  · exact absurd hnone nofun
  · exact hne (Option.some.inj hnil)
  · obtain rfl := Option.some.inj hgiven
    exact hno ⟨d, hnames⟩

theorem not_denotes_empty (d : Date) : ¬ Denotes "" d := by
  intro h
  have hread : Date.read "" = .error .premature := rfl
  rw [read_of_denotes h] at hread
  exact absurd hread (by simp)

/-- **A bound is made** as the grammar of days says. -/
theorem day_eq_ok_iff (param : String) (given : Option String) (bound : Option Date) :
    Criterion.day param given = .ok bound ↔ Bounds Denotes given bound := by
  cases given with
  | none => cases bound <;> simp [Criterion.day, Criterion.present, Bounds]
  | some text =>
    by_cases hempty : text = ""
    · subst hempty
      have hday : Criterion.day param (some "") = .ok none := rfl
      cases bound with
      | none => exact iff_of_true hday (.inr rfl)
      | some d =>
        refine iff_of_false (by simp [hday]) ?_
        rintro ⟨text, hgiven, hnames⟩
        rw [← Option.some.inj hgiven] at hnames
        exact not_denotes_empty d hnames
    · have hpresent : Criterion.present (some text) = some text := by simp [Criterion.present, hempty]
      have hbounds : Bounds Denotes (some text) bound ↔ ∃ d, bound = some d ∧ Date.read text = .ok d := by
        cases bound <;> simp [Bounds, hempty, Date.read_eq_ok_iff]
      rw [hbounds, Criterion.day, hpresent]
      cases hread : Date.read text with
      | ok d => simp [hread, eq_comm]
      | error e => simp [hread]

/-- **A filter is refused** for a text that denotes no day. -/
theorem day_eq_error_iff (param : String) (given : Option String) (e : QueryError) :
    Criterion.day param given = .error e ↔ Refuses Denotes param given e := by
  cases hday : Criterion.day param given with
  | ok bound =>
    refine iff_of_false nofun fun hrefuses => ?_
    exact ((readable_iff given).2 ⟨bound, (day_eq_ok_iff _ _ _).1 hday⟩).not_refuses hrefuses
  | error e' =>
    have hno : ∀ bound, ¬ Bounds Denotes given bound := by
      intro bound hbound
      rw [(day_eq_ok_iff param given bound).2 hbound] at hday
      exact absurd hday nofun
    cases given with
    | none => exact absurd (.inl rfl) (hno none)
    | some text =>
      have hempty : text ≠ "" := fun h => hno none (.inr (congrArg some h))
      have hnone : ¬ ∃ d, Denotes text d := fun ⟨d, hd⟩ => hno (some d) ⟨text, rfl, hd⟩
      have hpresent : Criterion.present (some text) = some text := by simp [Criterion.present, hempty]
      have herror : e' = noDay param text := by
        rw [Criterion.day, hpresent] at hday
        cases hread : Date.read text with
        | ok d => exact absurd ⟨d, denotes_of_read hread⟩ hnone
        | error _ =>
          simp only [hread] at hday
          exact (Except.error.inj hday).symm
      rw [herror]
      constructor
      · intro he
        exact ⟨text, rfl, hempty, hnone, (Except.error.inj he).symm⟩
      · rintro ⟨text', hgiven, -, -, rfl⟩
        rw [Option.some.inj hgiven]

/-- another grammar agrees with that of the reader on a given text -/
def Agrees (Names : String → Date → Prop) (given : Option String) : Prop :=
  ∀ text, given = some text → ∀ d, Names text d ↔ Denotes text d

theorem Agrees.bounds_iff {given : Option String} (h : Agrees Names given) (bound : Option Date) :
    Bounds Names given bound ↔ Bounds Denotes given bound := by
  cases bound with
  | none => exact Iff.rfl
  | some d => exact exists_congr fun text => and_congr_right fun hgiven => h text hgiven d

theorem Agrees.refuses_iff {given : Option String} (h : Agrees Names given) (param : String) (e : QueryError) :
    Refuses Names param given e ↔ Refuses Denotes param given e := by
  refine exists_congr fun text => and_congr_right fun hgiven => and_congr_right fun _ => and_congr_left fun _ => ?_
  exact not_congr (exists_congr (h text hgiven))

/-- a filter respects a grammar that agrees with that of the reader on its texts; on the second one this matters only
if the first one passes -/
theorem respects_of_agrees {startDate endDate : Option String} (accountId : Option String)
    (hstart : Agrees Names startDate) (hend : Readable Names startDate → Agrees Names endDate) :
    Respects Names accountId startDate endDate := by
  cases hfirst : Criterion.day "start_date" startDate with
  | error e =>
    have hof : of accountId startDate endDate = .error e := by rw [of, hfirst]
    have hrefuses := (hstart.refuses_iff _ _).2 ((day_eq_error_iff _ _ _).1 hfirst)
    refine ⟨iff_of_false (by simp [hof]) fun h => h.1.not_refuses hrefuses, by simp [hof], ?_⟩
    intro e' he'
    obtain rfl := Except.error.inj (hof.symm.trans he')
    exact .inl hrefuses
  | ok start =>
    have hstartBound := (hstart.bounds_iff start).2 ((day_eq_ok_iff _ _ _).1 hfirst)
    have hreadable := (readable_iff startDate).2 ⟨start, hstartBound⟩
    have hend := hend hreadable
    cases hsecond : Criterion.day "end_date" endDate with
    | error e =>
      have hof : of accountId startDate endDate = .error e := by rw [of, hfirst, hsecond]
      have hrefuses := (hend.refuses_iff _ _).2 ((day_eq_error_iff _ _ _).1 hsecond)
      refine ⟨iff_of_false (by simp [hof]) fun h => h.2.not_refuses hrefuses, by simp [hof], ?_⟩
      intro e' he'
      obtain rfl := Except.error.inj (hof.symm.trans he')
      exact .inr ⟨hreadable, hrefuses⟩
    | ok stop =>
      have hof : of accountId startDate endDate = .ok ⟨Criterion.present accountId, start, stop⟩ := by
        rw [of, hfirst, hsecond]
      have hendBound := (hend.bounds_iff stop).2 ((day_eq_ok_iff _ _ _).1 hsecond)
      refine ⟨iff_of_true ⟨_, hof⟩ ⟨hreadable, (readable_iff endDate).2 ⟨stop, hendBound⟩⟩, ?_, by simp [hof]⟩
      intro f hf
      obtain rfl := Except.ok.inj (hof.symm.trans hf)
      exact ⟨hstartBound, hendBound⟩

theorem respects_denotes (accountId startDate endDate : Option String) :
    Respects Denotes accountId startDate endDate :=
  respects_of_agrees accountId (fun _ _ _ => Iff.rfl) fun _ _ _ _ => Iff.rfl

/-- the written form agrees with the grammar of the reader on a text that is not lax -/
theorem agrees_written {given : Option String} (h : ¬ Lax given) : Agrees Written given := by
  intro text hgiven d
  rw [written_iff, and_iff_left_iff_imp]
  exact fun hdenotes => Classical.byContradiction fun hcompact => h ⟨text, d, hgiven, hdenotes, hcompact⟩

/-- a lax text makes a bound, and is not in the written form -/
theorem Lax.readable {given : Option String} (h : Lax given) :
    Readable Denotes given ∧ ¬ Readable Written given := by
  obtain ⟨text, d, rfl, hdenotes, hcompact⟩ := h
  refine ⟨.inr (.inr ⟨text, d, rfl, hdenotes⟩), ?_⟩
  rintro (hnone | hempty | ⟨text', d', hgiven, hwritten⟩)
  · exact absurd hnone nofun
  · rw [Option.some.inj hempty] at hdenotes
    exact not_denotes_empty d hdenotes
  · obtain rfl := Option.some.inj hgiven
    exact hcompact hwritten.compact

theorem Readable.denotes {given : Option String} (h : Readable Written given) : Readable Denotes given :=
  h.imp id (Or.imp id fun ⟨text, d, hgiven, hwritten⟩ => ⟨text, d, hgiven, hwritten.denotes⟩)

/-- a filter does not respect the written form if its first bound that is not in it is lax -/
theorem not_respects_of_lax {startDate endDate : Option String} (accountId : Option String)
    (h : Lax startDate ∨ Readable Written startDate ∧ Lax endDate) : ¬ Respects Written accountId startDate endDate := by
  intro hrespects
  have hreads := respects_denotes accountId startDate endDate
  rcases h with hlax | ⟨hstart, hlax⟩
  · obtain ⟨hreadable, hunwritten⟩ := hlax.readable
    cases hof : of accountId startDate endDate with
    | ok f => exact hunwritten (hrespects.succeeds_iff.1 ⟨f, hof⟩).1
    | error e =>
      -- the error is about the end, since the start is read; the written form would refuse the start
      rcases hreads.refusal e hof with hrefuses | ⟨-, text, -, -, -, hend⟩
      · exact hreadable.not_refuses hrefuses
      · rcases hrespects.refusal e hof with ⟨text', -, -, -, hstart⟩ | ⟨hwritten, -⟩
        · rw [hstart] at hend
          exact absurd (congrArg QueryError.param hend) (by simp [noDay])
        · exact hunwritten hwritten
  · obtain ⟨hreadable, hunwritten⟩ := hlax.readable
    exact hunwritten (hrespects.succeeds_iff.1 (hreads.succeeds_iff.2 ⟨hstart.denotes, hreadable⟩)).2

end TransactionFilter

open TransactionFilter in
/-- **The bounds of a range of days are read, not matched against a form.**  A filter is made if each text is absent,
empty or denotes a day, has these days as its bounds, and is else refused for the first text that does not; it treats
the texts of the form YYYY-MM-DD as the only ones that name days exactly where no lax text comes to be read. -/
theorem bounds_follow_reader (accountId startDate endDate : Option String) :
    Respects Denotes accountId startDate endDate ∧
      (Respects Written accountId startDate endDate ↔
        ¬ Lax startDate ∧ (Readable Written startDate → ¬ Lax endDate)) := by
  refine ⟨respects_denotes accountId startDate endDate, ?_, ?_⟩
  · intro hrespects
    refine ⟨fun hlax => ?_, fun hstart hlax => ?_⟩
    · exact not_respects_of_lax accountId (.inl hlax) hrespects
    · exact not_respects_of_lax accountId (.inr ⟨hstart, hlax⟩) hrespects
  · rintro ⟨hstart, hend⟩
    exact respects_of_agrees accountId (agrees_written hstart) fun hreadable => agrees_written (hend hreadable)

open TransactionFilter in
/-- a month and a day of one digit make a bound, though they are not in the written form -/
theorem respects_written_short_month :
    (∃ d : Date, d.text = "2024-01-05" ∧
      TransactionFilter.of none (some "2024-1-5") none = .ok ⟨none, some d, none⟩) ∧
    ¬ Respects Written none (some "2024-1-5") none := by
  have hread : Date.read "2024-1-5" = .ok ⟨2024, 1, 5, by decide⟩ := rfl
  refine ⟨⟨⟨2024, 1, 5, by decide⟩, by decide, rfl⟩, not_respects_of_lax none (.inl ?_)⟩
  exact ⟨"2024-1-5", _, rfl, denotes_of_read hread, fun h => absurd h.1 (by decide)⟩

end MockBank
