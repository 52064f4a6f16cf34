/-
What the lists answer, said of the documents that they show.  Each list has a rule for each of its criteria: a
parameter, the member of a record that it is compared with, and how.  A text that is given and not empty restricts the
list to the records that it holds of; all such texts must hold together.

- `Listing.Rule`, `Listing.selects`: the criteria, on what is written for a record.
- `Listing.offences`: what is wrong with a query, in the order in which it is told; `Listing.Offends` says when there is
  something.
- `Listing.Serves`: a list refuses a query for its first offence, and else shows a window of the records that are
  selected.
- `Listing.serves_of_filters`: a list serves if its filter is refused with the offences of the rules, and admits what
  they select; so do the four lists (`serves_accounts`, `serves_cards`, `serves_transactions`, `serves_loans`).
- `Listing.selected_also`, `Listing.selected_between`: further criteria, and days parted in two.
- `lists_answer_queries`: the four lists, and what follows for their criteria.
-/
import MockBank.Api.Handler
import MockBank.Proofs.Calendar
import MockBank.Proofs.DayCount
import MockBank.Proofs.Decoding
import MockBank.Proofs.Paging

namespace MockBank

namespace Listing

/-! ## Criteria -/

/-- how the text of a criterion is compared with the value of a member -/
inductive Comparison where
  | equals
  | notBefore
  | notAfter
  deriving DecidableEq

/-- a criterion: the parameter that gives its text, the member it is about, and how they are compared -/
structure Rule where
  param : String
  member : String
  comparison : Comparison

/-- the day that a text names -/
def dayOf? (text : String) : Option Date :=
  (Date.read text).toOption

/-- the day of the point of time that a value names -/
def dayAt? (v : Json) : Option Date :=
  v.string?.bind fun s => (DateTime.read s).toOption.map DateTime.date

/-- whether a comparison with a text holds of a value -/
def Comparison.holds (text : String) (v : Json) : Comparison → Bool
  | .equals => v.string? == some text
  | .notBefore => (dayOf? text).any fun bound => (dayAt? v).any fun day => !decide (day.Before bound)
  | .notAfter => (dayOf? text).any fun bound => (dayAt? v).any fun day => !decide (bound.Before day)

/-- whether a criterion with a text holds of what is written for a record -/
def Rule.holds (r : Rule) (text : String) (record : Json) : Bool :=
  (record.at? r.member).any fun v => r.comparison.holds text v

/-- the text that is given for a parameter, unless it is empty -/
def given? (ps : Parameters) (param : String) : Option String :=
  (ps.text? param).filter fun s => s ≠ ""

/-- whether every criterion that is given holds of what is written for a record -/
def selects (rules : List Rule) (ps : Parameters) (record : Json) : Bool :=
  rules.all fun r => (given? ps r.param).all fun text => r.holds text record

/-- the records that a query selects, in their order -/
def selected {α : Type} [Entity α] (rules : List Rule) (ps : Parameters) (records : List α) : List α :=
  records.filter fun a => selects rules ps (Entity.toJson a)

def holderRules : List Rule :=
  [⟨"customer_id", "customerId", .equals⟩]

def accountRule : Rule :=
  ⟨"account_id", "accountId", .equals⟩

def startRule : Rule :=
  ⟨"start_date", "timestamp", .notBefore⟩

def endRule : Rule :=
  ⟨"end_date", "timestamp", .notAfter⟩

/-- movements on one account, from one day to another -/
def transactionRules : List Rule :=
  [accountRule, startRule, endRule]

def loanRules : List Rule :=
  [⟨"customer_id", "customerId", .equals⟩, ⟨"status", "status", .equals⟩]

/-! ## Refusals -/

/-- the error for a text that is to name a day and does not -/
def noDay (param raw : String) : QueryError :=
  ⟨param, "invalid date `" ++ raw ++ "`, expected YYYY-MM-DD"⟩

/-- what is wrong with the text of a criterion: one that is compared with days must name one -/
def Rule.offences (r : Rule) (ps : Parameters) : List QueryError :=
  match r.comparison, given? ps r.param with
  | .equals, _ => []
  | _, none => []
  | _, some raw => if dayOf? raw = none then [noDay r.param raw] else []

/-- what is wrong with a query: the page, the limit, then the days in the order of the criteria -/
def offences (rules : List Rule) (ps : Parameters) : List QueryError :=
  PageRequest.offences ps.page ps.limit ++ rules.flatMap fun r => r.offences ps

/-- a page below one, a limit that is none of one to a hundred, or a text that is to name a day and does not -/
def Offends (rules : List Rule) (ps : Parameters) : Prop :=
  (∃ p, ps.page = some p ∧ p.toInt < 1) ∨
    (∃ l, ps.limit = some l ∧ ¬ (1 ≤ l.toInt ∧ l.toInt ≤ 100)) ∨
    ∃ r ∈ rules, r.comparison ≠ .equals ∧ ∃ raw, given? ps r.param = some raw ∧ dayOf? raw = none

theorem dayOf?_eq_some_iff (text : String) (d : Date) : dayOf? text = some d ↔ Date.read text = .ok d := by
  unfold dayOf?
  cases Date.read text with
  | error e => exact iff_of_false nofun nofun
  | ok day => simp [Except.toOption]

theorem Rule.offences_eq_nil_iff (r : Rule) (ps : Parameters) :
    r.offences ps = [] ↔
      ¬ (r.comparison ≠ .equals ∧ ∃ raw, given? ps r.param = some raw ∧ dayOf? raw = none) := by
  unfold Rule.offences
  cases r.comparison <;> cases given? ps r.param <;> simp

theorem Rule.of_offences_eq_cons {r : Rule} {ps : Parameters} {e : QueryError} {later : List QueryError}
    (h : r.offences ps = e :: later) :
    ∃ raw, given? ps r.param = some raw ∧ dayOf? raw = none ∧ e = noDay r.param raw := by
  unfold Rule.offences at h
  cases hgiven : given? ps r.param with
  | none => cases hcomparison : r.comparison <;> simp [hgiven, hcomparison] at h
  | some raw =>
    refine ⟨raw, rfl, ?_⟩
    cases hcomparison : r.comparison with
    | equals => simp [hcomparison] at h
    | _ =>
      by_cases hnone : dayOf? raw = none
      · simp only [hgiven, hcomparison, if_pos hnone] at h
        exact ⟨hnone, (List.cons.inj h).1.symm⟩
      · simp [hgiven, hcomparison, if_neg hnone] at h

theorem offences_eq_nil_iff (rules : List Rule) (ps : Parameters) : offences rules ps = [] ↔ ¬ Offends rules ps := by
  have hpages : PageRequest.offences ps.page ps.limit = [] ↔
      (¬ ∃ p, ps.page = some p ∧ p.toInt < 1) ∧ ¬ ∃ l, ps.limit = some l ∧ ¬ (1 ≤ l.toInt ∧ l.toInt ≤ 100) := by
    rw [PageRequest.offences_eq_nil_iff]
    simp only [← Int.not_le, not_exists, Decidable.not_and_not_right]
  have hdays : (rules.flatMap fun r => r.offences ps) = [] ↔
      ¬ ∃ r ∈ rules, r.comparison ≠ .equals ∧ ∃ raw, given? ps r.param = some raw ∧ dayOf? raw = none := by
    simp only [List.flatMap_eq_nil_iff, Rule.offences_eq_nil_iff]
    simp
  rw [offences, List.append_eq_nil_iff, hpages, hdays, Offends, not_or, not_or, and_assoc]

/-! ## Answers -/

section Answers

variable {α : Type} [Entity α]

/-- the response of a list to the parameters of a query -/
def respond (list : Parameters → Except ApiError (Page α)) (ps : Parameters) : Response :=
  Api.answer (Page.toJson Entity.toJson) (list ps)

/-- the stretch that a page cuts out, counted from one and of twenty records unless the query says otherwise; how many
records come before it stays at the greatest word -/
def window (ps : Parameters) (records : List α) : List α :=
  let limit := PageRequest.numberOr 20 ps.limit
  let before := (PageRequest.numberOr 1 ps.page - 1) * limit
  (records.drop (min before 0xFFFFFFFFFFFFFFFF)).take limit

def pageOf (ps : Parameters) (records : List α) : Json :=
  .object [
    ("data", .array ((window ps records).map Entity.toJson)),
    ("total", .ofNat records.length),
    ("page", .ofNat (PageRequest.numberOr 1 ps.page)),
    ("limit", .ofNat (PageRequest.numberOr 20 ps.limit))]

omit [Entity α] in
/-- unless there are more records than words, the window is that of unbounded numbers -/
theorem window_eq (ps : Parameters) {records : List α} (h : records.length ≤ 0xFFFFFFFFFFFFFFFF) :
    window ps records =
      (records.drop ((PageRequest.numberOr 1 ps.page - 1) * PageRequest.numberOr 20 ps.limit)).take
        (PageRequest.numberOr 20 ps.limit) := by
  rw [window]
  generalize (PageRequest.numberOr 1 ps.page - 1) * PageRequest.numberOr 20 ps.limit = before
  by_cases hsat : before ≤ 0xFFFFFFFFFFFFFFFF
  · rw [Nat.min_eq_left hsat]
  · rw [List.drop_of_length_le (by omega), List.drop_of_length_le (by omega)]

/-- a list of records answers queries by rules: a query that offends is refused with the first offence as the only
issue, in the query and with the parameter's name; any other is shown the page of what it selects, which is a window
in unbounded numbers unless there are more records than words -/
structure Serves (view : Request → Response) (list : Parameters → Except ApiError (Page α)) (rules : List Rule)
    (records : List α) : Prop where
  answered : ∀ r ps, Parameters.read (rules.map Rule.param) r.query = .ok ps → view r = respond list ps
  refused : ∀ ps, (respond list ps).status = 422 ↔ Offends rules ps
  first : ∀ ps, Offends rules ps → ∃ e later, offences rules ps = e :: later ∧
    (respond list ps).body = .json (.object [("detail", .array [e.issue.toJson])]) ∧ e.issue.loc = ["query", e.param]
  shown : ∀ ps, ¬ Offends rules ps → respond list ps = .json 200 (pageOf ps (selected rules ps records))
  windowed : ∀ ps, (selected rules ps records).length ≤ 0xFFFFFFFFFFFFFFFF →
    window ps (selected rules ps records) =
      ((selected rules ps records).drop ((PageRequest.numberOr 1 ps.page - 1) * PageRequest.numberOr 20 ps.limit)).take
        (PageRequest.numberOr 20 ps.limit)

/-- **A list serves if its filter is refused with the offences of the rules and admits what they select.** -/
theorem serves_of_filters {view : Request → Response} {list : Parameters → Except ApiError (Page α)} {rules : List Rule}
    {c : Collection α} (filters : Parameters → Except QueryError (α → Bool))
    (hview : ∀ r, view r = Api.answerList (rules.map Rule.param) list r)
    (hlist : ∀ ps, list ps = ((PageRequest.of ps.page ps.limit).mapError ApiError.query).bind fun r =>
      ((filters ps).mapError ApiError.query).bind fun keep => .ok (c.page keep r))
    (hrefuse : ∀ ps e later, (rules.flatMap fun r => r.offences ps) = e :: later → filters ps = .error e)
    (hkeep : ∀ ps, (rules.flatMap fun r => r.offences ps) = [] →
      ∃ keep, filters ps = .ok keep ∧ ∀ a, keep a = selects rules ps (Entity.toJson a)) :
    Serves view list rules c.toList := by
  have hfirst : ∀ ps e later, offences rules ps = e :: later → list ps = .error (.query e) := by
    intro ps e later h
    rw [hlist]
    cases hpage : PageRequest.offences ps.page ps.limit with
    | cons e' more =>
      rw [offences, hpage, List.cons_append] at h
      rw [PageRequest.of_eq_error hpage, (List.cons.inj h).1]
      rfl
    | nil =>
      rw [offences, hpage, List.nil_append] at h
      obtain ⟨r, hr, -⟩ := PageRequest.of_eq_ok hpage
      rw [hr, hrefuse ps e later h]
      rfl
  have hshown : ∀ ps, offences rules ps = [] →
      respond list ps = .json 200 (pageOf ps (selected rules ps c.toList)) := by
    intro ps h
    obtain ⟨hpage, hdays⟩ := List.append_eq_nil_iff.1 h
    obtain ⟨r, hr, hnumber, hlimit⟩ := PageRequest.of_eq_ok hpage
    obtain ⟨keep, hfilters, hadmits⟩ := hkeep ps hdays
    have hselected : c.toList.filter keep = selected rules ps c.toList := by
      rw [selected, show keep = _ from funext hadmits]
    have hdata : (c.page keep r).data = window ps (selected rules ps c.toList) := by
      show ((c.toList.filter keep).drop r.offset.toNat).take r.limit.toNat = _
      rw [hselected, r.toNat_offset, hnumber, hlimit]
      rfl
    have htotal : (c.page keep r).total = (selected rules ps c.toList).length := congrArg List.length hselected
    have hok : list ps = .ok (c.page keep r) := by
      rw [hlist, hr, hfilters]
      rfl
    rw [respond, hok]
    show Response.json 200 ((c.page keep r).toJson Entity.toJson) = _
    rw [Page.toJson, pageOf, hdata, htotal, ← hnumber, ← hlimit]
    rfl
  have hexists : ∀ ps, Offends rules ps → ∃ e later, offences rules ps = e :: later := by
    intro ps h
    cases hoffences : offences rules ps with
    | nil => exact absurd h ((offences_eq_nil_iff rules ps).1 hoffences)
    | cons e later => exact ⟨e, later, rfl⟩
  have hfine : ∀ ps, ¬ Offends rules ps → respond list ps = .json 200 (pageOf ps (selected rules ps c.toList)) :=
    fun ps h => hshown ps ((offences_eq_nil_iff rules ps).2 h)
  refine ⟨?_, ?_, ?_, hfine, fun ps h => window_eq ps h⟩
  · intro r ps hps
    rw [hview, Api.answerList, hps]
    rfl
  · intro ps
    by_cases h : Offends rules ps
    · obtain ⟨e, later, hoffences⟩ := hexists ps h
      rw [respond, hfirst ps e later hoffences]
      exact iff_of_true rfl h
    · rw [hfine ps h]
      exact iff_of_false (by simp) h
  · intro ps h
    obtain ⟨e, later, hoffences⟩ := hexists ps h
    rw [respond, hfirst ps e later hoffences]
    exact ⟨e, later, hoffences, rfl, rfl⟩

end Answers

/-! ## The four lists -/

theorem given?_eq_present (ps : Parameters) (param : String) :
    given? ps param = Criterion.present (ps.text? param) := by
  rw [given?, Criterion.present]
  congr 1
  funext s
  by_cases hs : s = "" <;> simp [hs]

/-- a text that must be equal restricts as the filters have it -/
theorem holds_equals (ps : Parameters) {param member : String} (record : Json) (s : String)
    (h : record.at? member = some (.string s)) :
    ((given? ps param).all fun text => Rule.holds ⟨param, member, .equals⟩ text record) =
      Criterion.admits (Criterion.present (ps.text? param)) s := by
  rw [given?_eq_present]
  cases Criterion.present (ps.text? param) with
  | none => rfl
  | some text =>
    simp only [Option.all_some, Rule.holds, h, Option.any_some, Comparison.holds, Json.string?, Criterion.admits]
    rw [Bool.eq_iff_iff, beq_iff_eq, beq_iff_eq, Option.some.injEq, eq_comm]

/-- rules without days refuse nothing -/
theorem flatMap_offences_eq_nil {rules : List Rule} (h : ∀ r ∈ rules, r.comparison = .equals) (ps : Parameters) :
    (rules.flatMap fun r => r.offences ps) = [] := by
  rw [List.flatMap_eq_nil_iff]
  intro r hr
  rw [Rule.offences, h r hr]

/-- a list serves if its rules ask for equal texts and its filter admits what they select -/
theorem serves_of_keep {α : Type} [Entity α] {view : Request → Response}
    {list : Parameters → Except ApiError (Page α)} {rules : List Rule} {c : Collection α}
    (keep : Parameters → α → Bool) (hequals : ∀ r ∈ rules, r.comparison = .equals)
    (hview : ∀ r, view r = Api.answerList (rules.map Rule.param) list r)
    (hlist : ∀ ps, list ps = ((PageRequest.of ps.page ps.limit).mapError ApiError.query).bind fun r =>
      .ok (c.page (keep ps) r))
    (hkeep : ∀ ps a, keep ps a = selects rules ps (Entity.toJson a)) : Serves view list rules c.toList := by
  refine serves_of_filters (fun ps => .ok (keep ps)) hview hlist ?_ fun ps _ => ⟨keep ps, rfl, hkeep ps⟩
  intro ps e later h
  rw [flatMap_offences_eq_nil hequals ps] at h
  exact absurd h nofun

variable (b : Bank)

theorem serves_accounts :
    Serves (fun r => Api.view b r .accounts) (Api.listAccounts b) holderRules b.accounts.toList := by
  refine serves_of_keep (fun ps => (HolderFilter.of (ps.text? "customer_id")).admitsAccount) (by decide)
    (fun _ => rfl) (fun _ => rfl) fun ps a => ?_
  rw [selects, holderRules, List.all_cons, List.all_nil, Bool.and_true,
    holds_equals ps (Entity.toJson a) a.customerId rfl]
  rfl

theorem serves_cards : Serves (fun r => Api.view b r .cards) (Api.listCards b) holderRules b.cards.toList := by
  refine serves_of_keep (fun ps => (HolderFilter.of (ps.text? "customer_id")).admitsCard) (by decide)
    (fun _ => rfl) (fun _ => rfl) fun ps c => ?_
  rw [selects, holderRules, List.all_cons, List.all_nil, Bool.and_true,
    holds_equals ps (Entity.toJson c) c.customerId rfl]
  rfl

theorem serves_loans : Serves (fun r => Api.view b r .loans) (Api.listLoans b) loanRules b.loans.toList := by
  refine serves_of_keep (fun ps => (LoanFilter.of (ps.text? "customer_id") (ps.text? "status")).admits) (by decide)
    (fun _ => rfl) (fun _ => rfl) fun ps l => ?_
  rw [selects, loanRules, List.all_cons, List.all_cons, List.all_nil, Bool.and_true,
    holds_equals ps (Entity.toJson l) l.customerId rfl,
    holds_equals ps (Entity.toJson l) (Named.name l.status) rfl]
  rfl

/-! Days are read before they are compared. -/

section Days

variable {ps : Parameters} {r : Rule}

theorem day_of_offence {e : QueryError} {later : List QueryError} (h : r.offences ps = e :: later) :
    Criterion.day r.param (ps.text? r.param) = .error e := by
  obtain ⟨raw, hgiven, hnone, rfl⟩ := Rule.of_offences_eq_cons h
  rw [Criterion.day, ← given?_eq_present, hgiven]
  cases hread : Date.read raw with
  | ok d => exact absurd ((dayOf?_eq_some_iff raw d).2 hread) (by simp [hnone])
  | error cause =>
    simp only [hread]
    rfl

/-- a text that is compared with days names one if the query is not refused for it -/
theorem exists_day_of_fine (h : r.offences ps = []) (hcomparison : r.comparison ≠ .equals) {raw : String}
    (hraw : given? ps r.param = some raw) : ∃ d, dayOf? raw = some d := by
  refine Option.ne_none_iff_exists'.1 fun hnone => ?_
  exact (r.offences_eq_nil_iff ps).1 h ⟨hcomparison, raw, hraw, hnone⟩

theorem day_of_fine (h : r.offences ps = []) (hcomparison : r.comparison ≠ .equals) :
    Criterion.day r.param (ps.text? r.param) = .ok ((given? ps r.param).bind dayOf?) := by
  rw [Criterion.day, ← given?_eq_present]
  cases hgiven : given? ps r.param with
  | none => rfl
  | some raw =>
    obtain ⟨d, hd⟩ := exists_day_of_fine h hcomparison hgiven
    have hread := (dayOf?_eq_some_iff raw d).1 hd
    simp only [hread, Option.bind_some, hd]

end Days

/-- the day of a movement is the one of the text that is written for its time -/
theorem dayAt?_timestamp (t : Transaction) : dayAt? (Wire.dateTime.write t.timestamp) = some t.timestamp.date := by
  show ((DateTime.read t.timestamp.text).toOption.map DateTime.date) = _
  rw [DateTime.read_text]
  exact congrArg some t.timestamp.date_told

theorem startRule_holds {text : String} {d : Date} (h : dayOf? text = some d) (t : Transaction) :
    startRule.holds text (Entity.toJson t) = decide (d ≤ t.timestamp.date) := by
  have hat : (Entity.toJson t).at? "timestamp" = some (Wire.dateTime.write t.timestamp) := rfl
  simp only [Rule.holds, startRule, hat, Option.any_some, Comparison.holds, h, dayAt?_timestamp]
  rw [← decide_not, decide_eq_decide]
  exact Date.not_before_iff _ _

theorem endRule_holds {text : String} {d : Date} (h : dayOf? text = some d) (t : Transaction) :
    endRule.holds text (Entity.toJson t) = decide (t.timestamp.date ≤ d) := by
  have hat : (Entity.toJson t).at? "timestamp" = some (Wire.dateTime.write t.timestamp) := rfl
  simp only [Rule.holds, endRule, hat, Option.any_some, Comparison.holds, h, dayAt?_timestamp]
  rw [← decide_not, decide_eq_decide]
  exact Date.not_before_iff _ _

/-- the filter of movements that the parameters of a query make -/
def transactionFilter (ps : Parameters) : Except QueryError TransactionFilter :=
  TransactionFilter.of (ps.text? "account_id") (ps.text? "start_date") (ps.text? "end_date")

theorem transaction_offences (ps : Parameters) :
    (transactionRules.flatMap fun r => r.offences ps) = startRule.offences ps ++ endRule.offences ps := by
  have haccount : accountRule.offences ps = [] := rfl
  simp only [transactionRules, List.flatMap_cons, List.flatMap_nil, haccount, List.nil_append, List.append_nil]

theorem transactionFilter_of_offence {ps : Parameters} {e : QueryError} {later : List QueryError}
    (h : startRule.offences ps ++ endRule.offences ps = e :: later) : transactionFilter ps = .error e := by
  unfold transactionFilter TransactionFilter.of
  cases hstart : startRule.offences ps with
  | cons e' more =>
    rw [hstart, List.cons_append] at h
    obtain rfl := (List.cons.inj h).1
    have hday : Criterion.day "start_date" (ps.text? "start_date") = .error e' := day_of_offence hstart
    rw [hday]
  | nil =>
    rw [hstart, List.nil_append] at h
    have hfrom : Criterion.day "start_date" (ps.text? "start_date") = .ok _ := day_of_fine hstart nofun
    have hto : Criterion.day "end_date" (ps.text? "end_date") = .error e := day_of_offence h
    rw [hfrom, hto]

theorem transactionFilter_of_fine {ps : Parameters} (hstart : startRule.offences ps = [])
    (hend : endRule.offences ps = []) :
    transactionFilter ps = .ok ⟨Criterion.present (ps.text? "account_id"), (given? ps "start_date").bind dayOf?,
      (given? ps "end_date").bind dayOf?⟩ := by
  have hfrom : Criterion.day "start_date" (ps.text? "start_date") = .ok _ := day_of_fine hstart nofun
  have hto : Criterion.day "end_date" (ps.text? "end_date") = .ok _ := day_of_fine hend nofun
  unfold transactionFilter TransactionFilter.of
  rw [hfrom, hto]
  rfl

theorem serves_transactions :
    Serves (fun r => Api.view b r .transactions) (Api.listTransactions b) transactionRules b.transactions.toList := by
  refine serves_of_filters (fun ps => (transactionFilter ps).map TransactionFilter.admits) (fun _ => rfl)
    (fun ps => ?_) (fun ps e later h => ?_) fun ps h => ?_
  · rw [Api.listTransactions]
    show _ = ((PageRequest.of ps.page ps.limit).mapError ApiError.query).bind _
    cases PageRequest.of ps.page ps.limit with
    | error e => rfl
    | ok r =>
      unfold transactionFilter
      cases TransactionFilter.of (ps.text? "account_id") (ps.text? "start_date") (ps.text? "end_date") <;> rfl
  · rw [transaction_offences] at h
    rw [transactionFilter_of_offence h]
    rfl
  · rw [transaction_offences] at h
    obtain ⟨hstart, hend⟩ := List.append_eq_nil_iff.1 h
    refine ⟨_, congrArg (Except.map TransactionFilter.admits) (transactionFilter_of_fine hstart hend), fun t => ?_⟩
    -- the bounds that the filter holds are the days of the texts
    have hlower : ((given? ps startRule.param).all fun text => startRule.holds text (Entity.toJson t)) =
        ((given? ps "start_date").bind dayOf?).all fun d => decide (d ≤ t.timestamp.date) := by
      cases hgiven : given? ps startRule.param with
      | none =>
        rw [show given? ps "start_date" = none from hgiven]
        rfl
      | some text =>
        obtain ⟨d, hd⟩ := exists_day_of_fine hstart nofun hgiven
        rw [show given? ps "start_date" = some text from hgiven, Option.bind_some, hd, Option.all_some, Option.all_some,
          startRule_holds hd]
    have hupper : ((given? ps endRule.param).all fun text => endRule.holds text (Entity.toJson t)) =
        ((given? ps "end_date").bind dayOf?).all fun d => decide (t.timestamp.date ≤ d) := by
      cases hgiven : given? ps endRule.param with
      | none =>
        rw [show given? ps "end_date" = none from hgiven]
        rfl
      | some text =>
        obtain ⟨d, hd⟩ := exists_day_of_fine hend nofun hgiven
        rw [show given? ps "end_date" = some text from hgiven, Option.bind_some, hd, Option.all_some, Option.all_some,
          endRule_holds hd]
    have haccount : ((given? ps accountRule.param).all fun text => accountRule.holds text (Entity.toJson t)) =
        Criterion.admits (Criterion.present (ps.text? "account_id")) t.accountId :=
      holds_equals ps (Entity.toJson t) t.accountId rfl
    rw [selects, transactionRules, List.all_cons, List.all_cons, List.all_cons, List.all_nil, Bool.and_true, hlower,
      hupper, haccount, ← Bool.and_assoc]
    rfl

/-! ## Further criteria -/

/-- the parameters with a text for one more -/
def also (ps : Parameters) (param text : String) : Parameters :=
  { ps with texts := (param, text) :: ps.texts }

/-- the parameters with the written forms of two days, from the first to the second -/
def between (ps : Parameters) (start stop : Date) : Parameters :=
  also (also ps "start_date" start.text) "end_date" stop.text

theorem given?_also (ps : Parameters) (param text p : String) :
    given? (also ps param text) p = if p = param then (some text).filter (fun s => s ≠ "") else given? ps p := by
  have hlookup : (also ps param text).text? p = if p = param then some text else ps.text? p := by
    show ((param, text) :: ps.texts).lookup p = _
    rw [List.lookup_cons]
    by_cases hp : p = param
    · simp [hp]
    · rw [if_neg hp, beq_eq_false_iff_ne.2 hp]
      rfl
  unfold given?
  rw [hlookup]
  by_cases hp : p = param
  · rw [if_pos hp, if_pos hp]
  · rw [if_neg hp, if_neg hp]

/-- a criterion that is given holds of whatever is selected -/
theorem holds_of_selects {rules : List Rule} {ps : Parameters} {record : Json} (h : selects rules ps record = true)
    {r : Rule} (hr : r ∈ rules) {text : String} (htext : given? ps r.param = some text) :
    r.holds text record = true := by
  have hrule := List.all_eq_true.1 h r hr
  rwa [htext, Option.all_some] at hrule

/-- **One criterion more selects, of what was selected, what it selects by itself.** -/
theorem selected_also {α : Type} [Entity α] (rules : List Rule) {ps : Parameters} {param : String}
    (h : given? ps param = none) (text : String) (records : List α) :
    selected rules (also ps param text) records =
      (selected rules ps records).filter fun a => selects rules (also .empty param text) (Entity.toJson a) := by
  have hnone : ∀ p, given? .empty p = none := fun _ => rfl
  rw [selected, selected, List.filter_filter]
  refine List.filter_congr fun a _ => ?_
  rw [Bool.eq_iff_iff, Bool.and_eq_true]
  simp only [selects, List.all_eq_true, ← forall_and]
  refine forall_congr' fun r => imp_congr_right fun _ => ?_
  by_cases hp : r.param = param
  · rw [given?_also, given?_also, if_pos hp, if_pos hp, hp, h]
    simp
  · rw [given?_also, given?_also, if_neg hp, if_neg hp, hnone]
    simp

/-- a status that no loan has selects none -/
theorem selected_unknown_status {ps : Parameters} {text : String} (hgiven : given? ps "status" = some text)
    (hunknown : text ∉ Named.names LoanStatus) (loans : List Loan) : selected loanRules ps loans = [] := by
  refine List.filter_eq_nil_iff.2 fun l _ hselects => hunknown ?_
  have hholds : Rule.holds ⟨"status", "status", .equals⟩ text (Entity.toJson l) = true :=
    holds_of_selects hselects (by simp [loanRules]) hgiven
  have hname : some (Named.name l.status) = some text := beq_iff_eq.1 hholds
  rw [← Option.some.inj hname]
  exact Named.name_mem_names l.status

/-- a start after the end selects nothing -/
theorem selected_inverted {ps : Parameters} {lower upper : String} {start stop : Date}
    (hlower : given? ps "start_date" = some lower) (hupper : given? ps "end_date" = some upper)
    (hstart : dayOf? lower = some start) (hstop : dayOf? upper = some stop) (h : stop.Before start)
    (ts : List Transaction) : selected transactionRules ps ts = [] := by
  refine List.filter_eq_nil_iff.2 fun t _ hselects => ?_
  have hfrom := holds_of_selects hselects (r := startRule) (by simp [transactionRules]) hlower
  have hto := holds_of_selects hselects (r := endRule) (by simp [transactionRules]) hupper
  rw [startRule_holds hstart, decide_eq_true_eq, Date.le_def] at hfrom
  rw [endRule_holds hstop, decide_eq_true_eq, Date.le_def] at hto
  have hlt := h.dayNumber_lt
  omega

/-- two lists part a third: each keeps its order, and together they hold what it holds -/
structure Parts {α : Type} (first rest all : List α) : Prop where
  first_ordered : first.Sublist all
  rest_ordered : rest.Sublist all
  together : (first ++ rest).Perm all

theorem parts_filter {α : Type} (p : α → Bool) (all : List α) : Parts (all.filter p) (all.filter fun a => !p a) all :=
  ⟨List.filter_sublist, List.filter_sublist, List.filter_append_perm p all⟩

theorem Parts.length {α : Type} {first rest all : List α} (h : Parts first rest all) :
    first.length + rest.length = all.length := by
  rw [← List.length_append]
  exact h.together.length_eq

theorem dayOf?_text (d : Date) : dayOf? d.text = some d :=
  (dayOf?_eq_some_iff _ d).2 (Date.read_text d)

/-- the written form of a day is given -/
theorem filter_text (d : Date) : (some d.text).filter (fun s => s ≠ "") = some d.text := by
  have hne : d.text ≠ "" := by
    intro h
    have hempty : dayOf? "" = none := rfl
    rw [← h, dayOf?_text] at hempty
    exact absurd hempty nofun
  simp [hne]

/-- between two days are the movements on the account of the query whose day is not outside -/
theorem selects_between (ps : Parameters) (start stop : Date) (t : Transaction) :
    selects transactionRules (between ps start stop) (Entity.toJson t) =
      (((given? ps "account_id").all fun text => accountRule.holds text (Entity.toJson t)) &&
        (decide (start ≤ t.timestamp.date) && decide (t.timestamp.date ≤ stop))) := by
  have haccount : given? (between ps start stop) accountRule.param = given? ps "account_id" := by
    rw [between, given?_also, given?_also]
    rfl
  have hstart : given? (between ps start stop) startRule.param = some start.text := by
    rw [between, given?_also, given?_also]
    exact filter_text start
  have hstop : given? (between ps start stop) endRule.param = some stop.text := by
    rw [between, given?_also]
    exact filter_text stop
  rw [selects, transactionRules, List.all_cons, List.all_cons, List.all_cons, List.all_nil, Bool.and_true, haccount,
    hstart, hstop, Option.all_some, Option.all_some, startRule_holds (dayOf?_text start),
    endRule_holds (dayOf?_text stop)]

/-- **Days that are parted in two part what they select**: into the movements up to the day, and those from the next day
on. -/
theorem selected_between (ps : Parameters) {start day stop next : Date} (hnext : day.next? = some next)
    (hstart : ¬ day.Before start) (hstop : day.Before stop) (ts : List Transaction) :
    Parts (selected transactionRules (between ps start day) ts) (selected transactionRules (between ps next stop) ts)
      (selected transactionRules (between ps start stop) ts) := by
  have hle := (Date.le_def _ _).1 ((Date.not_before_iff _ _).1 hstart)
  have hlt := hstop.dayNumber_lt
  have hnumber := Date.dayNumber_next? day next hnext
  -- the day tells which part a movement is in
  have hfirst : selected transactionRules (between ps start day) ts =
      (selected transactionRules (between ps start stop) ts).filter fun t => decide (t.timestamp.date ≤ day) := by
    simp only [selected, List.filter_filter]
    refine List.filter_congr fun t _ => ?_
    rw [selects_between, selects_between, Bool.eq_iff_iff]
    simp only [Bool.and_eq_true, decide_eq_true_eq, Date.le_def]
    constructor
    · rintro ⟨haccount, hlower, hupper⟩
      exact ⟨hupper, haccount, hlower, by omega⟩
    · rintro ⟨hupper, haccount, hlower, -⟩
      exact ⟨haccount, hlower, hupper⟩
  have hrest : selected transactionRules (between ps next stop) ts =
      (selected transactionRules (between ps start stop) ts).filter fun t => !decide (t.timestamp.date ≤ day) := by
    simp only [selected, List.filter_filter]
    refine List.filter_congr fun t _ => ?_
    rw [selects_between, selects_between, Bool.eq_iff_iff]
    simp only [Bool.and_eq_true, Bool.not_eq_true', decide_eq_true_eq, decide_eq_false_iff_not, Date.le_def]
    constructor
    · rintro ⟨haccount, hlower, hupper⟩
      exact ⟨by omega, haccount, by omega, hupper⟩
    · rintro ⟨hafter, haccount, -, hupper⟩
      exact ⟨haccount, by omega, hupper⟩
  rw [hfirst, hrest]
  exact parts_filter _ _

end Listing

open Listing in
/-- **Lists answer exactly the query.** Each of the four lists refuses a query whose page, limit or days are out of
order, and names the first offender; it shows the page of the records of which every criterion that is given holds, as
they are written.  So a further criterion selects among what was selected, a status that no loan has and a start after
the end select nothing, and a range of days that is parted in two selects what its parts select. -/
theorem lists_answer_queries (b : Bank) :
    Serves (fun r => Api.view b r .accounts) (Api.listAccounts b) holderRules b.accounts.toList ∧
    Serves (fun r => Api.view b r .cards) (Api.listCards b) holderRules b.cards.toList ∧
    Serves (fun r => Api.view b r .transactions) (Api.listTransactions b) transactionRules b.transactions.toList ∧
    Serves (fun r => Api.view b r .loans) (Api.listLoans b) loanRules b.loans.toList ∧
    (∀ {α : Type} [Entity α] (rules : List Rule) (ps : Parameters) (param text : String) (records : List α),
      given? ps param = none → selected rules (also ps param text) records =
        (selected rules ps records).filter fun a => selects rules (also .empty param text) (Entity.toJson a)) ∧
    (∀ (ps : Parameters) (text : String), given? ps "status" = some text → text ∉ Named.names LoanStatus →
      selected loanRules ps b.loans.toList = []) ∧
    (∀ (ps : Parameters) (lower upper : String) (start stop : Date), given? ps "start_date" = some lower →
      given? ps "end_date" = some upper → dayOf? lower = some start → dayOf? upper = some stop → stop.Before start →
      selected transactionRules ps b.transactions.toList = []) ∧
    ∀ (ps : Parameters) (start day stop : Date), ¬ day.Before start → day.Before stop →
      ∃ next, day.next? = some next ∧
        Parts (selected transactionRules (between ps start day) b.transactions.toList)
          (selected transactionRules (between ps next stop) b.transactions.toList)
          (selected transactionRules (between ps start stop) b.transactions.toList) := by
  refine ⟨serves_accounts b, serves_cards b, serves_transactions b, serves_loans b, ?_, ?_, ?_, ?_⟩
  · exact fun rules ps param text records h => selected_also rules h text records
  · exact fun ps text hgiven hunknown => selected_unknown_status hgiven hunknown _
  · exact fun ps lower upper start stop hlower hupper hstart hstop h =>
      selected_inverted hlower hupper hstart hstop h _
  · intro ps start day stop hstart hstop
    have hlast : day.dayNumber < Date.latest.dayNumber :=
      Int.lt_of_lt_of_le hstop.dayNumber_lt (Date.le_latest stop)
    obtain ⟨next, hnext⟩ := Date.exists_next? hlast
    exact ⟨next, hnext, selected_between ps hnext hstart hstop _⟩

/-- the last day of a year that ended in a leap second -/
def yearEnd : Date :=
  ⟨2016, 12, 31, by decide⟩

def newYear : Date :=
  ⟨2017, 1, 1, by decide⟩

def payment (id : String) (t : DateTime) : Transaction :=
  ⟨id, "a-1", .payment, .ofNat false 0, "USD", none, .completed, t, none, none⟩

open Listing in
/-- of a payment in a leap second and one at the midnight after it each is on its day, and both are on the two days
together -/
theorem lists_answer_queries_turnOfYear :
    ∃ (b : Bank) (leap midnight : DateTime), leap.text = "2016-12-31T23:59:60" ∧ midnight.text = "2017-01-01T00:00:00" ∧
      b.transactions.toList = [payment "t-1" leap, payment "t-2" midnight] ∧ Date.next? yearEnd = some newYear ∧
      selected transactionRules (between .empty yearEnd yearEnd) b.transactions.toList = [payment "t-1" leap] ∧
      selected transactionRules (between .empty newYear newYear) b.transactions.toList = [payment "t-2" midnight] ∧
      (selected transactionRules (between .empty yearEnd newYear) b.transactions.toList).length = 2 := by
  let leap : DateTime := ⟨yearEnd, 23, 59, 59, 1000000000, by decide, by decide, by decide, by decide⟩
  let midnight : DateTime := newYear.at 0 0
  let b : Bank := { Bank.empty with transactions := ⟨#[payment "t-1" leap, payment "t-2" midnight], ∅⟩ }
  have hfirst : selected transactionRules (between .empty yearEnd yearEnd) b.transactions.toList =
      [payment "t-1" leap] := by
    have hleap :
        selects transactionRules (between .empty yearEnd yearEnd) (Entity.toJson (payment "t-1" leap)) = true := by
      decide +kernel
    have hmidnight : selects transactionRules (between .empty yearEnd yearEnd)
        (Entity.toJson (payment "t-2" midnight)) = false := by
      decide +kernel
    show [payment "t-1" leap, payment "t-2" midnight].filter _ = _
    simp [hleap, hmidnight]
  have hrest : selected transactionRules (between .empty newYear newYear) b.transactions.toList =
      [payment "t-2" midnight] := by
    have hleap :
        selects transactionRules (between .empty newYear newYear) (Entity.toJson (payment "t-1" leap)) = false := by
      decide +kernel
    have hmidnight : selects transactionRules (between .empty newYear newYear)
        (Entity.toJson (payment "t-2" midnight)) = true := by
      decide +kernel
    show [payment "t-1" leap, payment "t-2" midnight].filter _ = _
    simp [hleap, hmidnight]
  obtain ⟨-, -, -, -, -, -, -, hparted⟩ := lists_answer_queries b
  obtain ⟨next, hnext, hparts⟩ := hparted .empty yearEnd yearEnd newYear (by decide) (by decide)
  have hday : Date.next? yearEnd = some newYear := by decide
  obtain rfl := Option.some.inj (hday.symm.trans hnext)
  refine ⟨b, leap, midnight, by decide, by decide, rfl, hday, hfirst, hrest, ?_⟩
  rw [← hparts.length, hfirst, hrest]
  rfl

end MockBank
