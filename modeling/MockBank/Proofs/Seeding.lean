/-
Filling a bank, whatever the random words.  The records that are made up are always there: only the supply of ids can
give out.  Rows are appended customer by customer and account by account; every account is its customer's and every card
its account's, then and after any later requests.

- `Draw.Total`: what always comes of a draw, with a rule for each combinator; made-up profiles, accounts and cards are
  there as long as their days are in the calendar (`Synthetic.total_profile`, `total_account`, `total_card`).
- `Synthetic.Adds`: what is appended between two stages of a filling, one lemma for each kind of record.
- `Draw.Delivers`, `Synthetic.GivesOut`: a filling goes on, or stops at a record that finds every id in use; from one
  account to all customers (`delivers_addAccount`, `delivers_addAccounts`, `delivers_addCustomers`).
- `Synthetic.Linked`: accounts and cards refer to what is stored, as they do wherever their rows are found under exact
  indexes (`linked_of_stored`).
- `Synthetic.Seeds`: the rows that filling a bank appends; `Synthetic.exists_populate`: filling comes to an end if new
  ids keep coming up.
- `populate_builds_graph`: all of this, whatever the clock says after its first reading.
-/
import Mathlib.Data.List.Perm.Subperm
import MockBank.Proofs.Creation
import MockBank.Proofs.DayCount
import MockBank.Proofs.Drawing
import MockBank.Proofs.Index

namespace MockBank

/-! ## Draws that give a value -/

namespace Draw

variable {α β : Type}

/-- a value comes of a draw, whatever the words -/
def Total (d : Draw α) : Prop :=
  ∀ s, ∃ r, d s = some r

theorem total_pure (a : α) : (pure a : Draw α).Total :=
  fun s => ⟨(a, s), rfl⟩

theorem total_word (w : Width) : (word w).Total :=
  fun s => ⟨(w.take s.next.1, s.next.2), rfl⟩

theorem total_ofOption {o : Option α} (h : ∃ a, o = some a) : (ofOption o).Total := by
  obtain ⟨a, rfl⟩ := h
  exact fun s => ⟨(a, s), rfl⟩

theorem Total.bind {d : Draw α} {f : α → Draw β} {P : α → Prop} (h : d.Total) (hP : d.Ensures P)
    (hf : ∀ a, P a → (f a).Total) : (d >>= f).Total := by
  intro s
  obtain ⟨⟨a, s'⟩, ha⟩ := h s
  obtain ⟨r, hr⟩ := hf a (hP s a s' ha) s'
  exact ⟨r, Option.bind_eq_some_iff.2 ⟨(a, s'), ha, hr⟩⟩

/-- a draw whose value does not matter -/
theorem Total.after {d : Draw α} {f : α → Draw β} (h : d.Total) (hf : ∀ a, (f a).Total) : (d >>= f).Total :=
  h.bind (ensures_true d) fun a _ => hf a

theorem total_below (w : Width) (n : Nat) : (below w n).Total := by
  refine (total_word w).after fun x => ?_
  dsimp only
  split
  · exact (total_word w).after fun y => total_pure _
  · exact total_pure _

theorem total_between (w : Width) (low high : Nat) : (between w low high).Total :=
  (total_below w _).after fun _ => total_pure _

theorem total_digits (n : Nat) : (digits n).Total := by
  induction n with
  | zero => exact total_pure []
  | succ n ih => exact (total_below .half 10).after fun d => ih.after fun rest => total_pure _

/-- what always comes of a draw is like all that ever comes of it -/
theorem Total.exists_ensured {d : Draw α} {P : α → Prop} (h : d.Total) (hP : d.Ensures P) (s : Source) :
    ∃ a s', d s = some (a, s') ∧ P a := by
  obtain ⟨⟨a, s'⟩, ha⟩ := h s
  exact ⟨a, s', ha, hP s a s' ha⟩

/-- a draw gives a value that satisfies a condition, or it gives nothing and the reason holds -/
def Delivers (d : Draw α) (P : α → Prop) (reason : Prop) : Prop :=
  ∀ s, (∃ a s', d s = some (a, s') ∧ P a) ∨ d s = none ∧ reason

variable {P Q : α → Prop} {R : β → Prop} {reason reason' : Prop}

theorem Total.delivers {d : Draw α} (h : d.Total) (hP : d.Ensures P) : d.Delivers P reason :=
  fun s => .inl (h.exists_ensured hP s)

/-- a draw that always gives a value unless the reason holds -/
theorem Ensures.delivers {d : Draw α} (hP : d.Ensures P) (htotal : ¬ reason → d.Total) : d.Delivers P reason := by
  intro s
  by_cases hreason : reason
  · cases hs : d s with
    | some r => exact .inl ⟨r.1, r.2, rfl, hP s r.1 r.2 hs⟩
    | none => exact .inr ⟨rfl, hreason⟩
  · exact (htotal hreason).delivers hP s

theorem delivers_pure {a : α} (h : P a) : (pure a : Draw α).Delivers P reason :=
  (total_pure a).delivers (ensures_pure h)

theorem delivers_ofOption {o : Option α} (hsome : ∀ a, o = some a → P a) (hnone : o = none → reason) :
    (ofOption o).Delivers P reason := by
  intro s
  cases o with
  | some a => exact .inl ⟨a, s, rfl, hsome a rfl⟩
  | none => exact .inr ⟨rfl, hnone rfl⟩

theorem Delivers.bind {d : Draw α} {f : α → Draw β} (h : d.Delivers P reason)
    (hf : ∀ a, P a → (f a).Delivers R reason) : (d >>= f).Delivers R reason := by
  intro s
  rcases h s with ⟨a, s', ha, hP⟩ | ⟨hnone, hreason⟩
  · rw [bind_eq_of_eq_some ha]
    exact hf a hP s'
  · refine .inr ⟨?_, hreason⟩
    show (d s).bind _ = none
    rw [hnone]
    rfl

theorem Delivers.mono {d : Draw α} (h : d.Delivers P reason) (hP : ∀ a, P a → Q a) (hreason : reason → reason') :
    d.Delivers Q reason' := by
  intro s
  rcases h s with ⟨a, s', ha, hPa⟩ | ⟨hnone, hr⟩
  · exact .inl ⟨a, s', ha, hP a hPa⟩
  · exact .inr ⟨hnone, hreason hr⟩

end Draw

/-! ## Made-up records are there -/

namespace Synthetic

open Arithmetic (unbounded)
open Draw

theorem total_pick {α : Type} {items : List α} (h : 0 < items.length) : (unbounded.pick items).Total :=
  (total_below .half _).bind (ensures_below .half h) fun i hi =>
    total_ofOption ⟨items[i], List.getElem?_eq_getElem hi⟩

theorem total_cardNumber : cardNumber.Total :=
  (total_digits 14).after fun _ => (total_ofOption ⟨_, rfl⟩).after fun _ => total_pure _

theorem total_dateThisYear (today : Date) : (dateThisYear today).Total :=
  (total_between .full _ _).bind (ensures_between .full (Nat.zero_le _)) fun _ hdays =>
    total_ofOption (Date.exists_earlier?_of_le_ordinal hdays.2)

theorem total_email (firstName lastName : String) : (unbounded.email firstName lastName).Total :=
  (total_between .half _ _).after fun _ => (total_pick (by decide)).after fun _ => total_pure _

theorem total_phone : unbounded.phone.Total :=
  (total_between .half _ _).after fun _ => (total_digits 3).after fun _ => (total_digits 4).after fun _ => total_pure _

theorem total_address (place : Locality) : (unbounded.address place).Total :=
  (total_between .half _ _).after fun _ => (total_pick (by decide)).after fun _ => (total_digits 5).after fun _ =>
    total_pure _

theorem total_amount (low high : Nat) : (unbounded.amount low high).Total :=
  (total_between .half _ _).after fun _ => total_pure _

/-- **A profile is there if the calendar reaches back to the oldest customer's day of birth.** -/
theorem total_profile {today : Date} (h : Date.earliest.dayNumber + maxAgeDays ≤ today.dayNumber) :
    (profile today).Total := by
  unfold profile Arithmetic.profile
  refine (total_pick (by decide)).after fun firstName => (total_pick (by decide)).after fun lastName =>
    (total_pick (by decide)).after fun place => (total_pick (by decide)).after fun customerType =>
    (total_email _ _).after fun mail => total_phone.after fun telephone =>
    (total_between .full _ _).bind (ensures_between .full (by decide)) fun age hage => ?_
  obtain ⟨birth, hbirth, -⟩ := Date.exists_earlier? (n := age) (d := today) (by omega)
  rw [Arithmetic.unbounded_days, ofOption_bind]
  exact (total_ofOption ⟨birth, hbirth⟩).after fun _ => (total_address place).after fun _ =>
    (total_pick (by decide)).after fun _ => (total_pick (by decide)).after fun _ => total_pure _

theorem total_account (customerId : String) (today : Date) (now : DateTime) : (account customerId today now).Total := by
  unfold account Arithmetic.account
  exact (total_pick (by decide)).after fun _ => total_cardNumber.after fun _ => (total_amount _ _).after fun _ =>
    (total_amount _ _).after fun _ => (total_amount _ _).after fun _ => (total_dateThisYear today).after fun _ =>
    total_pure _

/-- **A card is there if the calendar goes on for another thirty days.** -/
theorem total_card (a : Account) {today : Date} (h : today.dayNumber + 30 ≤ Date.latest.dayNumber) :
    (card a today).Total := by
  unfold card Arithmetic.card
  refine (total_pick (by decide)).after fun cardType => total_cardNumber.after fun number =>
    (total_between .full _ _).bind (ensures_between .full (by decide)) fun n hn => ?_
  obtain ⟨expiry, hexpiry, -⟩ := Date.exists_later? (n := n) (d := today) (by omega)
  rw [Arithmetic.unbounded_days, ofOption_bind]
  exact (total_ofOption ⟨expiry, hexpiry⟩).after fun _ => (total_between .half _ _).after fun _ =>
    (total_amount _ _).after fun _ => (total_amount _ _).after fun _ => (total_dateThisYear today).after fun _ =>
    total_pure _

end Synthetic

/-! ## Ids in use -/

def Shelf.ids {α : Type} (s : Shelf α) (b : Bank) : List String :=
  @Collection.ids α s.identified (s.read b)

/-- the ids in use -/
def Bank.ids (b : Bank) : List String :=
  b.customers.ids ++ b.accounts.ids ++ b.cards.ids ++ b.transactions.ids ++ b.loans.ids

theorem Bank.mem_ids_iff (b : Bank) (id : String) : id ∈ b.ids ↔ ∃ (α : Type) (s : Shelf α), id ∈ s.ids b := by
  simp only [Bank.ids, List.mem_append]
  constructor
  · rintro ((((hid | hid) | hid) | hid) | hid)
    · exact ⟨_, .customers, hid⟩
    · exact ⟨_, .accounts, hid⟩
    · exact ⟨_, .cards, hid⟩
    · exact ⟨_, .transactions, hid⟩
    · exact ⟨_, .loans, hid⟩
  · rintro ⟨α, s, hid⟩
    cases s with
    | customers => exact .inl (.inl (.inl (.inl hid)))
    | accounts => exact .inl (.inl (.inl (.inr hid)))
    | cards => exact .inl (.inl (.inr hid))
    | transactions => exact .inl (.inr hid)
    | loans => exact .inr hid

/-- what is in use stays in use -/
theorem Bank.Grows.ids_subset {b b' : Bank} (h : b.Grows b') : b.ids ⊆ b'.ids := by
  intro id hid
  obtain ⟨α, s, hid⟩ := (b.mem_ids_iff id).1 hid
  exact (b'.mem_ids_iff id).2 ⟨α, s, ((h α s).map _).subset hid⟩

/-- if every candidate is in use or one of some more ids, these are as many as were spare -/
theorem Spare.le_length {used : String → Prop} {ids more : List String} {n : Nat} (h : Spare used ids n)
    (hall : ∀ id ∈ ids, used id ∨ id ∈ more) : n ≤ more.length := by
  obtain ⟨fresh, hnodup, hlength, hfresh⟩ := h
  have hsubset : fresh ⊆ more := fun id hid => (hall id (hfresh id hid).1).resolve_left (hfresh id hid).2
  exact Nat.le_trans hlength (hnodup.subperm hsubset).length_le

/-- **What adding a record to a bank with exact indexes does.** The candidates that are gone are in use. -/
theorem Bank.Indexed.inserted {α : Type} {s : Shelf α} {b b' : Bank} {ids left : List String} {build : String → α}
    {r : α} (hb : b.Indexed) (hbuild : ∀ id, s.identified.id (build id) = id)
    (h : s.insert? b ids build = some (r, b', left)) :
    (∃ id, r = build id) ∧ (s.read b').toList = (s.read b).toList ++ [r] ∧ b'.Indexed ∧
      ∃ gone, ids = gone ++ left ∧ ∀ id ∈ gone, id ∈ b'.ids := by
  have hindexed := hb.insert? hbuild h
  have hgrows := Shelf.grows h
  obtain ⟨c, hc, rfl⟩ := Shelf.insert?_eq_some h
  obtain ⟨skipped, id, hids, hskipped, -, hr, -⟩ := (@Collection.insert?_eq_some_iff α s.identified _ _ _ _).1 hc
  have hlist : (s.read (s.write b c)).toList = (s.read b).toList ++ [r] := by
    rw [s.read_write, @Collection.toList_insert? α s.identified _ _ _ _ hc]
  refine ⟨⟨id, hr⟩, hlist, hindexed, skipped ++ [id], by rw [hids]; simp, ?_⟩
  intro x hx
  rcases List.mem_append.1 hx with hx | hx
  · have hused := (@Collection.Indexed.contains_iff_mem_ids α s.identified _ (hb α s) x).1 (hskipped x hx)
    exact hgrows.ids_subset ((b.mem_ids_iff x).2 ⟨α, s, hused⟩)
  · obtain rfl := List.mem_singleton.1 hx
    refine ((s.write b c).mem_ids_iff x).2 ⟨α, s, List.mem_map.2 ⟨r, ?_, ?_⟩⟩
    · rw [hlist]
      exact List.mem_append_right _ List.mem_cons_self
    · rw [show r = build x from hr, hbuild]

/-- nothing comes of a record only if every candidate is in use on its shelf -/
theorem Bank.Indexed.used_of_insert?_eq_none {α : Type} {s : Shelf α} {b : Bank} {ids : List String}
    {build : String → α} (hb : b.Indexed) (h : s.insert? b ids build = none) : ∀ id ∈ ids, id ∈ s.ids b := by
  intro id hid
  have hnone := Option.map_eq_none_iff.1 h
  exact (@Collection.Indexed.contains_iff_mem_ids α s.identified _ (hb α s) id).1
    ((@Collection.insert?_eq_none_iff α s.identified _ _ _).1 hnone id hid)

namespace Synthetic

open Draw

/-! ## What is appended between two stages -/

/-- between two stages of a filling, some customers, accounts and cards are appended, each from a candidate id; the
candidates that are gone are in use -/
structure Adds (f f' : Filling) (cs : List Customer) (as : List Account) (ks : List Card) : Prop where
  customers : f'.bank.customers.toList = f.bank.customers.toList ++ cs
  accounts : f'.bank.accounts.toList = f.bank.accounts.toList ++ as
  cards : f'.bank.cards.toList = f.bank.cards.toList ++ ks
  transactions : f'.bank.transactions = f.bank.transactions
  loans : f'.bank.loans = f.bank.loans
  summary : f'.summary =
    ⟨f.summary.customers + cs.length, f.summary.accounts + as.length, f.summary.cards + ks.length⟩
  indexed : f'.bank.Indexed
  gone : ∃ gone, f.ids = gone ++ f'.ids ∧ ∀ id ∈ gone, id ∈ f'.bank.ids

namespace Adds

variable {f f' f'' : Filling} {cs cs' : List Customer} {as as' : List Account} {ks ks' : List Card}

theorem mem_ids_iff (h : Adds f f' cs as ks) (id : String) :
    id ∈ f'.bank.ids ↔ id ∈ f.bank.ids ∨ id ∈ cs.map Customer.id ++ as.map Account.id ++ ks.map Card.id := by
  simp only [Bank.ids, Collection.ids, h.customers, h.accounts, h.cards, h.transactions, h.loans, List.map_append,
    List.mem_append]
  tauto

theorem refl (h : f.bank.Indexed) : Adds f f [] [] [] :=
  ⟨by simp, by simp, by simp, rfl, rfl, rfl, h, [], rfl, fun id hid => absurd hid List.not_mem_nil⟩

theorem trans (h : Adds f f' cs as ks) (h' : Adds f' f'' cs' as' ks') :
    Adds f f'' (cs ++ cs') (as ++ as') (ks ++ ks') where
  customers := by rw [h'.customers, h.customers, List.append_assoc]
  accounts := by rw [h'.accounts, h.accounts, List.append_assoc]
  cards := by rw [h'.cards, h.cards, List.append_assoc]
  transactions := h'.transactions.trans h.transactions
  loans := h'.loans.trans h.loans
  summary := by simp only [h'.summary, h.summary, List.length_append, Nat.add_assoc]
  indexed := h'.indexed
  gone := by
    obtain ⟨gone, hids, hgone⟩ := h.gone
    obtain ⟨gone', hids', hgone'⟩ := h'.gone
    refine ⟨gone ++ gone', by rw [hids, hids', List.append_assoc], ?_⟩
    intro id hid
    rcases List.mem_append.1 hid with hid | hid
    · exact (h'.mem_ids_iff id).2 (.inl (hgone id hid))
    · exact hgone' id hid

/-- a customer is appended -/
theorem customer {ids : List String} {b : Bank} {now : DateTime} {p : Profile} {c : Customer} (h : f.bank.Indexed)
    (hadded : f.bank.addCustomer? f.ids now p = some (c, b, ids)) :
    Adds f ⟨b, ids, f.clock.next, { f.summary with customers := f.summary.customers + 1 }⟩ [c] [] [] := by
  rw [Bank.addCustomer?_eq_insert?] at hadded
  obtain ⟨-, hlist, hindexed, hgone⟩ := h.inserted (fun _ => rfl) hadded
  obtain ⟨_, -, rfl⟩ := Shelf.insert?_eq_some hadded
  exact ⟨hlist, (List.append_nil _).symm, (List.append_nil _).symm, rfl, rfl, rfl, hindexed, hgone⟩

/-- an account is appended -/
theorem account {ids : List String} {b : Bank} {build : String → Account} {a : Account} (h : f.bank.Indexed)
    (hbuild : ∀ id, (build id).id = id) (hadded : f.bank.addAccount? f.ids build = some (a, b, ids)) :
    Adds f ⟨b, ids, f.clock.next, { f.summary with accounts := f.summary.accounts + 1 }⟩ [] [a] [] := by
  rw [Bank.addAccount?_eq_insert?] at hadded
  obtain ⟨-, hlist, hindexed, hgone⟩ := h.inserted hbuild hadded
  obtain ⟨_, -, rfl⟩ := Shelf.insert?_eq_some hadded
  exact ⟨(List.append_nil _).symm, hlist, (List.append_nil _).symm, rfl, rfl, rfl, hindexed, hgone⟩

/-- a card is appended -/
theorem card {ids : List String} {b : Bank} {build : String → Card} {k : Card} (h : f.bank.Indexed)
    (hbuild : ∀ id, (build id).id = id) (hadded : f.bank.addCard? f.ids build = some (k, b, ids)) :
    Adds f ⟨b, ids, f.clock.next, { f.summary with cards := f.summary.cards + 1 }⟩ [] [] [k] := by
  rw [Bank.addCard?_eq_insert?] at hadded
  obtain ⟨-, hlist, hindexed, hgone⟩ := h.inserted hbuild hadded
  obtain ⟨_, -, rfl⟩ := Shelf.insert?_eq_some hadded
  exact ⟨(List.append_nil _).symm, (List.append_nil _).symm, hlist, rfl, rfl, rfl, hindexed, hgone⟩

end Adds

/-- every candidate that is left is in use on one shelf, so no record can be added to it -/
def Filling.Starved (f : Filling) : Prop :=
  ∃ (α : Type) (s : Shelf α), ∀ id ∈ f.ids, id ∈ s.ids f.bank

/-- a filling stops after at most so many records, at one that finds every candidate that is left in use -/
def GivesOut (f : Filling) (n : Nat) : Prop :=
  ∃ f' cs as ks, Adds f f' cs as ks ∧ cs.length + as.length + ks.length ≤ n ∧ f'.Starved

namespace GivesOut

variable {f f' : Filling} {cs : List Customer} {as : List Account} {ks : List Card} {n m : Nat}

theorem here {α : Type} {s : Shelf α} {build : String → α} (h : f.bank.Indexed)
    (hnone : s.insert? f.bank f.ids build = none) : GivesOut f n :=
  ⟨f, [], [], [], .refl h, Nat.zero_le _, α, s, h.used_of_insert?_eq_none hnone⟩

theorem mono (h : GivesOut f n) (hle : n ≤ m) : GivesOut f m := by
  obtain ⟨f', cs, as, ks, hadds, hcount, hstarved⟩ := h
  exact ⟨f', cs, as, ks, hadds, Nat.le_trans hcount hle, hstarved⟩

theorem after (hadds : Adds f f' cs as ks) (h : GivesOut f' n) (hle : cs.length + as.length + ks.length + n ≤ m) :
    GivesOut f m := by
  obtain ⟨f'', cs', as', ks', hadds', hcount, hstarved⟩ := h
  refine ⟨f'', _, _, _, hadds.trans hadds', ?_, hstarved⟩
  simp only [List.length_append]
  omega

/-- **A supply with that many spare ids does not give out.** -/
theorem false_of_spare (h : GivesOut f n) (hspare : Spare (· ∈ f.bank.ids) f.ids (n + 1)) : False := by
  obtain ⟨f', cs, as, ks, hadds, hcount, α, s, hstarved⟩ := h
  obtain ⟨gone, hids, hgone⟩ := hadds.gone
  have hall : ∀ id ∈ f.ids, id ∈ f.bank.ids ∨ id ∈ cs.map Customer.id ++ as.map Account.id ++ ks.map Card.id := by
    intro id hid
    rw [hids] at hid
    refine (hadds.mem_ids_iff id).1 ?_
    rcases List.mem_append.1 hid with hid | hid
    · exact hgone id hid
    · exact (f'.bank.mem_ids_iff id).2 ⟨α, s, hstarved id hid⟩
  have hle := hspare.le_length hall
  simp only [List.length_append, List.length_map] at hle
  omega

end GivesOut

/-! ## Cards for accounts -/

/-- one card for each account that is eligible, in the order of the accounts -/
def Issued (as : List Account) (ks : List Card) : Prop :=
  ks.map (fun k => (k.accountId, k.customerId)) =
    (as.filter fun a => a.accountType = .checking ∨ a.accountType = .savings).map fun a => (a.id, a.customerId)

theorem issued_nil : Issued [] [] := rfl

theorem Issued.append {as as' : List Account} {ks ks' : List Card} (h : Issued as ks) (h' : Issued as' ks') :
    Issued (as ++ as') (ks ++ ks') := by
  simp only [Issued, List.map_append, List.filter_append] at h h' ⊢
  rw [h, h']

theorem Issued.length_le {as : List Account} {ks : List Card} (h : Issued as ks) : ks.length ≤ as.length := by
  have hlength := congrArg List.length h
  simp only [List.length_map] at hlength
  rw [hlength]
  exact List.length_filter_le _ _

/-! ## Filling goes on, or stops for want of an id -/

variable {f : Filling} {today : Date}

theorem delivers_addCustomer (h : f.bank.Indexed) (hpast : Date.earliest.dayNumber + maxAgeDays ≤ today.dayNumber) :
    (addCustomer f today).Delivers (fun x => Adds f x.2 [x.1] [] []) (GivesOut f 0) := by
  unfold addCustomer
  refine ((total_profile hpast).delivers (ensures_true _)).bind fun p _ => ?_
  refine (delivers_ofOption (fun x hx => hx) (GivesOut.here (s := .customers) h)).bind fun x hx => delivers_pure ?_
  exact .customer h hx

theorem delivers_addCard (h : f.bank.Indexed) (hfuture : today.dayNumber + 30 ≤ Date.latest.dayNumber) (a : Account) :
    (addCard f a today).Delivers (fun f' => ∃ ks, Adds f f' [] [] ks ∧ Issued [a] ks) (GivesOut f 0) := by
  unfold addCard
  by_cases heligible : a.isCardEligible = true
  · rw [if_pos heligible]
    refine ((total_card a hfuture).delivers (ensures_card a today)).bind fun build hbuild => ?_
    refine (delivers_ofOption (fun x hx => hx) (GivesOut.here (s := .cards) h)).bind fun x hx => delivers_pure ?_
    obtain ⟨⟨id, hid⟩, -⟩ := h.inserted (s := .cards) (fun id => (hbuild id).1) hx
    refine ⟨[x.1], .card h (fun id => (hbuild id).1) hx, ?_⟩
    obtain ⟨-, haccount, hcustomer⟩ := hbuild id
    have hfilter : ([a].filter fun a => a.accountType = .checking ∨ a.accountType = .savings) = [a] := by
      simpa [Account.isCardEligible] using heligible
    rw [Issued, hfilter, hid, List.map_singleton, List.map_singleton, haccount, hcustomer]
  · rw [if_neg heligible]
    refine delivers_pure ⟨[], .refl h, ?_⟩
    have hfilter : ([a].filter fun a => a.accountType = .checking ∨ a.accountType = .savings) = [] := by
      simpa [Account.isCardEligible] using heligible
    rw [Issued, hfilter]
    rfl

theorem delivers_addAccount (h : f.bank.Indexed) (hfuture : today.dayNumber + 30 ≤ Date.latest.dayNumber)
    (customerId : String) :
    (addAccount f customerId today).Delivers
      (fun f' => ∃ a ks, Adds f f' [] [a] ks ∧ Issued [a] ks ∧ a.customerId = customerId) (GivesOut f 1) := by
  unfold addAccount
  refine ((total_account customerId today _).delivers (ensures_account customerId today _)).bind fun build hbuild => ?_
  refine (delivers_ofOption (fun x hx => hx) (GivesOut.here (s := .accounts) h)).bind fun x hx => ?_
  obtain ⟨⟨id, hid⟩, -⟩ := h.inserted (s := .accounts) (fun id => (hbuild id).1) hx
  have hadds := Adds.account h (fun id => (hbuild id).1) hx
  refine (delivers_addCard hadds.indexed hfuture x.1).mono ?_ fun hout => .after hadds hout (Nat.le_refl 1)
  rintro f' ⟨ks, hcard, hissued⟩
  refine ⟨x.1, ks, hadds.trans hcard, hissued, ?_⟩
  rw [hid]
  exact (hbuild id).2

theorem delivers_addAccounts (hfuture : today.dayNumber + 30 ≤ Date.latest.dayNumber) (customerId : String) (n : Nat)
    {f : Filling} (h : f.bank.Indexed) :
    (addAccounts customerId today n f).Delivers
      (fun f' => ∃ as ks, Adds f f' [] as ks ∧ Issued as ks ∧ as.length = n ∧ ∀ a ∈ as, a.customerId = customerId)
      (GivesOut f (2 * n)) := by
  induction n generalizing f with
  | zero => exact delivers_pure ⟨[], [], .refl h, issued_nil, rfl, fun a ha => absurd ha List.not_mem_nil⟩
  | succ n ih =>
    refine ((delivers_addAccount h hfuture customerId).mono (fun _ h => h) fun hout => hout.mono (by omega)).bind ?_
    rintro f₁ ⟨a, ks, hadds, hissued, hholder⟩
    have hcards := hissued.length_le
    refine (ih hadds.indexed).mono ?_ fun hout => .after hadds hout (by simp at hcards ⊢; omega)
    rintro f' ⟨as, ks', hadds', hissued', hlength, hholders⟩
    exact ⟨a :: as, ks ++ ks', hadds.trans hadds', hissued.append hissued', by simp [hlength],
      List.forall_mem_cons.2 ⟨hholder, hholders⟩⟩

/-- a customer has one to three accounts -/
def Holds (h : Customer × List Account) : Prop :=
  1 ≤ h.2.length ∧ h.2.length ≤ 3 ∧ ∀ a ∈ h.2, a.customerId = h.1.id

theorem delivers_addCustomers (hpast : Date.earliest.dayNumber + maxAgeDays ≤ today.dayNumber)
    (hfuture : today.dayNumber + 30 ≤ Date.latest.dayNumber) (n : Nat) {f : Filling} (h : f.bank.Indexed) :
    (addCustomers today n f).Delivers
      (fun f' => ∃ (holdings : List (Customer × List Account)) (ks : List Card), holdings.length = n ∧
        Adds f f' (holdings.map Prod.fst) (holdings.flatMap Prod.snd) ks ∧ Issued (holdings.flatMap Prod.snd) ks ∧
        ∀ held ∈ holdings, Holds held)
      (GivesOut f (7 * n)) := by
  induction n generalizing f with
  | zero => exact delivers_pure ⟨[], [], rfl, .refl h, issued_nil, fun held hheld => absurd hheld List.not_mem_nil⟩
  | succ n ih =>
    refine ((delivers_addCustomer h hpast).mono (fun _ h => h) fun hout => hout.mono (by omega)).bind ?_
    rintro ⟨c, f₁⟩ hcustomer
    refine ((total_between .half 1 maxAccounts).delivers (ensures_between .half (by decide))).bind ?_
    intro count hcount
    have hmax : count ≤ 3 := hcount.2
    refine ((delivers_addAccounts hfuture c.id count hcustomer.indexed).mono (fun _ h => h) fun hout =>
      .after hcustomer hout (by simp; omega)).bind ?_
    rintro f₂ ⟨as, ks, haccounts, hissued, hlength, hholders⟩
    have hcards := hissued.length_le
    have hadds := hcustomer.trans haccounts
    refine (ih hadds.indexed).mono ?_ fun hout => .after hadds hout (by simp; omega)
    rintro f' ⟨holdings, ks', hcount', hadds', hissued', hholdings⟩
    have hthis : Holds (c, as) := ⟨hlength ▸ hcount.1, hlength ▸ hmax, hholders⟩
    exact ⟨(c, as) :: holdings, ks ++ ks', by simp [hcount'], hadds.trans hadds', hissued.append hissued',
      List.forall_mem_cons.2 ⟨hthis, hholdings⟩⟩

end Synthetic

/-! ## References -/

namespace Bank

theorem Indexed.respond {b b' : Bank} {a : Arrival} {r : Response} (hb : b.Indexed)
    (h : Api.respond b a = some (r, b')) : b'.Indexed :=
  Api.respond_relates (R := fun b b' => b.Indexed → b'.Indexed) (fun _ hb => hb)
    (fun _ inserted hb => hb.insert? (s := .customers) (fun _ => rfl) inserted) h hb

theorem Indexed.run {b b' : Bank} {as : List Arrival} {rs : List Response} (hb : b.Indexed)
    (h : Api.run b as = some (rs, b')) : b'.Indexed :=
  Api.run_preserves Indexed.respond hb h

end Bank

namespace Synthetic

/-- the accounts are in the bank, each of the customer that its customer's id leads to; so are the cards, each of the
account that its account's id leads to, and of the same customer -/
structure Linked (b : Bank) (holdings : List (Customer × List Account)) (ks : List Card) : Prop where
  accounts : ∀ held ∈ holdings, ∀ a ∈ held.2,
    a ∈ b.accounts.toList ∧ b.customers.get? a.customerId = some held.1
  cards : ∀ k ∈ ks, k ∈ b.cards.toList ∧
    ∃ a ∈ holdings.flatMap Prod.snd, b.accounts.get? k.accountId = some a ∧ k.customerId = a.customerId

variable {b b' : Bank} {holdings : List (Customer × List Account)} {ks : List Card}

/-- what is stored under exact indexes is found -/
theorem linked_of_stored (hb : b.Indexed) (hcustomers : ∀ held ∈ holdings, held.1 ∈ b.customers.toList)
    (haccounts : ∀ a ∈ holdings.flatMap Prod.snd, a ∈ b.accounts.toList) (hcards : ∀ k ∈ ks, k ∈ b.cards.toList)
    (hholds : ∀ held ∈ holdings, Holds held) (hissued : Issued (holdings.flatMap Prod.snd) ks) :
    Linked b holdings ks where
  accounts held hheld a ha := by
    refine ⟨haccounts a (List.mem_flatMap.2 ⟨held, hheld, ha⟩), ?_⟩
    have hindexed : b.customers.Indexed := hb Customer .customers
    exact (hindexed.get?_eq_some_iff _ _).2 ⟨hcustomers held hheld, ((hholds held hheld).2.2 a ha).symm⟩
  cards k hk := by
    refine ⟨hcards k hk, ?_⟩
    -- the card's ids are those of one of the eligible accounts
    have hmem : (k.accountId, k.customerId) ∈ ks.map fun k => (k.accountId, k.customerId) :=
      List.mem_map.2 ⟨k, hk, rfl⟩
    rw [hissued] at hmem
    obtain ⟨a, ha, hpair⟩ := List.mem_map.1 hmem
    obtain ⟨haccount, hcustomer⟩ := Prod.mk.inj hpair
    have hstored : a ∈ holdings.flatMap Prod.snd := List.mem_of_mem_filter ha
    have hindexed : b.accounts.Indexed := hb Account .accounts
    exact ⟨a, hstored, (hindexed.get?_eq_some_iff _ _).2 ⟨haccounts a hstored, haccount⟩, hcustomer.symm⟩

/-- all that filling a bank appends to it: ten customers with one to three accounts each, in their order, and a card
for every account that is eligible, in the order of the accounts; movements and loans are untouched, the summary has
the three numbers, and accounts and cards refer to what is stored after any later requests -/
structure Seeds (b : Bank) (f : Filling) (holdings : List (Customer × List Account)) (ks : List Card) : Prop where
  ten : holdings.length = 10
  customers : f.bank.customers.toList = b.customers.toList ++ holdings.map Prod.fst
  accounts : f.bank.accounts.toList = b.accounts.toList ++ holdings.flatMap Prod.snd
  cards : f.bank.cards.toList = b.cards.toList ++ ks
  holds : ∀ held ∈ holdings, Holds held
  issued : Issued (holdings.flatMap Prod.snd) ks
  transactions : f.bank.transactions = b.transactions
  loans : f.bank.loans = b.loans
  summary : f.summary = ⟨10, (holdings.flatMap Prod.snd).length, ks.length⟩
  indexed : f.bank.Indexed
  linked : ∀ later rs b', Api.run f.bank later = some (rs, b') → Linked b' holdings ks

theorem seeds_of_adds {ids : List String} {clock : Clock} {f : Filling} (hten : holdings.length = 10)
    (hadds : Adds ⟨b, ids, clock, ⟨0, 0, 0⟩⟩ f (holdings.map Prod.fst) (holdings.flatMap Prod.snd) ks)
    (hissued : Issued (holdings.flatMap Prod.snd) ks) (hholds : ∀ held ∈ holdings, Holds held) :
    Seeds b f holdings ks where
  ten := hten
  customers := hadds.customers
  accounts := hadds.accounts
  cards := hadds.cards
  holds := hholds
  issued := hissued
  transactions := hadds.transactions
  loans := hadds.loans
  summary := by simp only [hadds.summary, List.length_map, hten, Nat.zero_add]
  indexed := hadds.indexed
  linked later rs b' hrun := by
    have hgrows : f.bank.Grows b' := Api.run_relates Bank.Grows.refl Bank.Grows.trans Api.respond_grows hrun
    have hcustomers : f.bank.customers.toList ⊆ b'.customers.toList := (hgrows Customer .customers).subset
    have haccounts : f.bank.accounts.toList ⊆ b'.accounts.toList := (hgrows Account .accounts).subset
    have hcards : f.bank.cards.toList ⊆ b'.cards.toList := (hgrows Card .cards).subset
    rw [hadds.customers] at hcustomers
    rw [hadds.accounts] at haccounts
    rw [hadds.cards] at hcards
    exact linked_of_stored (hadds.indexed.run hrun)
      (fun held hheld => hcustomers (List.mem_append_right _ (List.mem_map.2 ⟨held, hheld, rfl⟩)))
      (fun a ha => haccounts (List.mem_append_right _ ha)) (fun k hk => hcards (List.mem_append_right _ hk)) hholds
      hissued

section Populate

variable {clock : Clock} (hb : b.Indexed) (hpast : Date.earliest.dayNumber + maxAgeDays ≤ clock.now.date.dayNumber)
  (hfuture : clock.now.date.dayNumber + 30 ≤ Date.latest.dayNumber)

include hb hpast hfuture

/-- filling a bank appends all that it should, or gives out -/
theorem delivers_populate (ids : List String) :
    (populate b ids clock).Delivers (fun f => ∃ holdings ks, Seeds b f holdings ks)
      (GivesOut ⟨b, ids, clock.next, ⟨0, 0, 0⟩⟩ 70) := by
  refine (delivers_addCustomers hpast hfuture customerCount hb).mono ?_ fun hout => hout
  rintro f ⟨holdings, ks, hten, hadds, hissued, hholds⟩
  exact ⟨holdings, ks, seeds_of_adds hten hadds hissued hholds⟩

/-- it does not give out if new ids keep coming up -/
theorem exists_populate {ids : Nat → String} (hids : Unending ids) (words : Source) :
    ∃ k f left holdings ks, populate b (firstIds ids k) clock words = some (f, left) ∧ Seeds b f holdings ks := by
  obtain ⟨k, hspare⟩ := hids.spare b.ids 71
  rcases delivers_populate hb hpast hfuture (firstIds ids k) words with ⟨f, left, hf, holdings, ks, h⟩ | ⟨-, hout⟩
  · exact ⟨k, f, left, holdings, ks, hf, h⟩
  · exact absurd hspare hout.false_of_spare

end Populate

end Synthetic

open Synthetic in
/-- **Filling a bank builds a linked graph of records, whatever the random words.** The indexes of the bank are exact,
and the calendar reaches far enough around the day of the clock's first reading; the later readings, one for every
record, may be any.  Whenever filling comes to an end, ten customers with their accounts and cards are appended and
nothing else is changed.  It comes to no end only at a record that finds every candidate that is left in use, so a
supply in which new ids keep coming up is always enough. -/
theorem populate_builds_graph {b : Bank} (hb : b.Indexed) {clock : Clock}
    (hpast : Date.earliest.dayNumber + 85 * 365 ≤ clock.now.date.dayNumber)
    (hfuture : clock.now.date.dayNumber + 30 ≤ Date.latest.dayNumber) :
    (∀ candidates words f left, populate b candidates clock words = some (f, left) →
      ∃ holdings ks, Seeds b f holdings ks) ∧
    (∀ candidates words, populate b candidates clock words = none →
      GivesOut ⟨b, candidates, clock.next, ⟨0, 0, 0⟩⟩ 70) ∧
    ∀ ids, Unending ids → ∀ words, ∃ k f left, populate b (firstIds ids k) clock words = some (f, left) := by
  refine ⟨?_, ?_, ?_⟩
  · intro candidates words f left hf
    rcases delivers_populate hb hpast hfuture candidates words with ⟨f', left', hf', hseeds⟩ | ⟨hnone, -⟩
    · obtain ⟨rfl, rfl⟩ := Prod.mk.inj (Option.some.inj (hf.symm.trans hf'))
      exact hseeds
    · exact absurd (hf.symm.trans hnone) nofun
  · intro candidates words hnone
    rcases delivers_populate hb hpast hfuture candidates words with ⟨f', left', hf', -⟩ | ⟨-, hout⟩
    · exact absurd (hf'.symm.trans hnone) nofun
    · exact hout
  · intro ids hids words
    obtain ⟨k, f, left, -, -, hf, -⟩ := exists_populate hb hpast hfuture hids words
    exact ⟨k, f, left, hf⟩

/-- a new id every time: one mark more than before -/
def tally (n : Nat) : String :=
  String.ofList (List.replicate n 'i')

theorem tally_unending : Unending tally := by
  intro used
  by_contra hall
  have hall : ∀ k, tally k ∈ used := fun k => Classical.not_not.1 fun hk => hall ⟨k, hk⟩
  have hinjective : Function.Injective tally := by
    intro i j hij
    simpa [tally] using congrArg (fun s => s.toList.length) hij
  have hnodup : ((List.range (used.length + 1)).map tally).Nodup := List.nodup_range.map hinjective
  have hsubset : (List.range (used.length + 1)).map tally ⊆ used := by
    intro id hid
    obtain ⟨k, -, rfl⟩ := List.mem_map.1 hid
    exact hall k
  have hle := (hnodup.subperm hsubset).length_le
  simp only [List.length_map, List.length_range] at hle
  omega

/-- a clock that is put back by two months after every other reading, and put forward again -/
def swinging : Clock :=
  ⟨fun n => if n % 2 = 0 then (creation sentCustomer []).now else Date.start ⟨2024, 1, 1, firstOfMonth_exists⟩, 0⟩

open Synthetic in
/-- a bank with one customer is filled from words that are all zero, by a clock that does not only rise -/
theorem populate_builds_graph_swinging :
    ∃ c b k f left holdings ks, b.customers.toList = [c] ∧ ¬ swinging.now.date ≤ swinging.next.now.date ∧
      populate b (firstIds tally k) swinging (Source.cycle []) = some (f, left) ∧ Seeds b f holdings ks := by
  obtain ⟨p, hp⟩ := Wire.exists_of_isOk creation_accepted
  obtain ⟨_, b, c, _, hcreated, -, -, hadded⟩ :=
    Api.exists_created (b := .empty) creation_creates hp (Collection.exists_unused_of_empty "c-1")
  obtain ⟨-, -, -, hlist⟩ := Api.customer_of_insert? hadded
  have hindexed : b.Indexed := Bank.indexed_empty.respond hcreated
  obtain ⟨hseeds, -, hserved⟩ := @populate_builds_graph b hindexed swinging (by decide) (by decide)
  obtain ⟨k, f, left, hf⟩ := hserved tally tally_unending (Source.cycle [])
  obtain ⟨holdings, ks, h⟩ := hseeds _ _ _ _ hf
  exact ⟨c, b, k, f, left, holdings, ks, hlist, by decide, hf, h⟩

end MockBank
