/-
Made-up records, whatever words they are drawn from.  A rule for each way of drawing says what every value that comes
out of it satisfies; with them a made-up profile is a valid one, and filling a bank adds such profiles, accounts and
cards and nothing else.

- `Draw.Ensures`: what holds of every value that is drawn, with a rule for each combinator.
- `Draw.ensures_below`, `Draw.ensures_between`, `Synthetic.ensures_pick`: numbers are within their bounds, items are of
  their list.
- `Synthetic.ensures_profile`: a made-up profile can be mailed and has a country of two letters.
- `Synthetic.ensures_populate`: what each kind of addition preserves is preserved by filling a bank.
-/
import MockBank.Proofs.Growth
import MockBank.Proofs.WireForm
import MockBank.Synthetic.Populate

namespace MockBank

/-! ## Rules for drawing -/

namespace Draw

variable {α β : Type}

theorem bind_eq_of_eq_some {d : Draw α} {f : α → Draw β} {s s' : Source} {a : α} (h : d s = some (a, s')) :
    (d >>= f) s = f a s' := by
  show (d s).bind _ = _
  rw [h]
  rfl

/-- every value that is drawn, from whatever words, satisfies a condition -/
def Ensures (d : Draw α) (P : α → Prop) : Prop :=
  ∀ s a s', d s = some (a, s') → P a

theorem ensures_true (d : Draw α) : d.Ensures fun _ => True :=
  fun _ _ _ _ => trivial

theorem ensures_pure {a : α} {P : α → Prop} (h : P a) : (pure a : Draw α).Ensures P := by
  intro s b s' hs
  obtain ⟨rfl, -⟩ := Prod.mk.inj (Option.some.inj hs)
  exact h

theorem Ensures.bind {d : Draw α} {f : α → Draw β} {Q : α → Prop} {P : β → Prop} (h : d.Ensures Q)
    (hf : ∀ a, Q a → (f a).Ensures P) : (d >>= f).Ensures P := by
  intro s b s' hs
  obtain ⟨⟨a, s1⟩, ha, hb⟩ := Option.bind_eq_some_iff.1 hs
  exact hf a (h s a s1 ha) s1 b s' hb

theorem Ensures.and {d : Draw α} {P Q : α → Prop} (hP : d.Ensures P) (hQ : d.Ensures Q) :
    d.Ensures fun a => P a ∧ Q a :=
  fun s a s' hs => ⟨hP s a s' hs, hQ s a s' hs⟩

/-- a draw whose value does not matter -/
theorem ensures_after {d : Draw α} {f : α → Draw β} {P : β → Prop} (hf : ∀ a, (f a).Ensures P) :
    (d >>= f).Ensures P :=
  (ensures_true d).bind fun a _ => hf a

theorem ensures_ofOption {o : Option α} {P : α → Prop} (h : ∀ a, o = some a → P a) : (ofOption o).Ensures P := by
  intro s a s' hs
  obtain ⟨b, hb, hparts⟩ := Option.map_eq_some_iff.1 hs
  obtain ⟨rfl, -⟩ := Prod.mk.inj hparts
  exact h b hb

theorem ensures_word (w : Width) : (word w).Ensures fun x => x < w.size := by
  intro s x s' hs
  obtain ⟨rfl, -⟩ := Prod.mk.inj (Option.some.inj hs)
  exact w.take_lt _

/-- a word carries over into the number only where there is room for one more -/
theorem carry_lt {x n size : Nat} (hx : x < size) (hlow : size - n < x * n % size) : x * n / size + 1 < n := by
  have hsplit : size * (x * n / size) + x * n % size = x * n := Nat.div_add_mod _ _
  have hprod : x * n + n ≤ size * n := by
    rw [← Nat.succ_mul]
    exact Nat.mul_le_mul_right n hx
  refine Nat.lt_of_mul_lt_mul_left (a := size) ?_
  rw [Nat.mul_succ]
  omega

/-- **A number that is drawn is below its bound.** -/
theorem ensures_below (w : Width) {n : Nat} (hn : 0 < n) : (below w n).Ensures fun x => x < n := by
  refine (ensures_word w).bind fun x hx => ?_
  have hhigh : x * n / w.size < n := Nat.div_lt_of_lt_mul (Nat.mul_lt_mul_of_pos_right hx hn)
  dsimp only
  split
  · rename_i hlow
    refine ensures_after fun y => ensures_pure ?_
    split
    · exact carry_lt hx hlow
    · exact hhigh
  · exact ensures_pure hhigh

theorem ensures_between (w : Width) {low high : Nat} (hle : low ≤ high) :
    (between w low high).Ensures fun n => low ≤ n ∧ n ≤ high := by
  refine (ensures_below w (Nat.succ_pos _)).bind fun n hn => ensures_pure ?_
  omega

end Draw

/-! ## Mail addresses -/

namespace Email

/-- a domain that mail can be sent to, and that holds no at sign -/
def Reaches (domain : List Char) : Prop :=
  isDomain domain = true ∧ isDotted domain = true ∧ domain.length ≤ 255 ∧ '@' ∉ domain

instance (domain : List Char) : Decidable (Reaches domain) :=
  inferInstanceAs (Decidable (_ ∧ _))

/-- a user and a domain make an address -/
theorem isDeliverable_of_parts {user domain : String} (huser : isUser user.toList = true)
    (hdomain : Reaches domain.toList) : isDeliverable (user ++ "@" ++ domain) = true := by
  obtain ⟨hname, hdotted, hlength, hat⟩ := hdomain
  have hchars : (user ++ "@" ++ domain).toList = user.toList ++ '@' :: domain.toList := by
    simp [String.toList_append]
  rw [isDeliverable, hchars, Text.splitLast?_append _ hat]
  simp [huser, hname, hdotted, hlength]

end Email

namespace Synthetic

open Arithmetic (unbounded)
open Draw

theorem ensures_pick {α : Type} (items : List α) : (unbounded.pick items).Ensures fun a => a ∈ items :=
  ensures_after fun _ => ensures_ofOption fun _ ha => List.mem_of_getElem? ha

/-- a piece of a user: not too long, and made of the characters of users -/
def IsUserPart (limit : Nat) (part : String) : Prop :=
  part.toList.length ≤ limit ∧ part.toList.all Email.isUserChar = true

instance (limit : Nat) (part : String) : Decidable (IsUserPart limit part) :=
  inferInstanceAs (Decidable (_ ∧ _))

theorem firstNames_isUserPart : ∀ name ∈ firstNames, IsUserPart 20 (lower name) := by
  decide

theorem lastNames_isUserPart : ∀ name ∈ lastNames, IsUserPart 20 (lower name) := by
  decide

theorem numbers_isUserPart : ∀ n ∈ List.range 100, IsUserPart 2 (toString n) := by
  decide

theorem emailDomains_reaches : ∀ domain ∈ emailDomains, Email.Reaches domain.toList := by
  decide +kernel

/-- **A made-up mail address can be delivered to.** -/
theorem ensures_email {firstName lastName : String} (hfirst : firstName ∈ firstNames) (hlast : lastName ∈ lastNames) :
    (unbounded.email firstName lastName).Ensures fun mail => Email.isDeliverable mail = true := by
  unfold Arithmetic.email
  refine (ensures_between .half (by decide)).bind fun number hnumber => (ensures_pick _).bind fun domain hdomain =>
    ensures_pure (Email.isDeliverable_of_parts ?_ (emailDomains_reaches domain hdomain))
  obtain ⟨hfirstLength, hfirstChars⟩ := firstNames_isUserPart firstName hfirst
  obtain ⟨hlastLength, hlastChars⟩ := lastNames_isUserPart lastName hlast
  obtain ⟨hnumberLength, hnumberChars⟩ := numbers_isUserPart number (List.mem_range.2 (by omega))
  have hdot : (".".toList).all Email.isUserChar = true := by decide
  simp only [Email.isUser, String.toList_append, List.length_append, List.all_append, hfirstChars, hdot, hlastChars,
    hnumberChars, Bool.and_true, Bool.and_eq_true, decide_eq_true_eq]
  have hone : ".".toList.length = 1 := by decide
  omega

theorem ensures_address (place : Locality) :
    (unbounded.address place).Ensures fun a => a.country = place.country := by
  unfold Arithmetic.address
  refine ensures_after fun _ => ensures_after fun _ => ensures_after fun _ => ensures_pure rfl

/-- **A made-up profile is valid.** -/
theorem ensures_profile (today : Date) : (profile today).Ensures Profile.Valid := by
  unfold profile Arithmetic.profile
  refine (ensures_pick _).bind fun firstName hfirst => (ensures_pick _).bind fun lastName hlast =>
    (ensures_pick _).bind fun place hplace => ensures_after fun customerType =>
    (ensures_email hfirst hlast).bind fun mail hmail => ensures_after fun telephone => ensures_after fun age =>
    ensures_after fun days => ensures_after fun birth => (ensures_address place).bind fun home hhome =>
    ensures_after fun kycStatus => ensures_after fun riskProfile => ensures_pure ⟨hmail, ?_⟩
  have countries : ∀ p ∈ localities, p.country.length = 2 := by decide
  show home.country.length = 2
  rw [hhome]
  exact countries place hplace

/-! ## Filling a bank -/

/-- whatever account is drawn has the id that it is given, and is the customer's -/
theorem ensures_account (customerId : String) (today : Date) (now : DateTime) :
    (account customerId today now).Ensures fun build =>
      ∀ id, (build id).id = id ∧ (build id).customerId = customerId := by
  unfold account Arithmetic.account
  exact ensures_after fun _ => ensures_after fun _ => ensures_after fun _ => ensures_after fun _ =>
    ensures_after fun _ => ensures_after fun _ => ensures_pure fun _ => ⟨rfl, rfl⟩

/-- whatever card is drawn has the id that it is given, and is the account's and its customer's -/
theorem ensures_card (a : Account) (today : Date) :
    (card a today).Ensures fun build =>
      ∀ id, (build id).id = id ∧ (build id).accountId = a.id ∧ (build id).customerId = a.customerId := by
  unfold card Arithmetic.card
  exact ensures_after fun _ => ensures_after fun _ => ensures_after fun _ => ensures_after fun _ =>
    ensures_after fun _ => ensures_after fun _ => ensures_after fun _ => ensures_after fun _ => ensures_after fun _ =>
    ensures_pure fun _ => ⟨rfl, rfl, rfl⟩

/-- adding the records that are made up preserves a condition on banks -/
structure Preserved (P : Bank → Prop) : Prop where
  customer : ∀ {b b' : Bank} {ids left : List String} {now : DateTime} {p : Profile} {c : Customer}, P b → p.Valid →
    b.addCustomer? ids now p = some (c, b', left) → P b'
  account : ∀ {b b' : Bank} {ids left : List String} {build : String → Account} {a : Account}, P b →
    (∀ id, (build id).id = id) → b.addAccount? ids build = some (a, b', left) → P b'
  card : ∀ {b b' : Bank} {ids left : List String} {build : String → Card} {c : Card}, P b →
    (∀ id, (build id).id = id) → b.addCard? ids build = some (c, b', left) → P b'

section Filling

variable {P : Bank → Prop} (hP : Preserved P) {f : Filling} (today : Date)

include hP

theorem ensures_addCustomer (h : P f.bank) : (addCustomer f today).Ensures fun x => P x.2.bank := by
  unfold addCustomer
  exact (ensures_profile today).bind fun p hp =>
    (ensures_ofOption fun _ hadded => hP.customer h hp hadded).bind fun x hx => ensures_pure hx

theorem ensures_addCard (h : P f.bank) (a : Account) : (addCard f a today).Ensures fun f => P f.bank := by
  unfold addCard
  split
  · exact (ensures_card a today).bind fun build hbuild =>
      (ensures_ofOption fun _ hadded => hP.card h (fun id => (hbuild id).1) hadded).bind fun x hx => ensures_pure hx
  · exact ensures_pure h

theorem ensures_addAccount (h : P f.bank) (customerId : String) :
    (addAccount f customerId today).Ensures fun f => P f.bank := by
  unfold addAccount
  exact (ensures_account customerId today _).bind fun build hbuild =>
    (ensures_ofOption fun _ hadded => hP.account h (fun id => (hbuild id).1) hadded).bind fun x hx =>
      ensures_addCard hP today hx x.1

theorem ensures_addAccounts (customerId : String) (n : Nat) (h : P f.bank) :
    (addAccounts customerId today n f).Ensures fun f => P f.bank := by
  induction n generalizing f with
  | zero => exact ensures_pure h
  | succ n ih => exact (ensures_addAccount hP today h customerId).bind fun f hf => ih hf

theorem ensures_addCustomers (n : Nat) (h : P f.bank) : (addCustomers today n f).Ensures fun f => P f.bank := by
  induction n generalizing f with
  | zero => exact ensures_pure h
  | succ n ih =>
    refine (ensures_addCustomer hP today h).bind fun x hx => ensures_after fun count => ?_
    exact (ensures_addAccounts hP today x.1.id count hx).bind fun f hf => ih hf

end Filling

/-- **What adding made-up records preserves is preserved by filling a bank**, whatever words the records are drawn
from and whatever the clock says. -/
theorem ensures_populate {P : Bank → Prop} (hP : Preserved P) {bank : Bank} (h : P bank) (ids : List String)
    (clock : Clock) : (populate bank ids clock).Ensures fun f => P f.bank :=
  ensures_addCustomers hP clock.now.date customerCount h

end Synthetic

theorem Bank.reachable_preserved : Synthetic.Preserved Bank.Reachable where
  customer hb _ hadded := by
    rw [addCustomer?_eq_insert?] at hadded
    exact .insert .customers hb (fun _ => rfl) hadded
  account hb hbuild hadded := by
    rw [addAccount?_eq_insert?] at hadded
    exact .insert .accounts hb hbuild hadded
  card hb hbuild hadded := by
    rw [addCard?_eq_insert?] at hadded
    exact .insert .cards hb hbuild hadded

/-- **A bank that is filled is reachable.** -/
theorem Bank.Reachable.populate {b : Bank} (hb : b.Reachable) (ids : List String) (clock : Clock) :
    (Synthetic.populate b ids clock).Ensures fun f => f.bank.Reachable :=
  Synthetic.ensures_populate Bank.reachable_preserved hb ids clock

end MockBank
