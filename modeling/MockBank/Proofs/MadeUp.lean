/-
What holds of made-up records, whatever words they are drawn from, those that carry over included.

- `Synthetic.IsCardNumber`, `Synthetic.IsCvv`, `Synthetic.IsAmount`, `Synthetic.IsBirth`: what is drawn for a member.
- `Synthetic.CustomerOf`, `Synthetic.AccountOf`, `Synthetic.CardOf`: what a record that is made up on a day is like, and
  how it is served.
- `made_up_records_are_valid`: with the calendar's ends out of reach every draw gives such a record, and its arithmetic
  leaves no machine word.
- `made_up_days_respect_calendar`: the days of a made-up record, on every day of the calendar.
-/
import MockBank.Proofs.Exactness
import MockBank.Proofs.Overflow

namespace MockBank

namespace Synthetic

open Arithmetic (unbounded)
open Draw

/-! ## What is drawn for a member -/

/-- sixteen digits that begin with four and pass the Luhn test -/
structure IsCardNumber (s : String) : Prop where
  length : s.toList.length = 16
  digits : ∀ c ∈ s.toList, c.isDigit = true
  first : s.toList.head? = some '4'
  valid : Luhn.Valid s.toList

/-- three digits, the first of which is not zero -/
structure IsCvv (s : String) : Prop where
  length : s.toList.length = 3
  digits : ∀ c ∈ s.toList, c.isDigit = true
  first : s.toList.head? ≠ some '0'

/-- a whole number within bounds, exactly -/
def IsAmount (low high : Nat) (x : Binary64) : Prop :=
  ∃ n, low ≤ n ∧ n ≤ high ∧ x.Equals n

/-- a day 18 to 85 years of 365 days ago -/
def IsBirth (today : Date) (birth : Option Date) : Prop :=
  ∃ d, birth = some d ∧ d.dayNumber + 18 * 365 ≤ today.dayNumber ∧ today.dayNumber ≤ d.dayNumber + 85 * 365

/-- **A made-up number of a card or an account passes the test.** -/
theorem ensures_cardNumber : cardNumber.Ensures IsCardNumber := by
  refine (ensures_digits 14).bind fun ds hds => (ensures_ofOption fun _ => Option.some.inj).bind ?_
  rintro _ rfl
  refine ensures_pure ?_
  have hpayload : ∀ c ∈ '4' :: ds, c.isDigit = true := List.forall_mem_cons.2 ⟨rfl, hds.2⟩
  have hlast := Luhn.isDigit_checkDigit ('4' :: ds)
  have hvalid := (Luhn.valid_concat_iff hpayload hlast).2 rfl
  have hlength : ('4' :: ds ++ [Luhn.checkDigit ('4' :: ds)]).length = 16 := by
    rw [List.length_append, List.length_cons, hds.1]
    rfl
  refine ⟨?_, ?_, ?_, ?_⟩ <;> rw [String.toList_ofList]
  · exact hlength
  · exact List.forall_mem_append.2 ⟨hpayload, List.forall_mem_singleton.2 hlast⟩
  · rfl
  · exact hvalid

/-- a number of three digits, digit by digit -/
theorem toList_toString_hundreds {n : Nat} (hlow : 100 ≤ n) (hhigh : n < 1000) :
    (toString n).toList = [Nat.digitChar (n / 10 / 10), Nat.digitChar (n / 10 % 10), Nat.digitChar (n % 10)] := by
  have hlast : Nat.toDigits 10 n = Nat.toDigits 10 (n / 10) ++ [Nat.digitChar (n % 10)] :=
    Nat.toDigits_of_base_le (by decide) (by omega)
  have hmiddle : Nat.toDigits 10 (n / 10) = Nat.toDigits 10 (n / 10 / 10) ++ [Nat.digitChar (n / 10 % 10)] :=
    Nat.toDigits_of_base_le (by decide) (by omega)
  have hfirst : Nat.toDigits 10 (n / 10 / 10) = [Nat.digitChar (n / 10 / 10)] := Nat.toDigits_of_lt_base (by omega)
  calc (toString n).toList = Nat.toDigits 10 n := String.toList_ofList
    _ = [Nat.digitChar (n / 10 / 10)] ++ [Nat.digitChar (n / 10 % 10)] ++ [Nat.digitChar (n % 10)] := by
      rw [hlast, hmiddle, hfirst]

theorem isCvv_toString {n : Nat} (hlow : 100 ≤ n) (hhigh : n ≤ 999) : IsCvv (toString n) := by
  have hchars := toList_toString_hundreds hlow (Nat.lt_succ_of_le hhigh)
  have hdigit : ∀ d < 10, (Nat.digitChar d).isDigit = true := by decide
  have hleading : ∀ d < 10, 0 < d → Nat.digitChar d ≠ '0' := by decide
  refine ⟨?_, ?_, ?_⟩ <;> rw [hchars]
  · rfl
  · simp only [List.forall_mem_cons]
    exact ⟨hdigit _ (by omega), hdigit _ (by omega), hdigit _ (by omega), List.forall_mem_nil _⟩
  · intro hfirst
    exact hleading (n / 10 / 10) (by omega) (by omega) (Option.some.inj hfirst)

/-- **A made-up amount is a whole number within its bounds.** -/
theorem ensures_amount {low high : Nat} (hle : low ≤ high) (hhigh : high < 0x20000000000000) :
    (unbounded.amount low high).Ensures (IsAmount low high) :=
  (ensures_between .half hle).bind fun n hn =>
    ensures_pure ⟨n, hn.1, hn.2, Binary64.equals_ofNat (Nat.lt_of_le_of_lt hn.2 hhigh)⟩

/-! ## What a record is like -/

/-- a customer that is made up on a day, and how it is served -/
structure CustomerOf (today : Date) (c : Customer) : Prop where
  accepted : Table.customer.validate (Entity.toJson c) = .ok ()
  email : Email.isDeliverable c.profile.email = true
  country : c.profile.address.country.length = 2
  status : (Entity.toJson c).at? "status" = some (.string "ACTIVE")
  birth : IsBirth today c.profile.dateOfBirth

/-- an account that is made up on a day, and how it is served -/
structure AccountOf (today : Date) (a : Account) : Prop where
  accepted : Table.account.validate (Entity.toJson a) = .ok ()
  number : IsCardNumber a.accountNumber
  balance : IsAmount 1000 100000 a.balance
  availableBalance : IsAmount 1000 100000 a.availableBalance
  interestRate : IsAmount 1 5 a.interestRate
  status : (Entity.toJson a).at? "status" = some (.string "ACTIVE")
  opened : Date.ThisYear today a.openedDate

/-- a card that is made up on a day, and how it is served -/
structure CardOf (today : Date) (k : Card) : Prop where
  accepted : Table.card.validate (Entity.toJson k) = .ok ()
  cardType : (Entity.toJson k).at? "cardType" = some (.string "DEBIT") ∨
    (Entity.toJson k).at? "cardType" = some (.string "CREDIT")
  number : IsCardNumber k.cardNumber
  expiry : today.dayNumber + 1 ≤ k.expiryDate.dayNumber ∧ k.expiryDate.dayNumber ≤ today.dayNumber + 30
  cvv : IsCvv k.cvv
  status : (Entity.toJson k).at? "status" = some (.string "ACTIVE")
  dailyLimit : IsAmount 1000 5000 k.dailyLimit
  monthlyLimit : IsAmount 10000 50000 k.monthlyLimit
  creditLimit : (Entity.toJson k).at? "creditLimit" = some .null
  issued : Date.ThisYear today k.issuedDate

/-- a profile is of an active customer between 18 and 85 years of 365 days -/
theorem ensures_profile_active (today : Date) :
    (profile today).Ensures fun p => p.status = .active ∧ IsBirth today p.dateOfBirth := by
  unfold profile Arithmetic.profile
  refine ensures_after fun firstName => ensures_after fun lastName => ensures_after fun place =>
    ensures_after fun customerType => ensures_after fun mail => ensures_after fun telephone =>
    (ensures_between .full (by decide)).bind fun age hage => ?_
  rw [Arithmetic.unbounded_days, ofOption_bind]
  refine (ensures_ofOption fun _ => Date.dayNumber_earlier?).bind fun birth hbirth => ensures_after fun home =>
    ensures_after fun kycStatus => ensures_after fun riskProfile => ensures_pure ⟨rfl, birth, rfl, ?_⟩
  rw [minAgeDays, maxAgeDays] at hage
  omega

/-- **Whatever profile is drawn, the customer that it becomes is a made-up one.** -/
theorem ensures_customerOf (today : Date) :
    (profile today).Ensures fun p => ∀ id now, CustomerOf today (p.toCustomer id now) := by
  intro s p s' hs id now
  obtain ⟨hvalid, hactive, hbirth⟩ := (ensures_profile today).and (ensures_profile_active today) s p s' hs
  have haccepted := Customer.accepted (c := p.toCustomer id now) hvalid
  have hstatus : (Entity.toJson (p.toCustomer id now)).at? "status" =
      some ((Wire.named CustomerStatus).write p.status) := rfl
  refine ⟨(Table.customer.validate_eq_ok_iff _).2 haccepted, hvalid.1, hvalid.2, ?_, hbirth⟩
  rw [hstatus, hactive]
  rfl

/-- **Whatever account is drawn, it is a made-up one.** -/
theorem ensures_accountOf (customerId : String) (today : Date) (now : DateTime) :
    (account customerId today now).Ensures fun build => ∀ id, AccountOf today (build id) := by
  unfold account Arithmetic.account
  refine ensures_after fun accountType => ensures_cardNumber.bind fun number hnumber =>
    (ensures_amount (by decide) (by decide)).bind fun balance hbalance =>
    (ensures_amount (by decide) (by decide)).bind fun available havailable =>
    (ensures_amount (by decide) (by decide)).bind fun rate hrate =>
    (ensures_dateThisYear today).bind fun opened hopened => ensures_pure fun id => ?_
  exact ⟨(Table.account.validate_eq_ok_iff _).2 (Account.accepted _), hnumber, hbalance, havailable, hrate, rfl,
    hopened⟩

/-- **Whatever card is drawn, it is a made-up one.** -/
theorem ensures_cardOf (a : Account) (today : Date) :
    (card a today).Ensures fun build => ∀ id, CardOf today (build id) := by
  unfold card Arithmetic.card
  refine (ensures_pick _).bind fun cardType hcardType => ensures_cardNumber.bind fun number hnumber =>
    (ensures_between .full (by decide)).bind fun n hn => ?_
  rw [Arithmetic.unbounded_days, ofOption_bind]
  refine (ensures_ofOption fun _ => Date.dayNumber_later?).bind fun expiry hexpiry =>
    (ensures_between .half (by decide)).bind fun cvv hcvv =>
    (ensures_amount (by decide) (by decide)).bind fun daily hdaily =>
    (ensures_amount (by decide) (by decide)).bind fun monthly hmonthly =>
    (ensures_dateThisYear today).bind fun issued hissued => ensures_pure fun id => ?_
  refine ⟨(Table.card.validate_eq_ok_iff _).2 (Card.accepted _), ?_, hnumber, ?_, isCvv_toString hcvv.1 hcvv.2, rfl,
    hdaily, hmonthly, rfl, hissued⟩
  · rcases List.mem_pair.1 hcardType with rfl | rfl
    · exact .inl rfl
    · exact .inr rfl
  · show today.dayNumber + 1 ≤ expiry.dayNumber ∧ expiry.dayNumber ≤ today.dayNumber + 30
    omega

end Synthetic

open Synthetic in
/-- **Made-up records are valid and within their bounds.**  On a day that the calendar goes back 85 years of 365 days
from, and on for thirty days, every stream of words gives a customer, an account and a card.  Each is accepted as it
is served, whatever ids and times it is given, and its numbers, amounts and states are as they should be.  The same
comes of machine words with every step of arithmetic checked. -/
theorem made_up_records_are_valid {today : Date} (hpast : Date.earliest.dayNumber + 85 * 365 ≤ today.dayNumber)
    (hfuture : today.dayNumber + 30 ≤ Date.latest.dayNumber) (words : Source) :
    (∃ p left, profile today words = some (p, left) ∧ Checked.profile today words = some (p, left) ∧
      ∀ id now, CustomerOf today (p.toCustomer id now)) ∧
    (∀ customerId now, ∃ build left, account customerId today now words = some (build, left) ∧
      Checked.account customerId today now words = some (build, left) ∧ ∀ id, AccountOf today (build id)) ∧
    ∀ a, ∃ build left, card a today words = some (build, left) ∧ Checked.card a today words = some (build, left) ∧
      ∀ id, CardOf today (build id) := by
  refine ⟨?_, fun customerId now => ?_, fun a => ?_⟩
  · obtain ⟨p, left, hp, hcustomer⟩ := (total_profile hpast).exists_ensured (ensures_customerOf today) words
    exact ⟨p, left, hp, (congrFun (Checked.profile_eq today) words).trans hp, hcustomer⟩
  · obtain ⟨build, left, hbuild, haccount⟩ :=
      (total_account customerId today now).exists_ensured (ensures_accountOf customerId today now) words
    exact ⟨build, left, hbuild, (congrFun (Checked.account_eq customerId today now) words).trans hbuild, haccount⟩
  · obtain ⟨build, left, hbuild, hcard⟩ := (total_card a hfuture).exists_ensured (ensures_cardOf a today) words
    exact ⟨build, left, hbuild, (congrFun (Checked.card_eq a today) words).trans hbuild, hcard⟩

def leapDay : Date :=
  ⟨2024, 2, 29, leapDay_exists⟩

open Synthetic in
/-- on a leap day, two words in turn give a customer, an account of it and a card of that; for most digits the first
word leaves it open whether there is a carry, and the second one carries -/
theorem made_up_records_are_valid_carried :
    ∃ p s, profile leapDay (Source.cycle [0x1999999999999999, 0xFFFFFFFFFFFFFFFF]) = some (p, s) ∧
      CustomerOf leapDay (p.toCustomer "c-1" (leapDay.at 9 30)) ∧
      ∃ a s', account "c-1" leapDay (leapDay.at 9 30) s = some (a, s') ∧ AccountOf leapDay (a "a-1") ∧
        ∃ k s'', card (a "a-1") leapDay s' = some (k, s'') ∧ CardOf leapDay (k "k-1") := by
  have hpast : Date.earliest.dayNumber + 85 * 365 ≤ leapDay.dayNumber := by decide
  have hfuture : leapDay.dayNumber + 30 ≤ Date.latest.dayNumber := by decide
  obtain ⟨⟨p, s, hp, -, hcustomer⟩, -⟩ :=
    made_up_records_are_valid hpast hfuture (Source.cycle [0x1999999999999999, 0xFFFFFFFFFFFFFFFF])
  obtain ⟨-, haccounts, -⟩ := made_up_records_are_valid hpast hfuture s
  obtain ⟨a, s', ha, -, haccount⟩ := haccounts "c-1" (leapDay.at 9 30)
  obtain ⟨-, -, hcards⟩ := made_up_records_are_valid hpast hfuture s'
  obtain ⟨k, s'', hk, -, hcard⟩ := hcards (a "a-1")
  exact ⟨p, s, hp, hcustomer _ _, a, s', ha, haccount _, k, s'', hk, hcard _⟩

open Synthetic in
/-- **Made-up days respect the calendar.**  Today, whatever day it is, a day is drawn from every stream of words,
without leaving a machine word; it is of this year and not after today, and all such days are drawn.  So accounts are
opened and cards issued this year.  Cards expire one to thirty days from now, and customers were born 18 to 85 years
of 365 days ago, unless the calendar ends before that. -/
theorem made_up_days_respect_calendar (today : Date) :
    (∀ words, ∃ d left, dateThisYear today words = some (d, left) ∧
      Checked.dateThisYear today words = some (d, left) ∧ d.year = today.year ∧ today.yearStart ≤ d ∧ d ≤ today) ∧
    (∀ d, (today.yearStart ≤ d ∧ d ≤ today) ↔ ∃ words left, dateThisYear today words = some (d, left)) ∧
    (∀ customerId now words, ∃ build left, account customerId today now words = some (build, left) ∧
      ∀ id, Date.ThisYear today (build id).openedDate) ∧
    (∀ a, (card a today).Delivers
      (fun build => ∀ id, Date.ThisYear today (build id).issuedDate ∧
        today.dayNumber + 1 ≤ (build id).expiryDate.dayNumber ∧ (build id).expiryDate.dayNumber ≤ today.dayNumber + 30)
      (Date.latest.dayNumber < today.dayNumber + 30)) ∧
    (profile today).Delivers (fun p => IsBirth today p.dateOfBirth)
      (today.dayNumber < Date.earliest.dayNumber + 85 * 365) := by
  refine ⟨fun words => ?_, fun d => ⟨fun h => ?_, ?_⟩, fun customerId now words => ?_, fun a => ?_, ?_⟩
  · obtain ⟨d, left, hd, hyear⟩ := (total_dateThisYear today).exists_ensured (ensures_dateThisYear today) words
    exact ⟨d, left, hd, (congrFun (Checked.dateThisYear_eq today) words).trans hd, hyear.year, hyear.first, hyear.last⟩
  · exact exists_dateThisYear (.of_between h.1 h.2)
  · rintro ⟨words, left, hd⟩
    have hyear := ensures_dateThisYear today words d left hd
    exact ⟨hyear.first, hyear.last⟩
  · obtain ⟨build, left, hbuild, haccount⟩ :=
      (total_account customerId today now).exists_ensured (ensures_accountOf customerId today now) words
    exact ⟨build, left, hbuild, fun id => (haccount id).opened⟩
  · have hcard := (ensures_cardOf a today).delivers fun h => total_card a (Int.not_lt.1 h)
    exact hcard.mono (fun build h id => ⟨(h id).issued, (h id).expiry⟩) id
  · have hprofile := (ensures_profile_active today).delivers fun h => total_profile (Int.not_lt.1 h)
    exact hprofile.mono (fun p h => h.2) id

end MockBank
