/-
Made-up records.  Every value is drawn in the order of the record's members, apart from a customer's name and city,
which are drawn first.  Nothing comes of a record whose dates would leave the calendar.  How numbers are drawn and
computed is left open at first, so that the same records can be made up in machine words.

The numbers of accounts and cards end in a Luhn check digit.  Counted from the right of the payload, every second
digit is doubled, beginning with the last; a doubled digit above nine loses nine; the check digit brings the sum to a
multiple of ten.  A text counts byte by byte in UTF-8, so it need not be of digits only.
-/
import MockBank.Record.Account
import MockBank.Record.Card
import MockBank.Record.Customer
import MockBank.Synthetic.Source
import MockBank.Text.Utf8

namespace MockBank.Luhn

/-! ## Check digits -/

/-- what each byte of a text counts: a digit its value, any other byte its distance from the digit zero -/
def digitValues (text : List Char) : List Nat :=
  (text.flatMap String.utf8EncodeChar).map fun b => b.toNat - '0'.toNat

/-- a digit doubled, less nine above nine -/
def double (d : Nat) : Nat :=
  if 9 < 2 * d then 2 * d - 9 else 2 * d

/-- the weighted sum of digits in reversed order; `doubled` says whether the first of them is doubled -/
def weightedSum : Bool → List Nat → Nat
  | _, [] => 0
  | doubled, d :: rest => (if doubled then double d else d) + weightedSum (!doubled) rest

/-- the sum that a payload contributes before its check digit is set -/
def payloadSum (payload : List Char) : Nat :=
  weightedSum true (digitValues payload).reverse

def checkDigit (payload : List Char) : Char :=
  Char.ofNat ('0'.toNat + (10 - payloadSum payload % 10) % 10)

/-- each character of an ASCII text is one byte -/
theorem digitValues_of_ascii (text : List Char) (h : ∀ c ∈ text, c.toNat < 128) :
    digitValues text = text.map fun c => c.toNat - '0'.toNat := by
  rw [digitValues, Text.flatMap_utf8EncodeChar_of_ascii h, List.map_map]
  refine List.map_congr_left fun c hc => ?_
  rw [Function.comp_apply, Text.toNat_toUInt8 (h c hc)]

end MockBank.Luhn

namespace MockBank.Synthetic

/-! ## Records -/

open Draw

/-- a city, its state or region if one is given, and its country -/
structure Locality where
  city : String
  state : Option String
  country : String
  deriving DecidableEq

def firstNames : List String :=
  ["James", "Mary", "Robert", "Patricia", "John", "Jennifer", "Michael", "Linda", "David", "Elizabeth", "William",
    "Barbara", "Richard", "Susan", "Joseph", "Jessica", "Thomas", "Sarah"]

def lastNames : List String :=
  ["Smith", "Johnson", "Williams", "Brown", "Jones", "Garcia", "Miller", "Davis", "Rodriguez", "Martinez", "Hernandez",
    "Lopez", "Wilson", "Anderson", "Taylor", "Moore"]

def streets : List String :=
  ["Main St", "Oak Ave", "Pine Rd", "Maple Dr", "Cedar Ln", "Elm St", "Lake View Blvd", "Hillcrest Way", "Sunset Ave",
    "Park Pl"]

def localities : List Locality :=
  [⟨"New York", some "NY", "US"⟩, ⟨"Austin", some "TX", "US"⟩, ⟨"Seattle", some "WA", "US"⟩,
    ⟨"Toronto", some "ON", "CA"⟩, ⟨"London", none, "GB"⟩, ⟨"Berlin", none, "DE"⟩, ⟨"Paris", none, "FR"⟩,
    ⟨"Sydney", some "NSW", "AU"⟩, ⟨"Dublin", none, "IE"⟩, ⟨"Singapore", none, "SG"⟩]

def emailDomains : List String :=
  ["example.com", "example.org", "example.net"]

def minAgeDays : Nat :=
  18 * 365

def maxAgeDays : Nat :=
  85 * 365

/-- text of ASCII letters in lower case -/
def lower (s : String) : String :=
  String.ofList (s.toList.map Char.toLower)

/-- what is drawn from words, and what is computed of it, when records are made up -/
structure Arithmetic where
  /-- a number below a bound -/
  below : Width → Nat → Draw Nat
  /-- a number within two bounds -/
  between : Width → Nat → Nat → Draw Nat
  digits : Nat → Draw (List Char)
  checkDigit : List Char → Option Char
  /-- a length of time, in days -/
  days : Nat → Option Nat

namespace Arithmetic

/-- numbers of any size -/
def unbounded : Arithmetic :=
  ⟨Draw.below, Draw.between, Draw.digits, fun payload => some (Luhn.checkDigit payload), some⟩

@[simp] theorem unbounded_days (n : Nat) : unbounded.days n = some n := rfl

variable (A : Arithmetic)

/-- an item of a list -/
def pick {α : Type} (items : List α) : Draw α := do
  let i ← A.below .half items.length
  ofOption items[i]?

/-- sixteen digits: a four, fourteen drawn ones, and the check digit -/
def cardNumber : Draw String := do
  let payload := '4' :: (← A.digits 14)
  let last ← ofOption (A.checkDigit payload)
  return String.ofList (payload ++ [last])

/-- a day of this year up to today -/
def dateThisYear (today : Date) : Draw Date := do
  let n ← A.between .full 0 today.ordinal
  let days ← ofOption (A.days n)
  ofOption (Date.earlier? days today)

def email (firstName lastName : String) : Draw String := do
  let number ← A.between .half 1 99
  let domain ← A.pick emailDomains
  return lower firstName ++ "." ++ lower lastName ++ toString number ++ "@" ++ domain

def phone : Draw String := do
  let area ← A.between .half 200 999
  let exchange ← A.digits 3
  let line ← A.digits 4
  return "+1-" ++ toString area ++ "-" ++ String.ofList exchange ++ "-" ++ String.ofList line

def address (place : Locality) : Draw Address := do
  let number ← A.between .half 1 9999
  let street ← A.pick streets
  let postalCode ← A.digits 5
  return ⟨toString number ++ " " ++ street, place.city, place.state, place.country, String.ofList postalCode⟩

/-- an active customer of 18 to 85 years of 365 days -/
def profile (today : Date) : Draw Profile := do
  let firstName ← A.pick firstNames
  let lastName ← A.pick lastNames
  let place ← A.pick localities
  let customerType ← A.pick (Named.all : List CustomerType)
  let mail ← A.email firstName lastName
  let telephone ← A.phone
  let age ← A.between .full minAgeDays maxAgeDays
  let days ← ofOption (A.days age)
  let birth ← ofOption (Date.earlier? days today)
  let home ← A.address place
  let kycStatus ← A.pick (Named.all : List KycStatus)
  let riskProfile ← A.pick (Named.all : List RiskProfile)
  return ⟨customerType, firstName, lastName, mail, some telephone, some birth, home, kycStatus, riskProfile, .active⟩

/-- a whole amount within bounds -/
def amount (low high : Nat) : Draw Binary64 := do
  let n ← A.between .half low high
  return Binary64.ofInt n

/-- an active account of a customer, opened this year, once it is given an id -/
def account (customerId : String) (today : Date) (now : DateTime) : Draw (String → Account) := do
  let accountType ← A.pick (Named.all : List AccountType)
  let accountNumber ← A.cardNumber
  let balance ← A.amount 1000 100000
  let availableBalance ← A.amount 1000 100000
  let interestRate ← A.amount 1 5
  let openedDate ← A.dateThisYear today
  return fun id =>
    ⟨id, customerId, accountType, accountNumber, "USD", balance, availableBalance, interestRate, .active, openedDate,
      now⟩

/-- an active card of an account, issued this year and good for up to thirty days, once it is given an id; it has no
credit limit -/
def card (a : Account) (today : Date) : Draw (String → Card) := do
  let cardType ← A.pick [CardType.debit, CardType.credit]
  let number ← A.cardNumber
  let n ← A.between .full 1 30
  let days ← ofOption (A.days n)
  let expiryDate ← ofOption (Date.later? days today)
  let cvv ← A.between .half 100 999
  let dailyLimit ← A.amount 1000 5000
  let monthlyLimit ← A.amount 10000 50000
  let issuedDate ← A.dateThisYear today
  return fun id =>
    ⟨id, a.customerId, a.id, cardType, number, expiryDate, toString cvv, .active, dailyLimit, monthlyLimit, none,
      issuedDate⟩

end Arithmetic

/-! ## Records of unbounded numbers -/

def cardNumber : Draw String :=
  Arithmetic.unbounded.cardNumber

def dateThisYear (today : Date) : Draw Date :=
  Arithmetic.unbounded.dateThisYear today

def profile (today : Date) : Draw Profile :=
  Arithmetic.unbounded.profile today

def account (customerId : String) (today : Date) (now : DateTime) : Draw (String → Account) :=
  Arithmetic.unbounded.account customerId today now

def card (a : Account) (today : Date) : Draw (String → Card) :=
  Arithmetic.unbounded.card a today

end MockBank.Synthetic
