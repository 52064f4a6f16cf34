/-
A bank filled with made-up records: ten customers, one to three accounts for each, and a card for every account that is
eligible for one.  The clock is read once for the day that the records are made up on, and once more for every record
that is added.
-/
import MockBank.Store.Bank
import MockBank.Synthetic.Records

namespace MockBank

/-- the readings of a clock in turn, of which none need be later than the one before, and how many are taken -/
structure Clock where
  reading : Nat → DateTime
  taken : Nat

namespace Clock

def now (c : Clock) : DateTime :=
  c.reading c.taken

def next (c : Clock) : Clock :=
  { c with taken := c.taken + 1 }

end Clock

namespace Synthetic

/-- how many records of each kind were added -/
structure Summary where
  customers : Nat
  accounts : Nat
  cards : Nat
  deriving DecidableEq

/-- a bank being filled: the bank, the candidate ids that are left, the clock, and what was added so far -/
structure Filling where
  bank : Bank
  ids : List String
  clock : Clock
  summary : Summary

def customerCount : Nat :=
  10

def maxAccounts : Nat :=
  3

def addCustomer (f : Filling) (today : Date) : Draw (Customer × Filling) := do
  let p ← profile today
  let (c, bank, ids) ← Draw.ofOption (f.bank.addCustomer? f.ids f.clock.now p)
  return (c, ⟨bank, ids, f.clock.next, { f.summary with customers := f.summary.customers + 1 }⟩)

/-- adds a card for an account that is eligible; no card bears the time that is read -/
def addCard (f : Filling) (a : Account) (today : Date) : Draw Filling := do
  if a.isCardEligible then
    let build ← card a today
    let (_, bank, ids) ← Draw.ofOption (f.bank.addCard? f.ids build)
    return ⟨bank, ids, f.clock.next, { f.summary with cards := f.summary.cards + 1 }⟩
  else return f

/-- adds an account of a customer, and its card -/
def addAccount (f : Filling) (customerId : String) (today : Date) : Draw Filling := do
  let build ← account customerId today f.clock.now
  let (a, bank, ids) ← Draw.ofOption (f.bank.addAccount? f.ids build)
  addCard ⟨bank, ids, f.clock.next, { f.summary with accounts := f.summary.accounts + 1 }⟩ a today

def addAccounts (customerId : String) (today : Date) : Nat → Filling → Draw Filling
  | 0, f => return f
  | n + 1, f => do
    let f ← addAccount f customerId today
    addAccounts customerId today n f

def addCustomers (today : Date) : Nat → Filling → Draw Filling
  | 0, f => return f
  | n + 1, f => do
    let (c, f) ← addCustomer f today
    let count ← Draw.between .half 1 maxAccounts
    let f ← addAccounts c.id today count f
    addCustomers today n f

/-- fills a bank -/
def populate (bank : Bank) (ids : List String) (clock : Clock) : Draw Filling :=
  addCustomers clock.now.date customerCount ⟨bank, ids, clock.next, ⟨0, 0, 0⟩⟩

end Synthetic

end MockBank
