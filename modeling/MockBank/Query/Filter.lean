/-
Which records of a collection a list shows.  A criterion that is absent or an empty text restricts nothing; all others
must hold together.
-/
import MockBank.Calendar.Reader
import MockBank.Query.Page
import MockBank.Record.Account
import MockBank.Record.Card
import MockBank.Record.Loan
import MockBank.Record.Transaction

namespace MockBank

namespace Criterion

/-- a text that restricts -/
def present (text : Option String) : Option String :=
  text.filter fun s => s != ""

/-- whether a value is the one asked for -/
def admits (expected : Option String) (actual : String) : Bool :=
  match expected with
  | none => true
  | some s => s == actual

/-- the day that a text denotes; an empty text is no bound -/
def day (param : String) (text : Option String) : Except QueryError (Option Date) :=
  match present text with
  | none => .ok none
  | some raw =>
    match Date.read raw with
    | .ok d => .ok (some d)
    | .error _ => .error ⟨param, "invalid date `" ++ raw ++ "`, expected YYYY-MM-DD"⟩

end Criterion

/-- accounts or cards of one customer -/
structure HolderFilter where
  customerId : Option String
  deriving DecidableEq

/-- movements on one account, from one day to another, both included -/
structure TransactionFilter where
  accountId : Option String
  startDate : Option Date
  endDate : Option Date
  deriving DecidableEq

/-- loans of one customer and of one status; a text that names no status admits nothing -/
structure LoanFilter where
  customerId : Option String
  status : Option String
  deriving DecidableEq

namespace HolderFilter

def of (customerId : Option String) : HolderFilter :=
  ⟨Criterion.present customerId⟩

def admitsAccount (f : HolderFilter) (a : Account) : Bool :=
  Criterion.admits f.customerId a.customerId

def admitsCard (f : HolderFilter) (c : Card) : Bool :=
  Criterion.admits f.customerId c.customerId

end HolderFilter

namespace TransactionFilter

def of (accountId startDate endDate : Option String) : Except QueryError TransactionFilter :=
  match Criterion.day "start_date" startDate with
  | .error e => .error e
  | .ok start =>
    match Criterion.day "end_date" endDate with
    | .error e => .error e
    | .ok stop => .ok ⟨Criterion.present accountId, start, stop⟩

/-- whether a movement is shown; its time of day does not matter -/
def admits (f : TransactionFilter) (t : Transaction) : Bool :=
  Criterion.admits f.accountId t.accountId &&
    f.startDate.all (fun d => decide (d ≤ t.timestamp.date)) &&
    f.endDate.all (fun d => decide (t.timestamp.date ≤ d))

end TransactionFilter

namespace LoanFilter

def of (customerId status : Option String) : LoanFilter :=
  ⟨Criterion.present customerId, Criterion.present status⟩

/-- whether a loan is shown -/
def admits (f : LoanFilter) (l : Loan) : Bool :=
  Criterion.admits f.customerId l.customerId && Criterion.admits f.status (Named.name l.status)

end LoanFilter

end MockBank
