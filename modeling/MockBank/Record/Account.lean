/-
Accounts, held by customers.  The holder's id is not checked against the customers.
-/
import MockBank.Record.Entity
import MockBank.Schema.Tables

namespace MockBank

structure Account where
  id : String
  customerId : String
  accountType : AccountType
  accountNumber : String
  currency : String
  balance : Binary64
  availableBalance : Binary64
  interestRate : Binary64
  status : AccountStatus
  openedDate : Date
  lastActivityDate : DateTime
  deriving DecidableEq

namespace Account

/-- only checking and savings accounts get a card -/
def isCardEligible (a : Account) : Bool :=
  a.accountType = .checking || a.accountType = .savings

def members (a : Account) : List (String × Json) :=
  [("id", .string a.id),
    ("customerId", .string a.customerId),
    ("accountType", (Wire.named AccountType).write a.accountType),
    ("accountNumber", .string a.accountNumber),
    ("currency", .string a.currency),
    ("balance", Wire.double.write a.balance),
    ("availableBalance", Wire.double.write a.availableBalance),
    ("interestRate", Wire.double.write a.interestRate),
    ("status", (Wire.named AccountStatus).write a.status),
    ("openedDate", Wire.date.write a.openedDate),
    ("lastActivityDate", Wire.dateTime.write a.lastActivityDate)]

def shape : Shape Account :=
  (Shape.pure Account.mk)
    |>.seq (.field "id" .text)
    |>.seq (.field "customerId" .text)
    |>.seq (.field "accountType" (.named AccountType))
    |>.seq (.field "accountNumber" .text)
    |>.seq (.field "currency" .text)
    |>.seq (.field "balance" .double)
    |>.seq (.field "availableBalance" .double)
    |>.seq (.field "interestRate" .double)
    |>.seq (.field "status" (.named AccountStatus))
    |>.seq (.field "openedDate" .date)
    |>.seq (.field "lastActivityDate" .dateTime)

instance : Entity Account where
  table := .account
  shape := shape
  members := members

end Account

end MockBank
