/-
Loans with their instalments.  An instalment is part of its loan and is never stored by itself.
-/
import MockBank.Record.Entity
import MockBank.Schema.Tables

namespace MockBank

structure LoanPayment where
  dueDate : Date
  amount : Binary64
  status : PaymentStatus
  paidDate : Option Date
  deriving DecidableEq

/-- a loan; the term counts its repayment periods -/
structure Loan where
  id : String
  customerId : String
  type : LoanType
  amount : Binary64
  currency : String
  interestRate : Binary64
  term : Int64
  status : LoanStatus
  startDate : Date
  endDate : Date
  remainingBalance : Binary64
  paymentSchedule : List LoanPayment
  deriving DecidableEq

namespace LoanPayment

def members (p : LoanPayment) : List (String × Json) :=
  [("dueDate", Wire.date.write p.dueDate),
    ("amount", Wire.double.write p.amount),
    ("status", (Wire.named PaymentStatus).write p.status),
    ("paidDate", Wire.date.optional.write p.paidDate)]

def shape : Shape LoanPayment :=
  (Shape.pure LoanPayment.mk)
    |>.seq (.field "dueDate" .date)
    |>.seq (.field "amount" .double)
    |>.seq (.field "status" (.named PaymentStatus))
    |>.seq (.optional "paidDate" .date)

instance : Entity LoanPayment where
  table := .loanPayment
  shape := shape
  members := members

end LoanPayment

namespace Loan

def schedule : Wire (List LoanPayment) :=
  .list (.record LoanPayment.members LoanPayment.shape)

def members (l : Loan) : List (String × Json) :=
  [("id", .string l.id),
    ("customerId", .string l.customerId),
    ("type", (Wire.named LoanType).write l.type),
    ("amount", Wire.double.write l.amount),
    ("currency", .string l.currency),
    ("interestRate", Wire.double.write l.interestRate),
    ("term", Wire.int64.write l.term),
    ("status", (Wire.named LoanStatus).write l.status),
    ("startDate", Wire.date.write l.startDate),
    ("endDate", Wire.date.write l.endDate),
    ("remainingBalance", Wire.double.write l.remainingBalance),
    ("paymentSchedule", schedule.write l.paymentSchedule)]

def shape : Shape Loan :=
  (Shape.pure Loan.mk)
    |>.seq (.field "id" .text)
    |>.seq (.field "customerId" .text)
    |>.seq (.field "type" (.named LoanType))
    |>.seq (.field "amount" .double)
    |>.seq (.field "currency" .text)
    |>.seq (.field "interestRate" .double)
    |>.seq (.field "term" .int64)
    |>.seq (.field "status" (.named LoanStatus))
    |>.seq (.field "startDate" .date)
    |>.seq (.field "endDate" .date)
    |>.seq (.field "remainingBalance" .double)
    |>.seq (.field "paymentSchedule" schedule)

instance : Entity Loan where
  table := .loan
  shape := shape
  members := members

end Loan

end MockBank
