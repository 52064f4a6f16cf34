/-
Cards, each linked to an account and its holder.
-/
import MockBank.Record.Entity
import MockBank.Schema.Tables

namespace MockBank

structure Card where
  id : String
  customerId : String
  accountId : String
  cardType : CardType
  cardNumber : String
  expiryDate : Date
  cvv : String
  status : CardStatus
  dailyLimit : Binary64
  monthlyLimit : Binary64
  creditLimit : Option Binary64
  issuedDate : Date
  deriving DecidableEq

namespace Card

def members (c : Card) : List (String × Json) :=
  [("id", .string c.id),
    ("customerId", .string c.customerId),
    ("accountId", .string c.accountId),
    ("cardType", (Wire.named CardType).write c.cardType),
    ("cardNumber", .string c.cardNumber),
    ("expiryDate", Wire.date.write c.expiryDate),
    ("cvv", .string c.cvv),
    ("status", (Wire.named CardStatus).write c.status),
    ("dailyLimit", Wire.double.write c.dailyLimit),
    ("monthlyLimit", Wire.double.write c.monthlyLimit),
    ("creditLimit", Wire.double.optional.write c.creditLimit),
    ("issuedDate", Wire.date.write c.issuedDate)]

def shape : Shape Card :=
  (Shape.pure Card.mk)
    |>.seq (.field "id" .text)
    |>.seq (.field "customerId" .text)
    |>.seq (.field "accountId" .text)
    |>.seq (.field "cardType" (.named CardType))
    |>.seq (.field "cardNumber" .text)
    |>.seq (.field "expiryDate" .date)
    |>.seq (.field "cvv" .text)
    |>.seq (.field "status" (.named CardStatus))
    |>.seq (.field "dailyLimit" .double)
    |>.seq (.field "monthlyLimit" .double)
    |>.seq (.optional "creditLimit" .double)
    |>.seq (.field "issuedDate" .date)

instance : Entity Card where
  table := .card
  shape := shape
  members := members

end Card

end MockBank
