/-
Movements of funds on accounts.  They never change a balance.
-/
import MockBank.Record.Entity
import MockBank.Schema.Tables

namespace MockBank

/-- a movement of funds; the metadata is any object -/
structure Transaction where
  id : String
  accountId : String
  type : TransactionType
  amount : Binary64
  currency : String
  description : Option String
  status : TransactionStatus
  timestamp : DateTime
  referenceId : Option String
  metadata : Option (List (String × Json))

namespace Transaction

def members (t : Transaction) : List (String × Json) :=
  [("id", .string t.id),
    ("accountId", .string t.accountId),
    ("type", (Wire.named TransactionType).write t.type),
    ("amount", Wire.double.write t.amount),
    ("currency", .string t.currency),
    ("description", Wire.text.optional.write t.description),
    ("status", (Wire.named TransactionStatus).write t.status),
    ("timestamp", Wire.dateTime.write t.timestamp),
    ("referenceId", Wire.text.optional.write t.referenceId),
    ("metadata", Wire.members.optional.write t.metadata)]

def shape : Shape Transaction :=
  (Shape.pure Transaction.mk)
    |>.seq (.field "id" .text)
    |>.seq (.field "accountId" .text)
    |>.seq (.field "type" (.named TransactionType))
    |>.seq (.field "amount" .double)
    |>.seq (.field "currency" .text)
    |>.seq (.optional "description" .text)
    |>.seq (.field "status" (.named TransactionStatus))
    |>.seq (.field "timestamp" .dateTime)
    |>.seq (.optional "referenceId" .text)
    |>.seq (.optional "metadata" .members)

instance : Entity Transaction where
  table := .transaction
  shape := shape
  members := members

end Transaction

end MockBank
