/-
Collections of records in the order they were added, with the position of each under its id.  Adding a record takes
the first candidate id that is not in use.  Candidates are random ids: 128 bits of which six are fixed, written in
five groups of hexadecimal digits.
-/
import Std.Data.HashMap
import MockBank.Record.Account
import MockBank.Record.Card
import MockBank.Record.Customer
import MockBank.Record.Loan
import MockBank.Record.Transaction
import MockBank.Text.Digits

namespace MockBank.Uuid

/-! ## Ids -/

def ofWords (high low : UInt64) : String :=
  let groups := [
    Text.hexText 8 (high >>> 32).toNat,
    Text.hexText 4 (high >>> 16).toNat,
    '4' :: Text.hexText 3 high.toNat,
    Text.hexDigit (8 + (low >>> 60).toNat % 4) :: Text.hexText 3 (low >>> 48).toNat,
    Text.hexText 12 low.toNat]
  String.ofList (['-'].intercalate groups)

end MockBank.Uuid

namespace MockBank

/-! ## Collections -/

/-- records that are found by an id of their own -/
class Identified (α : Type) where
  id : α → String

instance : Identified Customer := ⟨Customer.id⟩

instance : Identified Account := ⟨Account.id⟩

instance : Identified Card := ⟨Card.id⟩

instance : Identified Transaction := ⟨Transaction.id⟩

instance : Identified Loan := ⟨Loan.id⟩

/-- records in order, and their positions by id -/
structure Collection (α : Type) where
  rows : Array α
  index : Std.HashMap String Nat

/-- a record just added, the collection with it, and the candidate ids that are left -/
structure Inserted (α : Type) where
  record : α
  collection : Collection α
  ids : List String

/-- the first candidate that is not in use, and the candidates after it -/
def firstUnused (used : String → Bool) : List String → Option (String × List String)
  | [] => none
  | id :: rest => if used id then firstUnused used rest else some (id, rest)

namespace Collection

variable {α : Type}

def empty : Collection α :=
  ⟨#[], ∅⟩

instance : Inhabited (Collection α) := ⟨empty⟩

def toList (c : Collection α) : List α :=
  c.rows.toList

def size (c : Collection α) : Nat :=
  c.rows.size

def isEmpty (c : Collection α) : Bool :=
  c.size == 0

def get? (c : Collection α) (id : String) : Option α :=
  c.index[id]?.bind fun position => c.rows[position]?

/-- adds the record that is built for a new id; nothing comes of it when every candidate is in use -/
def insert? [Identified α] (c : Collection α) (ids : List String) (build : String → α) : Option (Inserted α) :=
  (firstUnused c.index.contains ids).map fun (id, rest) =>
    let record := build id
    ⟨record, ⟨c.rows.push record, c.index.insert (Identified.id record) c.size⟩, rest⟩

theorem toList_empty : (empty : Collection α).toList = [] := rfl

theorem size_eq_length_toList (c : Collection α) : c.size = c.toList.length := by
  simp [size, toList]

/-- a record goes to the end -/
theorem toList_insert? [Identified α] (c : Collection α) (ids : List String) (build : String → α) (r : Inserted α)
    (h : c.insert? ids build = some r) : r.collection.toList = c.toList ++ [r.record] := by
  simp only [insert?, Option.map_eq_some_iff] at h
  obtain ⟨p, _, rfl⟩ := h
  simp [toList]

end Collection

end MockBank
