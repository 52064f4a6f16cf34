/-
Everything the bank knows: five collections, to which records are only ever added.
-/
import MockBank.Query.Filter
import MockBank.Query.Page
import MockBank.Store.Collection

namespace MockBank

/-- the five collections -/
structure Bank where
  customers : Collection Customer
  accounts : Collection Account
  cards : Collection Card
  transactions : Collection Transaction
  loans : Collection Loan

/-- the page of a collection's records that pass the test -/
def Collection.page {α : Type} (c : Collection α) (keep : α → Bool) (r : PageRequest) : Page α :=
  paginate c.toList keep r

namespace Bank

def empty : Bank :=
  ⟨.empty, .empty, .empty, .empty, .empty⟩

/-- adds the customer that a profile becomes -/
def addCustomer? (b : Bank) (ids : List String) (now : DateTime) (p : Profile) :
    Option (Customer × Bank × List String) :=
  (b.customers.insert? ids fun id => p.toCustomer id now).map fun r =>
    (r.record, { b with customers := r.collection }, r.ids)

def addAccount? (b : Bank) (ids : List String) (build : String → Account) : Option (Account × Bank × List String) :=
  (b.accounts.insert? ids build).map fun r => (r.record, { b with accounts := r.collection }, r.ids)

def addCard? (b : Bank) (ids : List String) (build : String → Card) : Option (Card × Bank × List String) :=
  (b.cards.insert? ids build).map fun r => (r.record, { b with cards := r.collection }, r.ids)

def addTransaction? (b : Bank) (ids : List String) (build : String → Transaction) :
    Option (Transaction × Bank × List String) :=
  (b.transactions.insert? ids build).map fun r => (r.record, { b with transactions := r.collection }, r.ids)

def addLoan? (b : Bank) (ids : List String) (build : String → Loan) : Option (Loan × Bank × List String) :=
  (b.loans.insert? ids build).map fun r => (r.record, { b with loans := r.collection }, r.ids)

end Bank

end MockBank
