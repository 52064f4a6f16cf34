/-
The closed sets of values in the bank's records, with the names that documents spell them by.
-/
import MockBank.Record.Named

namespace MockBank

inductive CustomerType where
  | personal
  | business
  deriving DecidableEq, Repr

instance : Named CustomerType where
  typeName := "CustomerType"
  all := [.personal, .business]
  name
    | .personal => "PERSONAL"
    | .business => "BUSINESS"
  find_name a := by cases a <;> decide

/-- how far a customer's identity is checked -/
inductive KycStatus where
  | pending
  | verified
  | rejected
  deriving DecidableEq, Repr

instance : Named KycStatus where
  typeName := "KycStatus"
  all := [.pending, .verified, .rejected]
  name
    | .pending => "PENDING"
    | .verified => "VERIFIED"
    | .rejected => "REJECTED"
  find_name a := by cases a <;> decide

/-- how much risk a customer carries -/
inductive RiskProfile where
  | low
  | medium
  | high
  deriving DecidableEq, Repr

instance : Named RiskProfile where
  typeName := "RiskProfile"
  all := [.low, .medium, .high]
  name
    | .low => "LOW"
    | .medium => "MEDIUM"
    | .high => "HIGH"
  find_name a := by cases a <;> decide

inductive CustomerStatus where
  | active
  | inactive
  | blocked
  deriving DecidableEq, Repr

instance : Named CustomerStatus where
  typeName := "CustomerStatus"
  all := [.active, .inactive, .blocked]
  name
    | .active => "ACTIVE"
    | .inactive => "INACTIVE"
    | .blocked => "BLOCKED"
  find_name a := by cases a <;> decide

inductive AccountType where
  | checking
  | savings
  | investment
  | fixedDeposit
  deriving DecidableEq, Repr

instance : Named AccountType where
  typeName := "AccountType"
  all := [.checking, .savings, .investment, .fixedDeposit]
  name
    | .checking => "CHECKING"
    | .savings => "SAVINGS"
    | .investment => "INVESTMENT"
    | .fixedDeposit => "FIXED_DEPOSIT"
  find_name a := by cases a <;> decide

inductive AccountStatus where
  | active
  | frozen
  | closed
  deriving DecidableEq, Repr

instance : Named AccountStatus where
  typeName := "AccountStatus"
  all := [.active, .frozen, .closed]
  name
    | .active => "ACTIVE"
    | .frozen => "FROZEN"
    | .closed => "CLOSED"
  find_name a := by cases a <;> decide

inductive CardType where
  | debit
  | credit
  | prepaid
  deriving DecidableEq, Repr

instance : Named CardType where
  typeName := "CardType"
  all := [.debit, .credit, .prepaid]
  name
    | .debit => "DEBIT"
    | .credit => "CREDIT"
    | .prepaid => "PREPAID"
  find_name a := by cases a <;> decide

inductive CardStatus where
  | active
  | blocked
  | expired
  deriving DecidableEq, Repr

instance : Named CardStatus where
  typeName := "CardStatus"
  all := [.active, .blocked, .expired]
  name
    | .active => "ACTIVE"
    | .blocked => "BLOCKED"
    | .expired => "EXPIRED"
  find_name a := by cases a <;> decide

inductive TransactionType where
  | deposit
  | withdrawal
  | transfer
  | payment
  deriving DecidableEq, Repr

instance : Named TransactionType where
  typeName := "TransactionType"
  all := [.deposit, .withdrawal, .transfer, .payment]
  name
    | .deposit => "DEPOSIT"
    | .withdrawal => "WITHDRAWAL"
    | .transfer => "TRANSFER"
    | .payment => "PAYMENT"
  find_name a := by cases a <;> decide

/-- how far a movement of funds has come -/
inductive TransactionStatus where
  | pending
  | completed
  | failed
  | reversed
  deriving DecidableEq, Repr

instance : Named TransactionStatus where
  typeName := "TransactionStatus"
  all := [.pending, .completed, .failed, .reversed]
  name
    | .pending => "PENDING"
    | .completed => "COMPLETED"
    | .failed => "FAILED"
    | .reversed => "REVERSED"
  find_name a := by cases a <;> decide

inductive PaymentStatus where
  | pending
  | paid
  | overdue
  deriving DecidableEq, Repr

instance : Named PaymentStatus where
  typeName := "PaymentStatus"
  all := [.pending, .paid, .overdue]
  name
    | .pending => "PENDING"
    | .paid => "PAID"
    | .overdue => "OVERDUE"
  find_name a := by cases a <;> decide

inductive LoanType where
  | personal
  | mortgage
  | business
  | auto
  deriving DecidableEq, Repr

instance : Named LoanType where
  typeName := "LoanType"
  all := [.personal, .mortgage, .business, .auto]
  name
    | .personal => "PERSONAL"
    | .mortgage => "MORTGAGE"
    | .business => "BUSINESS"
    | .auto => "AUTO"
  find_name a := by cases a <;> decide

inductive LoanStatus where
  | pending
  | active
  | paid
  | defaulted
  deriving DecidableEq, Repr

instance : Named LoanStatus where
  typeName := "LoanStatus"
  all := [.pending, .active, .paid, .defaulted]
  name
    | .pending => "PENDING"
    | .active => "ACTIVE"
    | .paid => "PAID"
    | .defaulted => "DEFAULTED"
  find_name a := by cases a <;> decide

end MockBank
