/-
The tables of the bank's records, and all of them found by name.
-/
import MockBank.Record.Kinds
import MockBank.Schema.Basic
import MockBank.Schema.Definition

namespace MockBank

/-- the names of a closed set as choices -/
def FieldType.named (α : Type) [Named α] : FieldType :=
  .choice (Named.names α)

namespace Table

open TableField

def address : Table where
  name := "Address"
  description := "Postal address of a customer."
  fields := [
    required "street" .text,
    required "city" .text,
    optional "state" .text,
    (required "country" .text).length 2 2,
    required "postalCode" .text]

/-- the members of a customer that a client gives, between those that the service assigns -/
def customer : Table where
  name := "Customer"
  description := "A personal or business banking customer."
  fields := [
    readOnly "id" .id,
    required "customerType" (.named CustomerType),
    required "firstName" .text,
    required "lastName" .text,
    required "email" .email,
    optional "phone" .text,
    optional "dateOfBirth" .date,
    required "address" (.object address),
    required "kycStatus" (.named KycStatus),
    required "riskProfile" (.named RiskProfile),
    required "status" (.named CustomerStatus),
    readOnly "createdAt" .dateTime,
    readOnly "updatedAt" .dateTime]

def account : Table where
  name := "Account"
  description := "A deposit or investment account held by a customer."
  fields := [
    readOnly "id" .id,
    required "customerId" .id,
    required "accountType" (.named AccountType),
    required "accountNumber" .text,
    required "currency" .text,
    required "balance" .number,
    required "availableBalance" .number,
    required "interestRate" .number,
    required "status" (.named AccountStatus),
    required "openedDate" .date,
    required "lastActivityDate" .dateTime]

def card : Table where
  name := "Card"
  description := "A payment card linked to an account."
  fields := [
    readOnly "id" .id,
    required "customerId" .id,
    required "accountId" .id,
    required "cardType" (.named CardType),
    required "cardNumber" .text,
    required "expiryDate" .date,
    required "cvv" .text,
    required "status" (.named CardStatus),
    required "dailyLimit" .number,
    required "monthlyLimit" .number,
    optional "creditLimit" .number,
    required "issuedDate" .date]

def transaction : Table where
  name := "Transaction"
  description := "A movement of funds on an account."
  fields := [
    readOnly "id" .id,
    required "accountId" .id,
    required "type" (.named TransactionType),
    required "amount" .number,
    required "currency" .text,
    optional "description" .text,
    required "status" (.named TransactionStatus),
    required "timestamp" .dateTime,
    optional "referenceId" .text,
    optional "metadata" .map]

def loanPayment : Table where
  name := "LoanPayment"
  description := "One scheduled instalment of a loan."
  fields := [
    required "dueDate" .date,
    required "amount" .number,
    required "status" (.named PaymentStatus),
    optional "paidDate" .date]

def loan : Table where
  name := "Loan"
  description := "A loan granted to a customer with its repayment schedule."
  fields := [
    readOnly "id" .id,
    required "customerId" .id,
    required "type" (.named LoanType),
    required "amount" .number,
    required "currency" .text,
    required "interestRate" .number,
    required "term" .integer,
    required "status" (.named LoanStatus),
    required "startDate" .date,
    required "endDate" .date,
    required "remainingBalance" .number,
    required "paymentSchedule" (.array (.object loanPayment))]

end Table

end MockBank

namespace MockBank.Registry

/-! ## All tables -/

def tables : List Table :=
  [.address, .customer, .account, .card, .transaction, .loanPayment, .loan]

def table? (name : String) : Option Table :=
  tables.find? fun t => t.name == name

def definitions : List (String × Json) :=
  tables.map fun t => (t.name, t.definition)

end MockBank.Registry
