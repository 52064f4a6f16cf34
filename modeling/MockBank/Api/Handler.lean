/-
What each endpoint answers.  Reading never changes the bank; adding a customer is the only request that does, and a
refused request changes nothing.
-/
import MockBank.Api.JsonBody
import MockBank.Api.OpenApi
import MockBank.Api.Request
import MockBank.Api.Response
import MockBank.Store.Bank

namespace MockBank

/-- a request with what it meets: candidates for a new id, and the time -/
structure Arrival where
  request : Request
  ids : List String
  now : DateTime

namespace Api

def listCustomers (b : Bank) (p : Parameters) : Except ApiError (Page Customer) := do
  let page ← (PageRequest.of p.page p.limit).mapError .query
  return b.customers.page (fun _ => true) page

def listAccounts (b : Bank) (p : Parameters) : Except ApiError (Page Account) := do
  let page ← (PageRequest.of p.page p.limit).mapError .query
  return b.accounts.page (HolderFilter.of (p.text? "customer_id")).admitsAccount page

def listCards (b : Bank) (p : Parameters) : Except ApiError (Page Card) := do
  let page ← (PageRequest.of p.page p.limit).mapError .query
  return b.cards.page (HolderFilter.of (p.text? "customer_id")).admitsCard page

/-- the page of transactions that a query asks for; the page is looked at before the days -/
def listTransactions (b : Bank) (p : Parameters) : Except ApiError (Page Transaction) := do
  let page ← (PageRequest.of p.page p.limit).mapError .query
  let filter ← (TransactionFilter.of (p.text? "account_id") (p.text? "start_date") (p.text? "end_date")).mapError .query
  return b.transactions.page filter.admits page

def listLoans (b : Bank) (p : Parameters) : Except ApiError (Page Loan) := do
  let page ← (PageRequest.of p.page p.limit).mapError .query
  return b.loans.page (LoanFilter.of (p.text? "customer_id") (p.text? "status")).admits page

def showCustomer (b : Bank) (id : String) : Except ApiError Customer :=
  match b.customers.get? id with
  | some c => .ok c
  | none => .error (.notFound "Customer")

def showSchema (name : String) : Except ApiError Table :=
  match Registry.table? name with
  | some t => .ok t
  | none => .error (.notFound "Schema")

def readProfile (r : Request) : Except ApiError Profile := do
  let v ← (JsonBody.read r).mapError .rejected
  (Entity.decode Profile v).mapError .rejected

/-- a document, or the answer to a refused request -/
def answer {α : Type} (toJson : α → Json) : Except ApiError α → Response
  | .ok a => .json 200 (toJson a)
  | .error e => e.response

def answerList {α : Type} [Entity α] (known : List String) (list : Parameters → Except ApiError (Page α))
    (r : Request) : Response :=
  answer (Page.toJson Entity.toJson) (((Parameters.read known r.query).mapError .query).bind list)

/-- the answer for the text of a free segment, which must be UTF-8 -/
def withSegment (name : String) (segment : List Char) (answer : String → Response) : Response :=
  match Endpoint.segmentText? segment with
  | some text => answer text
  | none => .of 400 (.plain ("Invalid URL: Invalid UTF-8 in `" ++ name ++ "`"))

/-- what an endpoint shows -/
def view (b : Bank) (r : Request) : Endpoint → Response
  | .schemas => .json 200 (.object Registry.definitions)
  | .schema name => withSegment "name" name fun name => answer Table.definition (showSchema name)
  | .customers => answerList [] (listCustomers b) r
  | .customer id => withSegment "id" id fun id => answer Entity.toJson (showCustomer b id)
  | .accounts => answerList ["customer_id"] (listAccounts b) r
  | .cards => answerList ["customer_id"] (listCards b) r
  | .transactions => answerList ["account_id", "start_date", "end_date"] (listTransactions b) r
  | .loans => answerList ["customer_id", "status"] (listLoans b) r
  | .openApi => .json 200 OpenApi.document
  | .docs => .of 200 (.html DocsPage.html)

/-- adds the customer in a request's body; nothing comes of it when every candidate id is in use -/
def createCustomer (b : Bank) (a : Arrival) : Option (Response × Bank) :=
  match readProfile a.request with
  | .error e => some (e.response, b)
  | .ok p => (b.addCustomer? a.ids a.now p).map fun (c, b, _) => (.json 200 (Entity.toJson c), b)

/-- the response to a method that an endpoint does not answer -/
def methodNotAllowed (e : Endpoint) : Response :=
  ⟨405, [("allow", e.allow)], .empty⟩

def preflight (r : Request) (e : Option Endpoint) : Response :=
  ⟨200, Cors.preflightHeaders r ++ Response.headerOf "allow" (e.map Endpoint.allow), .empty⟩

/-- the response to a request, and the bank after it, before the headers that every response has -/
def route (b : Bank) (a : Arrival) : Option (Response × Bank) :=
  let r := a.request
  match r.method, Endpoint.ofPath? r.path with
  | .options, e => some (preflight r e, b)
  | _, none => some (.of 404 .empty, b)
  | .get, some e => some (view b r e, b)
  | .head, some e => some ((view b r e).withoutBody, b)
  | .post, some .customers => createCustomer b a
  | _, some e => some (methodNotAllowed e, b)

def respond (b : Bank) (a : Arrival) : Option (Response × Bank) :=
  (route b a).map fun (response, b) => (response.withHeaders (Cors.headers a.request), b)

/-- the responses to requests one after another, and the bank after them -/
def run (b : Bank) : List Arrival → Option (List Response × Bank)
  | [] => some ([], b)
  | a :: rest => do
    let (response, b) ← respond b a
    let (responses, b) ← run b rest
    return (response :: responses, b)

end Api

end MockBank
