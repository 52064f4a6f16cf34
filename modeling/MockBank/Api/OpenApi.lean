/-
The published description of the interface: every endpoint with its parameters and answers, and the definitions that
they refer to.
-/
import MockBank.Query.Page
import MockBank.Schema.Tables

namespace MockBank.OpenApi

def title : String :=
  "Banking API"

def description : String :=
  "Mock banking API serving synthetic customers, accounts, cards, transactions and loans."

def version : String :=
  "0.1.0"

/-- the records that are listed page by page, with the heading of their endpoints -/
def listed : List (String × String) :=
  [("Customer", "Customers"), ("Account", "Accounts"), ("Card", "Cards"), ("Transaction", "Transactions"),
    ("Loan", "Loans")]

/-- a definition that is a type by name -/
def typed (type : String) : Json :=
  .object [("type", .string type)]

def reference (name : String) : Json :=
  .object [("$ref", .string (Table.referenceBase ++ name))]

def arrayOf (item : Json) : Json :=
  .object [("type", .string "array"), ("items", item)]

/-- a document of a definition -/
def content (definition : Json) : Json :=
  .object [("application/json", .object [("schema", definition)])]

def answer (description : String) (definition : Json) : Json :=
  .object [("description", .string description), ("content", content definition)]

def success (definition : Json) : Json :=
  answer "Successful Response" definition

/-- an answer that tells what is wrong under one name -/
def problem (description : String) (detail : Json) : Json :=
  answer description (.object [("type", .string "object"), ("properties", .object [("detail", detail)])])

/-- the answer with issues -/
def validationError : Json :=
  problem "Validation Error" (arrayOf (reference "ValidationIssue"))

def notFound : Json :=
  problem "Not Found" (typed "string")

/-- a page of records -/
def pageOf (name : String) : Json :=
  success (reference ("Paginated" ++ name))

def queryParameter (name : String) (definition : Json) : Json :=
  .object [("name", .string name), ("in", .string "query"), ("required", .bool false), ("schema", definition)]

def pathParameter (name : String) : Json :=
  .object [("name", .string name), ("in", .string "path"), ("required", .bool true), ("schema", typed "string")]

def textParameter (name : String) : Json :=
  queryParameter name (typed "string")

def dateParameter (name : String) : Json :=
  queryParameter name (.object [("type", .string "string"), ("format", .string "date")])

def pageParameters : List Json :=
  [queryParameter "page" (.object [
      ("type", .string "integer"),
      ("minimum", .ofNat 1),
      ("default", .ofNat PageRequest.defaultPage.toNat)]),
    queryParameter "limit" (.object [
      ("type", .string "integer"),
      ("minimum", .ofNat 1),
      ("maximum", .ofNat PageRequest.maxLimit.toNat),
      ("default", .ofNat PageRequest.defaultLimit.toNat)])]

/-- something to read, with its parameters and its answers -/
def operation (tag summary : String) (parameters : List Json) (ok : Json) (others : List (String × Json)) :
    List (String × Json) :=
  [("get", .object [
    ("tags", .ofStrings [tag]),
    ("summary", .string summary),
    ("parameters", .array parameters),
    ("responses", .object ([("200", ok), ("422", validationError)] ++ others))])]

def createCustomer : Json :=
  .object [
    ("tags", .ofStrings ["Customers"]),
    ("summary", .string "Create a new customer"),
    ("requestBody", .object [("required", .bool true), ("content", content (reference "Customer"))]),
    ("responses", .object [("200", success (reference "Customer")), ("422", validationError)])]

/-- the endpoints under their paths -/
def paths : List (String × Json) :=
  [("/api/schemas", .object (
      operation "Schemas" "Get all available schemas" [] (success (typed "object")) [])),
    ("/api/schemas/\x7bschema_name\x7d", .object (
      operation "Schemas" "Get specific schema by name" [pathParameter "schema_name"] (success (typed "object"))
        [("404", notFound)])),
    ("/api/customers", .object (
      operation "Customers" "List all customers with pagination" pageParameters (pageOf "Customer") [] ++
        [("post", createCustomer)])),
    ("/api/customers/\x7bcustomer_id\x7d", .object (
      operation "Customers" "Get customer details" [pathParameter "customer_id"] (success (reference "Customer"))
        [("404", notFound)])),
    ("/api/accounts", .object (
      operation "Accounts" "List all accounts with optional customer filter"
        (textParameter "customer_id" :: pageParameters) (pageOf "Account") [])),
    ("/api/cards", .object (
      operation "Cards" "List all cards with optional customer filter"
        (textParameter "customer_id" :: pageParameters) (pageOf "Card") [])),
    ("/api/transactions", .object (
      operation "Transactions" "List all transactions with filters"
        ([textParameter "account_id", dateParameter "start_date", dateParameter "end_date"] ++ pageParameters)
        (pageOf "Transaction") [])),
    ("/api/loans", .object (
      operation "Loans" "List all loans with filters"
        ([textParameter "customer_id", textParameter "status"] ++ pageParameters) (pageOf "Loan") []))]

/-- the definition of a page of records -/
def envelope (name : String) : Json :=
  .object [
    ("title", .string ("Paginated" ++ name)),
    ("type", .string "object"),
    ("required", .ofStrings ["data", "total", "page", "limit"]),
    ("properties", .object [
      ("data", arrayOf (reference name)),
      ("total", typed "integer"),
      ("page", typed "integer"),
      ("limit", typed "integer")])]

/-- the definition of an issue -/
def issue : Json :=
  .object [
    ("title", .string "ValidationIssue"),
    ("type", .string "object"),
    ("required", .ofStrings ["loc", "msg", "type"]),
    ("properties", .object [
      ("loc", arrayOf (typed "string")),
      ("msg", typed "string"),
      ("type", typed "string")])]

/-- all definitions under their names: the tables, the pages, the issue -/
def definitions : List (String × Json) :=
  Registry.definitions ++ listed.map (fun l => ("Paginated" ++ l.1, envelope l.1)) ++ [("ValidationIssue", issue)]

def tags : List Json :=
  (listed.map Prod.snd ++ ["Schemas"]).map fun tag => .object [("name", .string tag)]

/-- the description as a document -/
def document : Json :=
  .object [
    ("openapi", .string "3.0.3"),
    ("info", .object [
      ("title", .string title),
      ("version", .string version),
      ("description", .string description)]),
    ("tags", .array tags),
    ("paths", .object paths),
    ("components", .object [("schemas", .object definitions)])]

end MockBank.OpenApi

namespace MockBank.DocsPage

/-! ## The page that shows it -/

def lines : List String :=
  ["<!DOCTYPE html>",
    "<html>",
    "<head>",
    "  <title>Banking API - Swagger UI</title>",
    "  <link rel=\"stylesheet\" href=\"https://unpkg.com/swagger-ui-dist@5/swagger-ui.css\">",
    "</head>",
    "<body>",
    "  <div id=\"swagger-ui\"></div>",
    "  <script src=\"https://unpkg.com/swagger-ui-dist@5/swagger-ui-bundle.js\"></script>",
    "  <script>",
    "    window.ui = SwaggerUIBundle(\x7b url: \"/openapi.json\", dom_id: \"#swagger-ui\" \x7d);",
    "  </script>",
    "</body>",
    "</html>"]

def html : String :=
  String.join (lines.map fun l => l ++ "\n")

end MockBank.DocsPage
