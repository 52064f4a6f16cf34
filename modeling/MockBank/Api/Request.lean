/-
Requests as they arrive: a method, a target, headers and a body.  The target holds a path, which stays percent-encoded,
and after a question mark a query; what follows a number sign belongs to neither, and an absolute target may name a
scheme and a host before them.

Paths lead to endpoints; the last segment of two of them is free and must not be empty.  The query of a list is read
in the order it is written: a name that the list does not know is passed over; a known name that comes twice, or a
page or limit that is no 64-bit integer, refuses the whole query.
-/
import MockBank.Query.Page
import MockBank.Text.Digits
import MockBank.Text.Form
import MockBank.Text.Split
import MockBank.Text.Utf8

namespace MockBank

/-! ## Requests -/

/-- what a request asks to do -/
inductive Method where
  | get
  | head
  | post
  | options
  | other (name : String)
  deriving DecidableEq

structure Request where
  method : Method
  target : String
  headers : List (String × String)
  body : List UInt8

def Method.ofName (name : String) : Method :=
  if name == "GET" then .get
  else if name == "HEAD" then .head
  else if name == "POST" then .post
  else if name == "OPTIONS" then .options
  else .other name

namespace Request

/-- a target without its scheme and host, if it has them -/
def withoutHost (target : List Char) : List Char :=
  if target.head? == some '/' then target
  else
    match Text.splitFirst ':' target with
    | (_, some ('/' :: '/' :: rest)) => rest.dropWhile fun c => c != '/' && c != '?'
    | _ => target

/-- the target up to a number sign, from the path on -/
def resource (r : Request) : List Char :=
  withoutHost (Text.splitFirst '#' r.target.toList).1

def path (r : Request) : List Char :=
  (Text.splitFirst '?' r.resource).1

/-- the query in bytes; without a question mark it is empty -/
def query (r : Request) : List UInt8 :=
  (String.ofList ((Text.splitFirst '?' r.resource).2.getD [])).toUTF8.toList

/-- the first header of a name, whose case does not matter -/
def header? (r : Request) (name : String) : Option String :=
  (r.headers.find? fun h => h.1.toLower == name).map Prod.snd

end Request

/-! ## Endpoints -/

/-- what a path leads to; free segments are still percent-encoded -/
inductive Endpoint where
  | schemas
  | schema (name : List Char)
  | customers
  | customer (id : List Char)
  | accounts
  | cards
  | transactions
  | loans
  | openApi
  | docs
  deriving DecidableEq

namespace Endpoint

/-- the paths without a free segment -/
def fixedPaths : List (String × Endpoint) :=
  [("/api/schemas", .schemas), ("/api/customers", .customers), ("/api/accounts", .accounts), ("/api/cards", .cards),
    ("/api/transactions", .transactions), ("/api/loans", .loans), ("/openapi.json", .openApi), ("/docs", .docs)]

/-- the free segment of a path that begins as given -/
def freeSegment? (start : String) (path : List Char) : Option (List Char) :=
  if start.toList.isPrefixOf path then
    let segment := path.drop start.length
    if segment.isEmpty || segment.contains '/' then none else some segment
  else none

/-- the endpoint of a path -/
def ofPath? (path : List Char) : Option Endpoint :=
  match fixedPaths.find? fun p => p.1.toList == path with
  | some p => some p.2
  | none =>
    match freeSegment? "/api/schemas/" path with
    | some name => some (.schema name)
    | none => (freeSegment? "/api/customers/" path).map .customer

/-- the methods that an endpoint answers, as the header that lists them -/
def allow : Endpoint → String
  | .customers => "GET,HEAD,POST"
  | _ => "GET,HEAD"

/-- the text of a free segment, if its bytes are UTF-8 -/
def segmentText? (segment : List Char) : Option String :=
  Text.Utf8.decode? (Text.Percent.decode (String.ofList segment).toUTF8.toList)

end Endpoint

/-! ## Parameters -/

/-- the parameters of a list: the page, the limit, and texts by name -/
structure Parameters where
  page : Option Int64
  limit : Option Int64
  texts : List (String × String)

namespace Parameters

def empty : Parameters :=
  ⟨none, none, []⟩

def text? (p : Parameters) (name : String) : Option String :=
  p.texts.lookup name

/-- a query that cannot be read -/
def unreadable (why : String) : QueryError :=
  ⟨"query", "Failed to deserialize query string: " ++ why⟩

/-- the wording for a known name that comes twice -/
def duplicate (name : String) : QueryError :=
  unreadable ("duplicate field `" ++ name ++ "`")

/-- the integer of a known name -/
def integer (name value : String) : Except QueryError Int64 :=
  (Text.readInt64 value).mapError fun e => unreadable (name ++ ": " ++ e.message)

/-- one more pair; whether its name came before is looked at before its value -/
def add (known : List String) (p : Parameters) (name value : String) : Except QueryError Parameters :=
  if name == "page" then
    if p.page.isSome then .error (duplicate name)
    else (integer name value).map fun n => { p with page := some n }
  else if name == "limit" then
    if p.limit.isSome then .error (duplicate name)
    else (integer name value).map fun n => { p with limit := some n }
  else if known.contains name then
    if (p.text? name).isSome then .error (duplicate name) else .ok { p with texts := p.texts ++ [(name, value)] }
  else .ok p

/-- the parameters of a query, whose texts have the known names -/
def read (known : List String) (query : List UInt8) : Except QueryError Parameters :=
  (Text.Form.decode query).foldlM (fun p (name, value) => add known p name value) empty

end Parameters

end MockBank
