/-
Responses: a status, headers and a body.  A request that is refused is told its issues or what is not there.  For
pages of other origins, every origin is let in, and what a page asks leave for is granted as it asks.
-/
import MockBank.Api.Request
import MockBank.Json.Basic
import MockBank.Query.Page

namespace MockBank

/-! ## Responses -/

/-- what a response carries -/
inductive Body where
  | empty
  | json (v : Json)
  | html (text : String)
  | plain (text : String)

/-- a response; header names are in lower case -/
structure Response where
  status : Nat
  headers : List (String × String)
  body : Body

def Body.contentType? : Body → Option String
  | .empty => none
  | .json _ => some "application/json"
  | .html _ => some "text/html; charset=utf-8"
  | .plain _ => some "text/plain; charset=utf-8"

namespace Response

/-- a header that is there if its value is -/
def headerOf (name : String) (value : Option String) : List (String × String) :=
  match value with
  | none => []
  | some v => [(name, v)]

/-- a response with a body and its media type -/
def of (status : Nat) (body : Body) : Response :=
  ⟨status, headerOf "content-type" body.contentType?, body⟩

def json (status : Nat) (v : Json) : Response :=
  of status (.json v)

def withoutBody (r : Response) : Response :=
  { r with body := .empty }

def withHeaders (r : Response) (headers : List (String × String)) : Response :=
  { r with headers := r.headers ++ headers }

@[simp] theorem status_of (status : Nat) (body : Body) : (of status body).status = status := rfl

@[simp] theorem body_of (status : Nat) (body : Body) : (of status body).body = body := rfl

@[simp] theorem status_json (status : Nat) (v : Json) : (json status v).status = status := rfl

@[simp] theorem body_json (status : Nat) (v : Json) : (json status v).body = .json v := rfl

@[simp] theorem status_withHeaders (r : Response) (headers : List (String × String)) :
    (r.withHeaders headers).status = r.status := rfl

@[simp] theorem body_withHeaders (r : Response) (headers : List (String × String)) :
    (r.withHeaders headers).body = r.body := rfl

def header? (r : Response) (name : String) : Option String :=
  (r.headers.find? fun h => h.1 == name).map Prod.snd

end Response

/-! ## Refusals -/

/-- why a request is refused -/
inductive ApiError where
  | rejected (r : Rejection)
  | notFound (what : String)
  | query (e : QueryError)
  deriving DecidableEq

namespace ApiError

/-- the status that tells the client so -/
def status : ApiError → Nat
  | .rejected _ => 422
  | .notFound _ => 404
  | .query _ => 422

def message : ApiError → String
  | .rejected r => r.message
  | .notFound what => what ++ " not found"
  | .query e => e.message

/-- issues, or for a missing thing the wording, under one name -/
def detail : ApiError → Json
  | .rejected r => .array (r.issues.map Issue.toJson)
  | .notFound what => .string (what ++ " not found")
  | .query e => .array [e.issue.toJson]

def response (e : ApiError) : Response :=
  .json e.status (.object [("detail", e.detail)])

@[simp] theorem status_response (e : ApiError) : e.response.status = e.status := rfl

@[simp] theorem body_response (e : ApiError) : e.response.body = .json (.object [("detail", e.detail)]) := rfl

end ApiError

end MockBank

namespace MockBank.Cors

/-! ## Pages of other origins -/

open Response (headerOf)

/-- the headers of every response -/
def headers (r : Request) : List (String × String) :=
  [("vary", "origin, access-control-request-method, access-control-request-headers"),
    ("access-control-allow-credentials", "true")] ++
    headerOf "access-control-allow-origin" (r.header? "origin")

/-- the further headers of the response to a question about what is allowed -/
def preflightHeaders (r : Request) : List (String × String) :=
  headerOf "access-control-allow-methods" (r.header? "access-control-request-method") ++
    headerOf "access-control-allow-headers" (r.header? "access-control-request-headers")

end MockBank.Cors
