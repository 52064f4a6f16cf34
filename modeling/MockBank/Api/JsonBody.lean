/-
Request bodies that should be documents.  The media type is looked at first, then the size, then the text.  A media
type is a type, a subtype, and parameters, which must be well-formed but do not matter.
-/
import MockBank.Api.Request
import MockBank.Json.Reader
import MockBank.Schema.Issue
import MockBank.Text.Split

namespace MockBank

/-! ## Media types -/

/-- a media type in lower case; the subtype may have a suffix after its last plus sign -/
structure MediaType where
  type : List Char
  subtype : List Char
  suffix : Option (List Char)
  deriving DecidableEq

/-- where the reader of parameters is; the flag says that nothing is read there yet -/
inductive MediaType.Place where
  | name (fresh : Bool)
  | value (fresh : Bool)
  | quoted (fresh : Bool)
  | afterQuoted

namespace MediaType

/-- the characters of a type, a subtype, or an unquoted parameter -/
def isTokenChar (c : Char) : Bool :=
  c.isAlphanum || "!#$%&'*+-.^_`|~".toList.contains c

/-- the place after a character, if the character may stand there -/
def Place.next (p : Place) (c : Char) : Option Place :=
  match p with
  | .name fresh =>
    if c = ' ' then (if fresh then some (.name true) else none)
    else if c = '=' then (if fresh then none else some (.value true))
    else if isTokenChar c then some (.name false)
    else none
  | .value fresh =>
    if c = '"' then (if fresh then some (.quoted true) else none)
    else if c = ';' then (if fresh then none else some (.name true))
    else if isTokenChar c then some (.value false)
    else none
  | .quoted fresh =>
    if c = '"' && !fresh then some .afterQuoted
    else if ' ' ≤ c ∧ c ≤ '~' then some (.quoted false)
    else none
  | .afterQuoted =>
    if c = ';' then some (.name true) else if c = ' ' then some .afterQuoted else none

def Place.mayEnd : Place → Bool
  | .name fresh => fresh
  | .value _ => true
  | .quoted _ => false
  | .afterQuoted => true

def areParameters (cs : List Char) : Bool :=
  (cs.foldlM Place.next (.name true)).any Place.mayEnd

/-- the media type that a header value denotes -/
def read? (text : String) : Option MediaType :=
  let (essence, parameters) := Text.splitFirst ';' text.toList
  match Text.splitFirst '/' essence with
  | (_, none) => none
  | (type, some subtype) =>
    if type.isEmpty || subtype.isEmpty || !(type.all isTokenChar && subtype.all isTokenChar) ||
        !parameters.all areParameters then none
    else
      match Text.splitLast? '+' (subtype.map Char.toLower) with
      | some (start, suffix) =>
        if start.isEmpty then some ⟨type.map Char.toLower, '+' :: suffix, none⟩
        else some ⟨type.map Char.toLower, start, some suffix⟩
      | none => some ⟨type.map Char.toLower, subtype.map Char.toLower, none⟩

/-- whether documents are sent under a media type: the subtype or the suffix says so -/
def isJson (m : MediaType) : Bool :=
  m.type == "application".toList && (m.subtype == "json".toList || m.suffix == some "json".toList)

end MediaType

end MockBank

namespace MockBank.JsonBody

/-! ## Documents -/

def maxSize : Nat :=
  2097152

def read (r : Request) : Except Rejection Json :=
  if !((r.header? "content-type").bind MediaType.read?).any MediaType.isJson then
    .error (Rejection.ofBody "Expected request with `Content-Type: application/json`")
  else if maxSize < r.body.length then
    .error (Rejection.ofBody "Failed to buffer the request body: length limit exceeded")
  else
    (Json.read r.body).mapError fun e =>
      Rejection.ofBody ("Failed to parse the request body as JSON: " ++ e.message)

end MockBank.JsonBody
