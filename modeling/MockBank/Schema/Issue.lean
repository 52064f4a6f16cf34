/-
Problems found in a request, each with its place and its kind.
-/
import MockBank.Json.Basic

namespace MockBank

inductive IssueKind where
  | missing
  | type
  | choice
  | format
  | length
  | json
  | query
  deriving DecidableEq, Repr

/-- the part of a request that a place is in -/
inductive Origin where
  | body
  | query
  deriving DecidableEq, Repr

/-- one problem: the part of the request, the path inside it, the kind and the wording -/
structure Issue where
  origin : Origin
  path : List Json.Segment
  kind : IssueKind
  message : String
  deriving DecidableEq

/-- why a request body is refused -/
structure Rejection where
  issues : List Issue
  deriving DecidableEq

def IssueKind.name : IssueKind → String
  | .missing => "missing"
  | .type => "type"
  | .choice => "enum"
  | .format => "format"
  | .length => "length"
  | .json => "json"
  | .query => "query"

def Origin.name : Origin → String
  | .body => "body"
  | .query => "query"

namespace Issue

/-- a problem with the value itself -/
def here (kind : IssueKind) (message : String) : Issue :=
  ⟨.body, [], kind, message⟩

/-- a problem with a value, seen from the container one step above it -/
def within (step : Json.Segment) (i : Issue) : Issue :=
  { i with path := step :: i.path }

/-- the place as texts, from the part of the request down -/
def loc (i : Issue) : List String :=
  i.origin.name :: i.path.map Json.Segment.text

def toJson (i : Issue) : Json :=
  .object [("loc", .ofStrings i.loc), ("msg", .string i.message), ("type", .string i.kind.name)]

end Issue

namespace Rejection

def ofBody (message : String) : Rejection :=
  ⟨[Issue.here .json message]⟩

/-- the first problem at a place -/
def at? (r : Rejection) (loc : List String) : Option Issue :=
  r.issues.find? fun i => i.loc == loc

def message (r : Rejection) : String :=
  "validation failed with " ++ toString r.issues.length ++ " issue(s)"

end Rejection

end MockBank
