/-
The compact text of a document: no blanks, members in order, and in texts only quotes, backslashes and control
characters are escaped.
-/
import MockBank.Json.Basic
import MockBank.Number.Shortest
import MockBank.Text.Digits

namespace MockBank

namespace Json

/-- the spelling of a character inside a text -/
def escape (c : Char) : List Char :=
  if c = '"' then ['\\', '"']
  else if c = '\\' then ['\\', '\\']
  else if c = '\n' then ['\\', 'n']
  else if c = '\r' then ['\\', 'r']
  else if c = '\t' then ['\\', 't']
  else if c.toNat = 8 then ['\\', 'b']
  else if c.toNat = 12 then ['\\', 'f']
  else if c.toNat < 0x20 then '\\' :: 'u' :: Text.hexText 4 c.toNat
  else [c]

def quote (s : String) : String :=
  String.ofList ('"' :: (s.toList.flatMap escape ++ ['"']))

def Number.text : Number → String
  | .whole n => toString n.val
  | .double x => x.text

mutual

/-- the pieces of a document's text, in order -/
def pieces : Json → List String
  | .null => ["null"]
  | .bool b => [if b then "true" else "false"]
  | .number n => [n.text]
  | .string s => [quote s]
  | .array items => "[" :: (itemPieces items ++ ["]"])
  | .object members => "\x7b" :: (memberPieces members ++ ["\x7d"])

/-- the items of an array, a comma between them -/
def itemPieces : List Json → List String
  | [] => []
  | [v] => pieces v
  | v :: rest => pieces v ++ "," :: itemPieces rest

/-- the members of an object, a comma between them -/
def memberPieces : List (String × Json) → List String
  | [] => []
  | [(k, v)] => quote k :: ":" :: pieces v
  | (k, v) :: rest => quote k :: ":" :: (pieces v ++ "," :: memberPieces rest)

end

def render (v : Json) : String :=
  String.join (pieces v)

end Json

end MockBank
