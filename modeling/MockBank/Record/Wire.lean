/-
How the values inside records are written into documents and read back.  A document that is no record is told in the
words of its first value that does not fit.
-/
import MockBank.Calendar.DateTime
import MockBank.Calendar.Reader
import MockBank.Json.Printer
import MockBank.Record.Named

namespace MockBank

/-! ## What does not fit -/

/-- what does not fit -/
inductive Mismatch where
  | missing (name : String)
  | wrongType (found : Json) (expected : String)
  | tooGreat (n : Int) (expected : String)
  | noDate (e : Calendar.ReadError)
  | noName (given : String) (names : List String)

namespace Mismatch

/-- a value as errors name it -/
def describe : Json → String
  | .null => "null"
  | .bool b => "boolean `" ++ (if b then "true" else "false") ++ "`"
  | .number (.whole n) => "integer `" ++ toString n.val ++ "`"
  | .number (.double x) => "floating point `" ++ x.text ++ "`"
  | .string s => "string " ++ Json.quote s
  | .array _ => "sequence"
  | .object _ => "map"

def message : Mismatch → String
  | .missing name => "missing field `" ++ name ++ "`"
  | .wrongType found expected => "invalid type: " ++ describe found ++ ", expected " ++ expected
  | .tooGreat n expected => "invalid value: integer `" ++ toString n ++ "`, expected " ++ expected
  | .noDate e => e.message
  | .noName given names =>
    "unknown variant `" ++ given ++ "`, expected one of " ++ ", ".intercalate (names.map fun n => "`" ++ n ++ "`")

end Mismatch

/-! ## Both directions -/

/-- the two directions between a value and its document -/
structure Wire (α : Type) where
  write : α → Json
  read : Json → Except Mismatch α

namespace Wire

def text : Wire String where
  write := .string
  read
    | .string s => .ok s
    | v => .error (.wrongType v "a string")

/-- a number, whole ones rounded to the nearest -/
def double : Wire Binary64 where
  write x := .number (.double x)
  read
    | .number n => .ok n.toBinary64
    | v => .error (.wrongType v "a number")

/-- a whole number that fits into 64 signed bits -/
def int64 : Wire Int64 where
  write n := .number (.whole (Json.Whole.ofInt64 n))
  read
    | .number (.whole n) =>
      if n.val < 0x8000000000000000 then .ok (Int64.ofInt n.val) else .error (.tooGreat n.val "i64")
    | v => .error (.wrongType v "an integer")

def date : Wire Date where
  write d := .string d.text
  read
    | .string s => (Date.read s).mapError .noDate
    | v => .error (.wrongType v "a formatted date string")

def dateTime : Wire DateTime where
  write t := .string t.text
  read
    | .string s => (DateTime.read s).mapError .noDate
    | v => .error (.wrongType v "a formatted date and time string")

def named (α : Type) [Named α] : Wire α where
  write a := .string (Named.name a)
  read
    | .string s =>
      match Named.ofName? s with
      | some a => .ok a
      | none => .error (.noName s (Named.names α))
    | v => .error (.wrongType v "a name")

def members : Wire (List (String × Json)) where
  write := .object
  read
    | .object members => .ok members
    | v => .error (.wrongType v "a map")

def list {α : Type} (item : Wire α) : Wire (List α) where
  write l := .array (l.map item.write)
  read
    | .array items => items.mapM item.read
    | v => .error (.wrongType v "a sequence")

/-- null for none -/
def optional {α : Type} (inner : Wire α) : Wire (Option α) where
  write
    | none => .null
    | some a => inner.write a
  read
    | .null => .ok none
    | v => (inner.read v).map some

end Wire

end MockBank
