/-
Days and times read from text.  Reading is lenient: blanks may stand before every number and mark and at the end, month
and day may have one digit, and a signed year may have any number of digits.  `Date.text` and `DateTime.text` write one
of the accepted forms.
-/
import MockBank.Calendar.DateTime
import MockBank.Text.Digits

namespace MockBank

/-- why a text is no day or time -/
inductive Calendar.ReadError where
  | premature
  | invalid
  | outOfRange
  | trailing
  deriving DecidableEq

namespace Calendar

open Text

def ReadError.message : ReadError → String
  | .premature => "premature end of input"
  | .invalid => "input contains invalid characters"
  | .outOfRange => "input is out of range"
  | .trailing => "trailing input"

/-- a number of one to `limit` digits, and what follows it -/
def number (limit : Nat) (cs : List Char) : Except ReadError (Nat × List Char) :=
  match cs with
  | [] => .error .premature
  | c :: _ =>
    if c.isDigit then
      let ds := leadingDigits limit cs
      .ok (digitsValue ds, cs.drop ds.length)
    else .error .invalid

/-- a number of one or two digits within bounds -/
def field (low high : Nat) (cs : List Char) : Except ReadError (Nat × List Char) := do
  let (n, rest) ← number 2 (skipBlanks cs)
  if low ≤ n ∧ n ≤ high then .ok (n, rest) else .error .outOfRange

/-- up to four digits, or a sign and any number of digits; within the signed 32-bit integers -/
def yearField (cs : List Char) : Except ReadError (Int × List Char) := do
  let (year, rest) ←
    match skipBlanks cs with
    | '-' :: cs => (number cs.length cs).map fun (n, rest) => (-(n : Int), rest)
    | '+' :: cs => (number cs.length cs).map fun (n, rest) => ((n : Int), rest)
    | cs => (number 4 cs).map fun (n, rest) => ((n : Int), rest)
  if -0x80000000 ≤ year ∧ year < 0x80000000 then .ok (year, rest) else .error .outOfRange

/-- a mark between two numbers -/
def mark (c : Char) (cs : List Char) : Except ReadError (List Char) :=
  match skipBlanks cs with
  | [] => .error .premature
  | d :: rest => if d = c then .ok rest else .error .invalid

/-- the fraction of a second in nanoseconds; digits after the ninth are dropped -/
def fraction (cs : List Char) : Except ReadError (Nat × List Char) :=
  match cs with
  | '.' :: rest => do
    let (n, after) ← number 9 rest
    .ok (n * Nat.pow 10 (9 - (rest.length - after.length)), after.dropWhile Char.isDigit)
  | cs => .ok (0, cs)

/-- only blanks may be left -/
def finish (cs : List Char) : Except ReadError Unit :=
  if (skipBlanks cs).isEmpty then .ok () else .error .trailing

/-- year, month and day, not yet known to be a day that exists -/
def dateFields (cs : List Char) : Except ReadError ((Int × Nat × Nat) × List Char) := do
  let (year, cs) ← yearField cs
  let cs ← mark '-' cs
  let (month, cs) ← field 1 12 cs
  let cs ← mark '-' cs
  let (day, cs) ← field 1 31 cs
  .ok ((year, month, day), cs)

def dateOf (year : Int) (month day : Nat) : Except ReadError Date :=
  match Date.of? year month day with
  | some d => .ok d
  | none => .error .outOfRange

/-- the point of time with these numbers; a sixtieth second is the leap second after the fifty-ninth -/
def timeOf (date : Date) (hour minute second nanosecond : Nat) : Except ReadError DateTime :=
  if h : hour < 24 ∧ minute < 60 ∧ second ≤ 60 ∧ nanosecond < 1000000000 then
    if hsecond : second < 60 then .ok ⟨date, hour, minute, second, nanosecond, h.1, h.2.1, hsecond, by omega⟩
    else .ok ⟨date, hour, minute, 59, nanosecond + 1000000000, h.1, h.2.1, by omega, by omega⟩
  else .error .outOfRange

end Calendar

open Calendar

def Date.read (text : String) : Except ReadError Date := do
  let ((year, month, day), cs) ← dateFields text.toList
  finish cs
  dateOf year month day

/-- the day and time that a text denotes -/
def DateTime.read (text : String) : Except ReadError DateTime := do
  let ((year, month, day), cs) ← dateFields text.toList
  let cs ← mark 'T' cs
  let (hour, cs) ← field 0 23 cs
  let cs ← mark ':' cs
  let (minute, cs) ← field 0 59 cs
  let cs ← mark ':' cs
  let (second, cs) ← field 0 60 cs
  let (nanosecond, cs) ← fraction cs
  finish cs
  let date ← dateOf year month day
  timeOf date hour minute second nanosecond

end MockBank
