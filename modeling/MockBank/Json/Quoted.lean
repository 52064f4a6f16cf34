/-
Texts of a document, read one byte at a time after the opening quote.  Ill-formed UTF-8 is told only when the closing
quote is reached, as far before it as the text is long in bytes from the piece that could not be read on; there an
escape counts with the bytes of its character.
-/
import MockBank.Json.ReadError
import MockBank.Text.Digits
import MockBank.Text.Utf8

namespace MockBank

/-- what the next byte of a text means; a high surrogate waits for the escape of its low one -/
inductive Json.Quoted.Phase where
  | plain
  | escape
  | hex (seen : List UInt8) (high : Option Nat)
  | lowBackslash (high : Nat)
  | lowMark (high : Nat)

/-- a text being read: its characters with the last first, a character in progress with the count of its bytes, and
after a fault the count of the bytes from there on -/
structure Json.Quoted where
  phase : Json.Quoted.Phase
  chars : List Char
  pending : Option (Text.Utf8.Pending × Nat)
  fault : Option Nat

/-- what a byte does to a text -/
inductive Json.Quoted.Step where
  | more (q : Json.Quoted)
  | finished (text : String)
  | failed (cause : Json.Cause) (position : Json.Position)

namespace Json.Quoted

def empty : Quoted :=
  ⟨.plain, [], none, none⟩

/-- a character in progress that does not go on is a fault where it began -/
def settle (q : Quoted) : Quoted :=
  match q.pending with
  | none => q
  | some (_, size) => { q with pending := none, fault := some size }

/-- one more character, out of an escape -/
def push (q : Quoted) (code : Nat) : Quoted :=
  let c := Char.ofNat code
  { q with phase := .plain, chars := c :: q.chars, fault := q.fault.map (· + c.utf8Size) }

/-- one more byte that stands for itself -/
def feed (q : Quoted) (b : UInt8) : Quoted :=
  match q.fault with
  | some size => { q with fault := some (size + 1) }
  | none =>
    let (step, size) :=
      match q.pending with
      | none => (Text.Utf8.start b, 1)
      | some (p, size) => (p.next b, size + 1)
    match step with
    | .complete c => { q with chars := c :: q.chars, pending := none }
    | .owing p => { q with pending := some (p, size) }
    | .illFormed => { q with pending := none, fault := some size }

/-- the code unit of four hexadecimal digits, the last first -/
def unit? : List UInt8 → Option Nat
  | [] => some 0
  | b :: rest =>
    match unit? rest, Text.hexValue? (Char.ofNat b.toNat) with
    | some n, some d => some (n * 16 + d)
    | _, _ => none

/-- a code unit: a character, the first half of one, or the second half after a first -/
def addUnit (q : Quoted) (here : Position) (high : Option Nat) (unit : Nat) : Step :=
  let isLow := 0xDC00 ≤ unit ∧ unit ≤ 0xDFFF
  match high with
  | none =>
    if isLow then .failed .loneSurrogate here
    else if 0xD800 ≤ unit ∧ unit ≤ 0xDBFF then .more { q with phase := .lowBackslash unit }
    else .more (q.push unit)
  | some h =>
    if isLow then .more (q.push ((h - 0xD800) * 0x400 + (unit - 0xDC00) + 0x10000))
    else .failed .loneSurrogate here

/-- the byte after a backslash -/
def addEscape (q : Quoted) (here : Position) (b : UInt8) : Step :=
  if b = 0x22 ∨ b = 0x5C ∨ b = 0x2F then .more (q.push b.toNat)
  else if b = 0x62 then .more (q.push 0x08)
  else if b = 0x66 then .more (q.push 0x0C)
  else if b = 0x6E then .more (q.push 0x0A)
  else if b = 0x72 then .more (q.push 0x0D)
  else if b = 0x74 then .more (q.push 0x09)
  else if b = 0x75 then .more { q with phase := .hex [] none }
  else .failed .invalidEscape here

def next (q : Quoted) (here : Position) (b : UInt8) : Step :=
  match q.phase with
  | .plain =>
    if b = 0x22 then
      match q.settle.fault with
      | none => .finished (String.ofList q.chars.reverse)
      | some size => .failed .invalidCodePoint ⟨here.line, here.column - size⟩
    else if b = 0x5C then .more { q.settle with phase := .escape }
    else if b < 0x20 then .failed .controlCharacter here
    else .more (q.feed b)
  | .escape => q.addEscape here b
  | .hex seen high =>
    if seen.length < 3 then .more { q with phase := .hex (b :: seen) high }
    else
      match unit? (b :: seen) with
      | none => .failed .invalidEscape here
      | some unit => q.addUnit here high unit
  | .lowBackslash high =>
    if b = 0x5C then .more { q with phase := .lowMark high } else .failed .endOfEscape here
  | .lowMark high =>
    if b = 0x75 then .more { q with phase := .hex [] (some high) } else .failed .endOfEscape here

end Json.Quoted

end MockBank
