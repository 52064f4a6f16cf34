/-
The ASCII spelling of a domain label: its ASCII characters, then the others in increasing order, each as the distance
from the one before, in digits of base 36 whose thresholds adapt to the distances already written.  Distances are words
of 32 bits.
-/
import MockBank.Text.Split

namespace MockBank.Email.Punycode

/-- a digit of base 36: the letters, then the decimal digits -/
def digit (d : Nat) : Char :=
  if d < 26 then Char.ofNat ('a'.toNat + d) else Char.ofNat ('0'.toNat + d - 26)

/-- the threshold of the digit at a position, which advances by 36 -/
def threshold (position bias : Nat) : Nat :=
  if position ≤ bias then 1 else if bias + 26 ≤ position then 26 else position - bias

/-- divides a distance until it is small, and counts by 36 -/
def reduce (delta count : Nat) : Nat × Nat :=
  if 455 < delta then reduce (delta / 35) (count + 36) else (delta, count)
termination_by delta
decreasing_by omega

/-- the bias after a distance -/
def adapt (delta written : Nat) (first : Bool) : Nat :=
  let damped := if first then delta / 700 else delta / 2
  let (small, count) := reduce (damped + damped / written) 0
  count + 36 * small / (small + 38)

/-- the digits of a distance -/
def distance (bias position q : Nat) : List Char :=
  let t := threshold position bias
  if q < t then [digit q]
  else digit (t + (q - t) % (36 - t)) :: distance bias (position + 36) ((q - t) / (36 - t))
termination_by q
decreasing_by
  have ht : 1 ≤ threshold position bias := by
    unfold threshold
    split
    · omega
    · split <;> omega
  have := Nat.div_le_self (q - threshold position bias) (36 - threshold position bias)
  omega

/-- a spelling in progress: what is written, the distance so far, the bias, and how many characters are placed -/
structure Progress where
  written : List Char
  delta : Nat
  bias : Nat
  placed : Nat

/-- one character of the label while the characters of code `m` are placed -/
def place (basic m : Nat) (s : Progress) (c : Char) : Progress :=
  if c.toNat < m then { s with delta := s.delta + 1 }
  else if c.toNat = m then
    ⟨s.written ++ distance s.bias 36 s.delta, 0, adapt s.delta (s.placed + 1) (s.placed == basic), s.placed + 1⟩
  else s

/-- places the characters of every code in an increasing list; `n` is the least code not yet looked at -/
def placeAll (label : List Char) (basic : Nat) : List Nat → Nat → Progress → Progress
  | [], _, s => s
  | m :: rest, n, s =>
    let s := { s with delta := s.delta + (m - n) * (s.placed + 1) }
    let s := label.foldl (place basic m) s
    placeAll label basic rest (m + 1) { s with delta := s.delta + 1 }

/-- puts a code into an increasing list, unless it is there -/
def insertCode (n : Nat) : List Nat → List Nat
  | [] => [n]
  | m :: rest => if n < m then n :: m :: rest else if n = m then m :: rest else m :: insertCode n rest

def isAscii (c : Char) : Bool :=
  c.toNat < 0x80

def encode (label : List Char) : List Char :=
  let basic := label.filter isAscii
  let codes := (label.filter fun c => !isAscii c).foldl (fun l c => insertCode c.toNat l) []
  let start := if basic.isEmpty then [] else basic ++ ['-']
  (placeAll label basic.length codes 0x80 ⟨start, 0, 72, basic.length⟩).written

def digitValue? (c : Char) : Option Nat :=
  if c.isLower then some (c.toNat - 'a'.toNat)
  else if c.isUpper then some (c.toNat - 'A'.toNat)
  else if c.isDigit then some (c.toNat - '0'.toNat + 26)
  else none

/-- a label being read: its characters, the code of the last one placed, and the distance being read with its place,
the bias, the weight and the position of its next digit -/
structure Reading where
  label : List Char
  code : Nat
  before : Nat
  distance : Nat
  bias : Nat
  weight : Nat
  position : Nat

/-- between two distances -/
def Reading.start (label : List Char) (code distance bias : Nat) : Reading :=
  ⟨label, code, distance, distance, bias, 1, 36⟩

/-- places the character that a complete distance leads to, if there is one -/
def Reading.placed? (r : Reading) : Option Reading :=
  let count := r.label.length + 1
  let code := r.code + r.distance / count
  let place := r.distance % count
  if code.isValidChar then
    some (.start (r.label.take place ++ Char.ofNat code :: r.label.drop place) code (place + 1)
      (adapt (r.distance - r.before) count (r.before == 0)))
  else none

/-- one more digit of a distance; a digit below the threshold is the last one -/
def Reading.next? (r : Reading) (c : Char) : Option Reading :=
  match digitValue? c with
  | none => none
  | some d =>
    let t := threshold r.position r.bias
    let distance := r.distance + d * r.weight
    let weight := r.weight * (36 - t)
    if 0x100000000 ≤ distance then none
    else if d < t then { r with distance := distance }.placed?
    else if 0x100000000 ≤ weight then none
    else some { r with distance := distance, weight := weight, position := r.position + 36 }

/-- the ASCII characters of a spelling and its digits; a spelling that begins with its last hyphen is all digits -/
def parts (spelling : List Char) : List Char × List Char :=
  match Text.splitLast? '-' spelling with
  | none | some ([], _) => ([], spelling)
  | some parts => parts

def decode? (spelling : List Char) : Option (List Char) :=
  let (basic, digits) := parts spelling
  if basic.all isAscii then
    match digits.foldlM Reading.next? (.start basic 0x80 0 72) with
    | some r => if r.position = 36 then some r.label else none
    | none => none
  else none

end MockBank.Email.Punycode
