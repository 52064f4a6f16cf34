/-
Random numbers from a stream of 64-bit words.  A number below `n` is drawn by multiplying a word of 32 or 64 bits by `n`
and keeping what stands above the word's bits; when the rest is so great that a longer word could carry over, a second
word decides.
-/
namespace MockBank

/-- a stream of words, and how many of them are used -/
structure Source where
  word : Nat → UInt64
  used : Nat

/-- a value made from words; nothing when it does not exist -/
abbrev Draw (α : Type) : Type :=
  StateT Source Option α

/-- how many bits of a word are multiplied -/
inductive Width where
  | half
  | full
  deriving DecidableEq

namespace Source

def next (s : Source) : UInt64 × Source :=
  (s.word s.used, { s with used := s.used + 1 })

/-- the words of a list, over and over; an empty list gives zeros -/
def cycle (words : List UInt64) : Source :=
  ⟨fun n => (words[n % words.length]?).getD 0, 0⟩

/-- the odd constant that the state advances by -/
def goldenGamma : UInt64 :=
  0x9E3779B97F4A7C15

/-- spreads the bits of a state over a word -/
def mix (z : UInt64) : UInt64 :=
  let z := (z ^^^ (z >>> 30)) * 0xBF58476D1CE4E5B9
  let z := (z ^^^ (z >>> 27)) * 0x94D049BB133111EB
  z ^^^ (z >>> 31)

/-- the words that a seed gives -/
def ofSeed (seed : UInt64) : Source :=
  ⟨fun n => mix (seed + goldenGamma * (UInt64.ofNat n + 1)), 0⟩

end Source

namespace Width

def size : Width → Nat
  | .half => 0x100000000
  | .full => 0x10000000000000000

/-- the upper half of a word, or all of it -/
def take (w : Width) (word : UInt64) : Nat :=
  match w with
  | .half => word.toNat / 0x100000000
  | .full => word.toNat

theorem take_lt (w : Width) (word : UInt64) : w.take word < w.size := by
  have := word.toNat_lt
  cases w <;> simp only [take, size] <;> omega

end Width

namespace Draw

/-- the next word, cut to a width -/
def word (w : Width) : Draw Nat := fun s =>
  let (x, s) := s.next
  some (w.take x, s)

/-- a number below `n` -/
def below (w : Width) (n : Nat) : Draw Nat := do
  let x ← word w
  let high := x * n / w.size
  let low := x * n % w.size
  if w.size - n < low then
    let y ← word w
    return if w.size ≤ low + y * n / w.size then high + 1 else high
  else return high

/-- a number from `low` to `high`, both included -/
def between (w : Width) (low high : Nat) : Draw Nat := do
  let n ← below w (high - low + 1)
  return low + n

/-- a value that may not exist -/
def ofOption {α : Type} (a : Option α) : Draw α := fun s =>
  a.map fun a => (a, s)

theorem ofOption_bind {α β : Type} (a : α) (f : α → Draw β) : (ofOption (some a) >>= f) = f a :=
  rfl

/-- that many decimal digits -/
def digits : Nat → Draw (List Char)
  | 0 => return []
  | n + 1 => do
    let d ← below .half 10
    let rest ← digits n
    return Char.ofNat ('0'.toNat + d) :: rest

end Draw

end MockBank
