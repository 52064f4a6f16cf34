/-
Numbers of a document, read one byte at a time.  The digits are gathered in one 64-bit word.  The first digit that would
leave it, and the digits after that one, are dropped; in the integer part each dropped digit still counts as a power of
ten, and after the point the word is tried again.
-/
import MockBank.Json.Basic

namespace MockBank

/-- how much of a number is read -/
inductive Json.Numeral.Phase where
  | sign
  | zero
  | integer
  | point
  | fraction
  | exponentMark
  | exponentSign
  | exponent
  deriving DecidableEq

/-- a number being read: the digits kept as one integer, whether a digit of the present part was dropped, the power of
ten that the point and the dropped digits make, and the power that is written -/
structure Json.Numeral where
  phase : Json.Numeral.Phase
  negative : Bool
  digits : Nat
  dropped : Bool
  scale : Int
  exponentNegative : Bool
  exponent : Nat
  deriving DecidableEq

/-- what a byte does to a number; the byte after a finished one does not belong to it -/
inductive Json.Numeral.Step where
  | more (n : Json.Numeral)
  | finished
  | invalid
  | outOfRange

namespace Json.Numeral

def digit? (b : UInt8) : Option Nat :=
  if 0x30 ≤ b ∧ b ≤ 0x39 then some (b.toNat - 0x30) else none

/-- after a minus sign -/
def negated : Numeral :=
  ⟨.sign, true, 0, false, 0, false, 0⟩

/-- the first digit; nothing but a point or a power may follow a leading zero -/
def leading (negative : Bool) (d : Nat) : Numeral :=
  ⟨if d = 0 then .zero else .integer, negative, d, false, 0, false, 0⟩

/-- one more digit of the integer part -/
def addInteger (n : Numeral) (d : Nat) : Numeral :=
  if n.dropped = false ∧ n.digits * 10 + d < 0x10000000000000000 then { n with digits := n.digits * 10 + d }
  else { n with dropped := true, scale := n.scale + 1 }

/-- one more digit after the point -/
def addPlace (n : Numeral) (d : Nat) : Numeral :=
  if n.dropped = false ∧ n.digits * 10 + d < 0x10000000000000000 then
    { n with phase := .fraction, digits := n.digits * 10 + d, scale := n.scale - 1 }
  else { n with phase := .fraction, dropped := true }

/-- powers of ten are read up to this; beyond it zero stays zero and small numbers vanish -/
def exponentBound : Nat :=
  0x7FFFFFFF

/-- one more digit of the power of ten -/
def addExponent (n : Numeral) (d : Nat) : Step :=
  let exponent := n.exponent * 10 + d
  if exponent ≤ exponentBound then .more { n with phase := .exponent, exponent := exponent }
  else if n.digits ≠ 0 ∧ n.exponentNegative = false then .outOfRange
  else .more { n with phase := .exponent, exponent := exponentBound }

/-- a point or the mark of a power may follow the integer part -/
def afterInteger (n : Numeral) (b : UInt8) : Step :=
  if b = 0x2E then .more { n with phase := .point, dropped := false }
  else if b = 0x65 ∨ b = 0x45 then .more { n with phase := .exponentMark }
  else .finished

def next (n : Numeral) (b : UInt8) : Step :=
  match n.phase, digit? b with
  | .sign, some d => .more (leading n.negative d)
  | .sign, none => .invalid
  | .zero, some _ => .invalid
  | .zero, none => n.afterInteger b
  | .integer, some d => .more (n.addInteger d)
  | .integer, none => n.afterInteger b
  | .point, some d => .more (n.addPlace d)
  | .point, none => .invalid
  | .fraction, some d => .more (n.addPlace d)
  | .fraction, none => if b = 0x65 ∨ b = 0x45 then .more { n with phase := .exponentMark } else .finished
  | .exponentMark, some d => n.addExponent d
  | .exponentMark, none =>
    if b = 0x2B then .more { n with phase := .exponentSign }
    else if b = 0x2D then .more { n with phase := .exponentSign, exponentNegative := true }
    else .invalid
  | .exponentSign, some d => n.addExponent d
  | .exponentSign, none => .invalid
  | .exponent, some d => n.addExponent d
  | .exponent, none => .finished

/-- whether the text may end here -/
def complete (n : Numeral) : Bool :=
  match n.phase with
  | .zero | .integer | .fraction | .exponent => true
  | .sign | .point | .exponentMark | .exponentSign => false

/-- the digits scaled by their power of ten, if that is finite -/
def double? (n : Numeral) : Option Number :=
  let written : Int := if n.exponentNegative then -n.exponent else n.exponent
  (Binary64.ofDecimal? n.negative n.digits (n.scale + written)).map .double

/-- whole when it is written so, fits, and is no negative zero -/
def number? (n : Numeral) : Option Number :=
  if n.phase = .zero ∨ n.phase = .integer ∧ n.dropped = false then
    if n.negative then
      if h : 0 < n.digits ∧ n.digits ≤ 0x8000000000000000 then some (.whole ⟨-n.digits, by omega, by omega⟩)
      else n.double?
    else
      if h : n.digits < 0x10000000000000000 then some (.whole ⟨n.digits, by omega, by omega⟩) else n.double?
  else n.double?

end Json.Numeral

end MockBank
