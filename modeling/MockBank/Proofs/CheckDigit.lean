/-
The check digit of a number.  The Luhn test is stated of a whole number, with its places counted from the left; the
check digit is computed from the payload alone, from its last digit on.

- `Luhn.Valid`: the test.  `Luhn.weightedSum_reverse`: alternating from the right gives each place of a number its
  weight.
- `Luhn.valid_concat_iff`: of all digits the check digit alone completes a payload.
- `Luhn.payloadSum_stretch`: what a stretch of a payload counts, apart from the rest; with it the laws on one digit
  replaced and on two digits exchanged.
- `Luhn.checkDigit?`: the computation in machine words, with every step checked; it fails only when the sum outgrows its
  word (`Luhn.checkDigit?_eq`).
- `check_digit_detects_slips`: all of this together.
-/
import Mathlib.Algebra.Ring.Nat
import MockBank.Number.Checked
import MockBank.Synthetic.Records

namespace MockBank

namespace Luhn

/-! ## The test -/

def valueOf (c : Char) : Nat :=
  c.toNat - '0'.toNat

/-- what a digit counts in a number of so many digits, with places counted from the left: in every second place,
beginning left of the last one, it counts double, less nine above nine -/
def counted (length place digit : Nat) : Nat :=
  if (length - place) % 2 = 0 then double digit else digit

/-- the Luhn test: what the digits of a number count makes a multiple of ten -/
def Valid (number : List Char) : Prop :=
  10 ∣ ((number.map valueOf).mapIdx (counted number.length)).sum

theorem bounds_of_isDigit {c : Char} (h : c.isDigit = true) : 48 ≤ c.toNat ∧ c.toNat ≤ 57 := by
  simp only [Char.isDigit, Bool.and_eq_true, decide_eq_true_eq] at h
  exact h

theorem valueOf_lt {c : Char} (h : c.isDigit = true) : valueOf c < 10 := by
  have hbounds := bounds_of_isDigit h
  have hzero : '0'.toNat = 48 := rfl
  rw [valueOf, hzero]
  omega

/-- a digit is known by its value -/
theorem valueOf_inj {a b : Char} (ha : a.isDigit = true) (hb : b.isDigit = true) : valueOf a = valueOf b ↔ a = b := by
  constructor
  · intro h
    have hboundsa := bounds_of_isDigit ha
    have hboundsb := bounds_of_isDigit hb
    have hzero : '0'.toNat = 48 := rfl
    rw [valueOf, valueOf, hzero] at h
    have hnat : a.toNat = b.toNat := by omega
    exact Char.ext (UInt32.toNat.inj hnat)
  · rintro rfl
    rfl

theorem toNat_ofDigit {d : Nat} (h : d < 10) : (Char.ofNat ('0'.toNat + d)).toNat = 48 + d := by
  have hzero : '0'.toNat = 48 := rfl
  have hvalid : ('0'.toNat + d).isValidChar := .inl (by omega)
  rw [Char.ofNat, dif_pos hvalid]
  rfl

theorem isDigit_ofDigit {d : Nat} (h : d < 10) : (Char.ofNat ('0'.toNat + d)).isDigit = true := by
  have hnat := toNat_ofDigit h
  simp only [Char.isDigit, Bool.and_eq_true, decide_eq_true_eq]
  show 48 ≤ (Char.ofNat ('0'.toNat + d)).toNat ∧ (Char.ofNat ('0'.toNat + d)).toNat ≤ 57
  omega

theorem valueOf_ofDigit {d : Nat} (h : d < 10) : valueOf (Char.ofNat ('0'.toNat + d)) = d := by
  have hzero : '0'.toNat = 48 := rfl
  rw [valueOf, toNat_ofDigit h, hzero, Nat.add_sub_cancel_left]

theorem digitValues_of_digits {text : List Char} (h : ∀ c ∈ text, c.isDigit = true) :
    digitValues text = text.map valueOf := by
  refine digitValues_of_ascii text fun c hc => ?_
  have hbounds := bounds_of_isDigit (h c hc)
  omega

/-! ## Weights -/

/-- behind an odd number of digits the other digits are doubled -/
theorem weightedSum_append (doubled : Bool) (xs ys : List Nat) :
    weightedSum doubled (xs ++ ys) =
      weightedSum doubled xs + weightedSum (if xs.length % 2 = 0 then doubled else !doubled) ys := by
  induction xs generalizing doubled with
  | nil => simp [weightedSum]
  | cons x rest ih =>
    have hparity : (if rest.length % 2 = 0 then !doubled else !!doubled) =
        if (x :: rest).length % 2 = 0 then doubled else !doubled := by
      rw [List.length_cons]
      by_cases hrest : rest.length % 2 = 0
      · rw [if_pos hrest, if_neg (by omega)]
      · rw [if_neg hrest, if_pos (by omega), Bool.not_not]
    rw [List.cons_append, weightedSum, weightedSum, ih, hparity, Nat.add_assoc]

/-- **Alternating from the right gives each place of a number its weight.** -/
theorem weightedSum_reverse (ds : List Nat) : weightedSum false ds.reverse = (ds.mapIdx (counted ds.length)).sum := by
  induction ds with
  | nil => rfl
  | cons d rest ih =>
    have hshift : (fun i => counted (d :: rest).length (i + 1)) = counted rest.length := by
      funext i x
      rw [counted, counted, List.length_cons, Nat.add_sub_add_right]
    have hfirst : weightedSum (if rest.length % 2 = 0 then false else true) [d] = counted (d :: rest).length 0 d := by
      rw [counted, List.length_cons, Nat.sub_zero]
      by_cases hrest : rest.length % 2 = 0
      · rw [if_pos hrest, if_neg (by omega)]
        rfl
      · rw [if_neg hrest, if_pos (by omega)]
        rfl
    rw [List.reverse_cons, weightedSum_append, ih, List.length_reverse, Bool.not_false, hfirst, List.mapIdx_cons,
      List.sum_cons, hshift, Nat.add_comm]

theorem valid_iff {number : List Char} (h : ∀ c ∈ number, c.isDigit = true) :
    Valid number ↔ weightedSum false (digitValues number).reverse % 10 = 0 := by
  rw [digitValues_of_digits h, weightedSum_reverse, List.length_map, Valid, Nat.dvd_iff_mod_eq_zero]

theorem double_le {d : Nat} (h : d < 10) : double d ≤ 9 := by
  unfold double
  split <;> omega

theorem weightedSum_le (doubled : Bool) {ds : List Nat} (h : ∀ d ∈ ds, d < 10) :
    weightedSum doubled ds ≤ 9 * ds.length := by
  induction ds generalizing doubled with
  | nil => exact Nat.le_refl 0
  | cons d rest ih =>
    obtain ⟨hd, hrest⟩ := List.forall_mem_cons.1 h
    have htail := ih (!doubled) hrest
    have hdouble := double_le hd
    rw [weightedSum, List.length_cons]
    split <;> omega

/-! ## The check digit -/

theorem isDigit_checkDigit (payload : List Char) : (checkDigit payload).isDigit = true :=
  isDigit_ofDigit (Nat.mod_lt _ (by decide))

theorem valueOf_checkDigit (payload : List Char) :
    valueOf (checkDigit payload) = (10 - payloadSum payload % 10) % 10 :=
  valueOf_ofDigit (Nat.mod_lt _ (by decide))

/-- each digit counts nine at most -/
theorem payloadSum_le {payload : List Char} (h : ∀ c ∈ payload, c.isDigit = true) :
    payloadSum payload ≤ 9 * payload.length := by
  have hvalues : ∀ d ∈ (payload.map valueOf).reverse, d < 10 := by
    intro d hd
    obtain ⟨c, hc, rfl⟩ := List.mem_map.1 (List.mem_reverse.1 hd)
    exact valueOf_lt (h c hc)
  have hle := weightedSum_le true hvalues
  rwa [List.length_reverse, List.length_map, ← digitValues_of_digits h] at hle

/-- check digits tell the sums of payloads apart up to multiples of ten -/
theorem checkDigit_eq_iff (p q : List Char) : checkDigit p = checkDigit q ↔ payloadSum p % 10 = payloadSum q % 10 := by
  rw [← valueOf_inj (isDigit_checkDigit p) (isDigit_checkDigit q), valueOf_checkDigit, valueOf_checkDigit]
  omega

/-- **Of all digits the check digit alone completes a payload.** -/
theorem valid_concat_iff {payload : List Char} (h : ∀ c ∈ payload, c.isDigit = true) {c : Char}
    (hc : c.isDigit = true) : Valid (payload ++ [c]) ↔ c = checkDigit payload := by
  have hall : ∀ d ∈ payload ++ [c], d.isDigit = true := List.forall_mem_append.2 ⟨h, List.forall_mem_singleton.2 hc⟩
  have hsum : weightedSum false (digitValues (payload ++ [c])).reverse = valueOf c + payloadSum payload := by
    rw [digitValues_of_digits hall, List.map_append, List.reverse_append, payloadSum, digitValues_of_digits h]
    rfl
  rw [valid_iff hall, hsum, ← valueOf_inj hc (isDigit_checkDigit payload), valueOf_checkDigit]
  have hlt := valueOf_lt hc
  omega

/-! ## Slips -/

/-- **A stretch of a payload counts apart from the rest of it.** -/
theorem payloadSum_stretch {before after : List Char} (hbefore : ∀ c ∈ before, c.isDigit = true)
    (hafter : ∀ c ∈ after, c.isDigit = true) (length : Nat) :
    ∃ rest, ∀ stretch : List Char, stretch.length = length → (∀ c ∈ stretch, c.isDigit = true) →
      payloadSum (before ++ stretch ++ after) =
        rest + weightedSum (if after.length % 2 = 0 then true else false) (stretch.map valueOf).reverse := by
  refine ⟨weightedSum true (after.map valueOf).reverse +
    weightedSum (if (after.length + length) % 2 = 0 then true else false) (before.map valueOf).reverse, ?_⟩
  intro stretch hlength hstretch
  have hall : ∀ c ∈ before ++ stretch ++ after, c.isDigit = true :=
    List.forall_mem_append.2 ⟨List.forall_mem_append.2 ⟨hbefore, hstretch⟩, hafter⟩
  rw [payloadSum, digitValues_of_digits hall, List.map_append, List.map_append, List.reverse_append,
    List.reverse_append, ← List.append_assoc, weightedSum_append, weightedSum_append]
  simp only [List.length_append, List.length_reverse, List.length_map, hlength, Bool.not_true]
  omega

theorem double_mod_inj {x y : Nat} (hx : x < 10) (hy : y < 10) (h : double x % 10 = double y % 10) : x = y := by
  unfold double at h
  split at h <;> split at h <;> omega

/-- **A digit replaced changes the check digit.** -/
theorem checkDigit_replace_ne {before after : List Char} (hbefore : ∀ c ∈ before, c.isDigit = true)
    (hafter : ∀ c ∈ after, c.isDigit = true) {a b : Char} (ha : a.isDigit = true) (hb : b.isDigit = true) (hne : a ≠ b) :
    checkDigit (before ++ a :: after) ≠ checkDigit (before ++ b :: after) := by
  obtain ⟨rest, hrest⟩ := payloadSum_stretch hbefore hafter 1
  have hsum : ∀ c : Char, c.isDigit = true → payloadSum (before ++ c :: after) =
      rest + if after.length % 2 = 0 then double (valueOf c) else valueOf c := by
    intro c hc
    have hone := hrest [c] rfl (by simpa using hc)
    rw [List.append_assoc, List.singleton_append] at hone
    rw [hone]
    split <;> rfl
  rw [Ne, checkDigit_eq_iff, hsum a ha, hsum b hb]
  intro hmod
  apply hne
  rw [← valueOf_inj ha hb]
  have hlta := valueOf_lt ha
  have hltb := valueOf_lt hb
  split at hmod
  · exact double_mod_inj hlta hltb (by omega)
  · omega

/-- twice a digit, less nine above nine, and another digit make the same up to ten when exchanged for zero and nine
only -/
theorem double_add_mod_eq_iff {x y : Nat} (hx : x < 10) (hy : y < 10) (hne : x ≠ y) :
    (double x + y) % 10 = (x + double y) % 10 ↔ x = 0 ∧ y = 9 ∨ x = 9 ∧ y = 0 := by
  unfold double
  split <;> split <;> omega

/-- **Two digits side by side that are exchanged change the check digit, except for zero and nine.** -/
theorem checkDigit_exchange_iff {before after : List Char} (hbefore : ∀ c ∈ before, c.isDigit = true)
    (hafter : ∀ c ∈ after, c.isDigit = true) {a b : Char} (ha : a.isDigit = true) (hb : b.isDigit = true) (hne : a ≠ b) :
    checkDigit (before ++ b :: a :: after) = checkDigit (before ++ a :: b :: after) ↔
      a = '0' ∧ b = '9' ∨ a = '9' ∧ b = '0' := by
  obtain ⟨rest, hrest⟩ := payloadSum_stretch hbefore hafter 2
  have hsum : ∀ c d : Char, c.isDigit = true → d.isDigit = true → payloadSum (before ++ c :: d :: after) =
      rest + if after.length % 2 = 0 then valueOf c + double (valueOf d) else double (valueOf c) + valueOf d := by
    intro c d hc hd
    have htwo := hrest [c, d] rfl (by simp [hc, hd])
    rw [List.append_assoc, List.cons_append, List.singleton_append] at htwo
    rw [htwo]
    split
    · show rest + (double (valueOf d) + (valueOf c + 0)) = _
      omega
    · show rest + (valueOf d + (double (valueOf c) + 0)) = _
      omega
  have hvalues : valueOf a ≠ valueOf b := fun h => hne ((valueOf_inj ha hb).1 h)
  have hcases := double_add_mod_eq_iff (valueOf_lt ha) (valueOf_lt hb) hvalues
  have hchars : (valueOf a = 0 ∧ valueOf b = 9 ∨ valueOf a = 9 ∧ valueOf b = 0) ↔
      (a = '0' ∧ b = '9' ∨ a = '9' ∧ b = '0') := by
    have hzero : ∀ {c : Char}, c.isDigit = true → (valueOf c = 0 ↔ c = '0') :=
      fun hc => valueOf_inj (b := '0') hc (by decide)
    have hnine : ∀ {c : Char}, c.isDigit = true → (valueOf c = 9 ↔ c = '9') :=
      fun hc => valueOf_inj (b := '9') hc (by decide)
    rw [hzero ha, hnine hb, hnine ha, hzero hb]
  rw [checkDigit_eq_iff, hsum a b ha hb, hsum b a hb ha, ← hchars, ← hcases]
  split <;> omega

/-! ## Checked words -/

open Checked

/-- what a byte counts: its distance from the digit zero, doubled in every second place -/
def countByte? (doubled : Bool) (b : UInt8) : Option Nat := do
  let d ← sub? b.toNat '0'.toNat
  if doubled then
    let twice ← fit? halfSize (d * 2)
    if 9 < twice then sub? twice 9 else return twice
  else return d

/-- what bytes count, added to a sum -/
def sumBytes? : Bool → Nat → List UInt8 → Option Nat
  | _, sum, [] => some sum
  | doubled, sum, b :: rest => do
    let n ← countByte? doubled b
    let sum ← fit? halfSize (sum + n)
    sumBytes? (!doubled) sum rest

/-- the check digit in words of 8 and 32 bits, with every step checked -/
def checkDigit? (payload : List Char) : Option Char := do
  let sum ← sumBytes? true 0 (payload.flatMap String.utf8EncodeChar).reverse
  let missing ← sub? 10 (sum % 10)
  let code ← fit? byteSize ('0'.toNat + missing % 10)
  return Char.ofNat code

theorem countByte?_eq (doubled : Bool) {b : UInt8} (h : 48 ≤ b.toNat) :
    countByte? doubled b = some (if doubled then double (b.toNat - '0'.toNat) else b.toNat - '0'.toNat) := by
  have hbyte := b.toNat_lt
  have hzero : '0'.toNat = 48 := rfl
  have hdigit : sub? b.toNat '0'.toNat = some (b.toNat - '0'.toNat) := sub?_of_le h
  have htwice : fit? halfSize ((b.toNat - '0'.toNat) * 2) = some (2 * (b.toNat - '0'.toNat)) := by
    rw [Nat.mul_comm]
    exact fit?_of_lt (by rw [halfSize]; omega)
  cases doubled with
  | false => rw [countByte?, hdigit]; rfl
  | true =>
    have hnine : countByte? true b =
        if 9 < 2 * (b.toNat - '0'.toNat) then sub? (2 * (b.toNat - '0'.toNat)) 9
        else some (2 * (b.toNat - '0'.toNat)) := by
      rw [countByte?, hdigit]
      show (fit? halfSize ((b.toNat - '0'.toNat) * 2)).bind _ = _
      rw [htwice]
      rfl
    rw [hnine, if_pos rfl, double]
    split
    · exact sub?_of_le (by omega)
    · rfl

/-- **The sum is lost only when it outgrows its word**: no partial sum is greater than the whole. -/
theorem sumBytes?_eq {bytes : List UInt8} (h : ∀ b ∈ bytes, 48 ≤ b.toNat) (doubled : Bool) {sum : Nat}
    (hsum : sum < halfSize) :
    sumBytes? doubled sum bytes =
      fit? halfSize (sum + weightedSum doubled (bytes.map fun b => b.toNat - '0'.toNat)) := by
  induction bytes generalizing doubled sum with
  | nil => exact (fit?_of_lt hsum).symm
  | cons b rest ih =>
    have hrest : ∀ c ∈ rest, 48 ≤ c.toNat := fun c hc => h c (List.mem_cons_of_mem b hc)
    rw [sumBytes?, countByte?_eq doubled (h b List.mem_cons_self), List.map_cons, weightedSum, ← Nat.add_assoc]
    generalize (if doubled then double (b.toNat - '0'.toNat) else b.toNat - '0'.toNat) = n
    by_cases hfits : sum + n < halfSize
    · rw [Option.bind_eq_bind, Option.bind_some, fit?_of_lt hfits]
      exact ih hrest (!doubled) hfits
    · rw [Option.bind_eq_bind, Option.bind_some, fit?_of_le (Nat.not_lt.1 hfits), fit?_of_le (by omega)]
      rfl

theorem le_of_mem_bytes {text : List Char} (h : ∀ c ∈ text, c.isDigit = true) :
    ∀ b ∈ text.flatMap String.utf8EncodeChar, 48 ≤ b.toNat := by
  have hascii : ∀ c ∈ text, c.toNat < 128 := by
    intro c hc
    have hbounds := bounds_of_isDigit (h c hc)
    omega
  rw [Text.flatMap_utf8EncodeChar_of_ascii hascii]
  intro b hb
  obtain ⟨c, hc, rfl⟩ := List.mem_map.1 hb
  rw [Text.toNat_toUInt8 (hascii c hc)]
  exact (bounds_of_isDigit (h c hc)).1

/-- **In checked words the check digit is the same, as long as the sum has place in its word.** -/
theorem checkDigit?_eq {payload : List Char} (h : ∀ c ∈ payload, c.isDigit = true) :
    checkDigit? payload = if payloadSum payload < halfSize then some (checkDigit payload) else none := by
  have hbytes : ∀ b ∈ (payload.flatMap String.utf8EncodeChar).reverse, 48 ≤ b.toNat :=
    fun b hb => le_of_mem_bytes h b (List.mem_reverse.1 hb)
  have hsum : sumBytes? true 0 (payload.flatMap String.utf8EncodeChar).reverse = fit? halfSize (payloadSum payload) := by
    rw [sumBytes?_eq hbytes true (by decide), Nat.zero_add, List.map_reverse]
    rfl
  rw [checkDigit?, hsum]
  split
  · rename_i hfits
    have hmissing : sub? 10 (payloadSum payload % 10) = some (10 - payloadSum payload % 10) := sub?_of_le (by omega)
    have hcode : fit? byteSize ('0'.toNat + (10 - payloadSum payload % 10) % 10) =
        some ('0'.toNat + (10 - payloadSum payload % 10) % 10) :=
      fit?_of_lt (by
        have hzero : '0'.toNat = 48 := rfl
        rw [byteSize]
        omega)
    rw [fit?_of_lt hfits, Option.bind_eq_bind, Option.bind_some, hmissing, Option.bind_some, hcode]
    rfl
  · rename_i hfits
    rw [fit?_of_le (Nat.not_lt.1 hfits)]
    rfl

end Luhn

open Luhn in
/-- **The check digit is the right one, and it detects slips.**  Of a payload of digits, however long, it is a digit,
and the only one that completes the payload to a number that passes the test.  Another digit in one place changes it,
and so do two different digits side by side that are exchanged, unless they are zero and nine.  In words of 32 bits it
is computed as it is here whenever the sum of what the digits count has place in the word. -/
theorem check_digit_detects_slips {payload : List Char} (hdigits : ∀ c ∈ payload, c.isDigit = true) :
    checkDigit? payload = (if payloadSum payload < 0x100000000 then some (checkDigit payload) else none) ∧
    (checkDigit payload).isDigit = true ∧
    (∀ c : Char, c.isDigit = true → (Valid (payload ++ [c]) ↔ c = checkDigit payload)) ∧
    (∀ before after a b, payload = before ++ a :: after → b.isDigit = true → a ≠ b →
      checkDigit (before ++ b :: after) ≠ checkDigit payload) ∧
    ∀ before after a b, payload = before ++ a :: b :: after → a ≠ b →
      (checkDigit (before ++ b :: a :: after) = checkDigit payload ↔ a = '0' ∧ b = '9' ∨ a = '9' ∧ b = '0') := by
  refine ⟨checkDigit?_eq hdigits, isDigit_checkDigit payload, fun c hc => valid_concat_iff hdigits hc, ?_, ?_⟩
  · rintro before after a b rfl hb hne
    obtain ⟨hbefore, hrest⟩ := List.forall_mem_append.1 hdigits
    obtain ⟨ha, hafter⟩ := List.forall_mem_cons.1 hrest
    exact checkDigit_replace_ne hbefore hafter hb ha (Ne.symm hne)
  · rintro before after a b rfl hne
    obtain ⟨hbefore, hplaces⟩ := List.forall_mem_append.1 hdigits
    obtain ⟨ha, hrest⟩ := List.forall_mem_cons.1 hplaces
    obtain ⟨hb, hafter⟩ := List.forall_mem_cons.1 hrest
    exact checkDigit_exchange_iff hbefore hafter ha hb hne

open Luhn in
/-- a payload of ten digits, its check digit, and slips in it -/
theorem check_digit_detects_slips_ten :
    Valid "79927398713".toList ∧ checkDigit? "7992739871".toList = some '3' ∧
      checkDigit "7992739875".toList ≠ checkDigit "7992739871".toList ∧
      checkDigit "9792739871".toList ≠ checkDigit "7992739871".toList := by
  have hall : ("7992739871".toList.all Char.isDigit) = true := by decide
  obtain ⟨hchecked, -, hunique, hreplaced, hexchanged⟩ :=
    check_digit_detects_slips fun c hc => List.all_eq_true.1 hall c hc
  have hdigit : checkDigit "7992739871".toList = '3' := by decide
  refine ⟨(hunique '3' (by decide)).2 hdigit.symm, ?_, ?_, ?_⟩
  · rw [hchecked, hdigit]
    decide
  · exact hreplaced "799273987".toList [] '1' '5' (by decide) (by decide) (by decide)
  · intro hsame
    rcases (hexchanged [] "92739871".toList '7' '9' (by decide) (by decide)).1 hsame with ⟨h, -⟩ | ⟨h, -⟩
    · exact absurd h (by decide)
    · exact absurd h (by decide)

end MockBank
