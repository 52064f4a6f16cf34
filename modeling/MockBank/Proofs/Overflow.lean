/-
Made-up records in machine words.  Every step of arithmetic is checked: a product has twice the width of its factors,
what is drawn between bounds is a signed number, a digit is a byte, and days are counted in milliseconds before they
are counted in days.  No step leaves its word, so the records are the same.

- `Checked.arithmetic`: what records are made up with in machine words.
- `Checked.below_eq`: a number below a bound, with the product of a word and the bound, and with what is carried over.
- `Checked.cardNumber_eq`, `Checked.dateThisYear_eq`: numbers of cards, and days.
- `Checked.profile_eq`, `Checked.account_eq`, `Checked.card_eq`: whole records.
-/
import MockBank.Proofs.CheckDigit
import MockBank.Proofs.YearToDate

namespace MockBank

/-! ## Draws that agree -/

namespace Draw

variable {α β : Type}

/-- what follows a draw matters only for the values that are drawn -/
theorem bind_congr_of_ensures {d : Draw α} {f g : α → Draw β} {P : α → Prop} (h : d.Ensures P)
    (hfg : ∀ a, P a → f a = g a) : (d >>= f) = d >>= g := by
  funext s
  show (d s).bind _ = (d s).bind _
  cases hs : d s with
  | none => rfl
  | some r => exact congrFun (hfg r.1 (h s r.1 r.2 hs)) r.2

theorem ensures_digits (n : Nat) :
    (digits n).Ensures fun ds => ds.length = n ∧ ∀ c ∈ ds, c.isDigit = true := by
  induction n with
  | zero => exact ensures_pure ⟨rfl, List.forall_mem_nil _⟩
  | succ n ih =>
    refine (ensures_below .half (by decide)).bind fun d hd => ih.bind fun rest hrest => ensures_pure ⟨?_, ?_⟩
    · rw [List.length_cons, hrest.1]
    · exact List.forall_mem_cons.2 ⟨Luhn.isDigit_ofDigit hd, hrest.2⟩

end Draw

namespace Checked

open Draw
open Synthetic (Arithmetic Locality)
open Synthetic.Arithmetic (unbounded)

/-! ## Numbers -/

/-- a number below `n`; words and bounds have the width, their products twice the width -/
def below (w : Width) (n : Nat) : Draw Nat := do
  let x ← word w
  let product ← ofOption (fit? (w.size * w.size) (x * n))
  let high := product / w.size
  let low := product % w.size
  let safe ← ofOption (sub? w.size n)
  if safe < low then
    let y ← word w
    let product ← ofOption (fit? (w.size * w.size) (y * n))
    if w.size ≤ low + product / w.size then ofOption (fit? w.size (high + 1)) else return high
  else return high

/-- a number from `low` to `high` in a signed word; there is none when the bounds are crossed -/
def between (w : Width) (low high : Nat) : Draw Nat := do
  let distance ← ofOption (sub? high low)
  let span ← ofOption (fit? w.size (distance + 1))
  let n ← below w span
  ofOption (fit? (w.size / 2) (low + n))

def digits : Nat → Draw (List Char)
  | 0 => return []
  | n + 1 => do
    let d ← below .half 10
    let code ← ofOption (fit? byteSize ('0'.toNat + d))
    let rest ← digits n
    return Char.ofNat code :: rest

/-- a number of days, told in milliseconds of a signed word of 64 bits and taken back in days of a signed word of 32 -/
def wholeDays? (n : Nat) : Option Nat := do
  let milliseconds ← fit? (fullSize / 2) (n * 86400000)
  fit? (halfSize / 2) (milliseconds / 86400000)

/-- the arithmetic of machine words, every step of which is checked -/
def arithmetic : Arithmetic :=
  ⟨below, between, digits, Luhn.checkDigit?, wholeDays?⟩

/-! ## Records -/

def dateThisYear (today : Date) : Draw Date :=
  arithmetic.dateThisYear today

def profile (today : Date) : Draw Profile :=
  arithmetic.profile today

def account (customerId : String) (today : Date) (now : DateTime) : Draw (String → Account) :=
  arithmetic.account customerId today now

def card (a : Account) (today : Date) : Draw (String → Card) :=
  arithmetic.card a today

/-! ## No number leaves its word -/

/-- **Drawing a number below a bound leaves no word.** A word carries over only where there is room for one more. -/
theorem below_eq (w : Width) {n : Nat} (hn : 0 < n) (hsize : n ≤ w.size) : below w n = Draw.below w n := by
  have hproduct : ∀ x, x < w.size → fit? (w.size * w.size) (x * n) = some (x * n) := fun x hx =>
    fit?_of_lt (Nat.mul_lt_mul_of_lt_of_le hx hsize (Nat.lt_of_lt_of_le hn hsize))
  unfold below Draw.below
  refine bind_congr_of_ensures (ensures_word w) fun x hx => ?_
  rw [hproduct x hx, ofOption_bind, sub?_of_le hsize, ofOption_bind]
  dsimp only
  split
  · rename_i hlow
    refine bind_congr_of_ensures (ensures_word w) fun y hy => ?_
    rw [hproduct y hy, ofOption_bind]
    split
    · rw [fit?_of_lt (Nat.lt_of_lt_of_le (carry_lt hx hlow) hsize)]
      rfl
    · rfl
  · rfl

theorem between_eq (w : Width) {low high : Nat} (hle : low ≤ high) (hsize : high < w.size / 2) :
    arithmetic.between w low high = unbounded.between w low high := by
  have hspan : high - low + 1 < w.size := by omega
  show between w low high = Draw.between w low high
  unfold between Draw.between
  rw [sub?_of_le hle, ofOption_bind, fit?_of_lt hspan, ofOption_bind, below_eq w (Nat.succ_pos _) (Nat.le_of_lt hspan)]
  refine bind_congr_of_ensures (ensures_below w (Nat.succ_pos _)) fun n hn => ?_
  rw [fit?_of_lt (by omega)]
  rfl

theorem pick_eq {α : Type} {items : List α} (hpos : 0 < items.length) (hsize : items.length ≤ Width.half.size) :
    arithmetic.pick items = unbounded.pick items := by
  show (below .half items.length >>= _) = (Draw.below .half items.length >>= _)
  rw [below_eq .half hpos hsize]

theorem digits_eq (n : Nat) : arithmetic.digits n = unbounded.digits n := by
  show digits n = Draw.digits n
  induction n with
  | zero => rfl
  | succ n ih =>
    unfold digits Draw.digits
    rw [below_eq .half (by decide) (by decide), ih]
    refine bind_congr_of_ensures (ensures_below .half (by decide)) fun d hd => ?_
    have hzero : '0'.toNat = 48 := rfl
    rw [fit?_of_lt (by rw [byteSize, hzero]; omega), ofOption_bind]

/-- a number of days that has place in 32 bits has place in 64 bits of milliseconds -/
theorem days_eq {n : Nat} (h : n < 0x80000000) : arithmetic.days n = unbounded.days n := by
  have hmilliseconds : fit? (fullSize / 2) (n * 86400000) = some (n * 86400000) :=
    fit?_of_lt (by rw [fullSize]; omega)
  show wholeDays? n = some n
  rw [wholeDays?, hmilliseconds, Option.bind_eq_bind, Option.bind_some, Nat.mul_div_cancel n (by decide)]
  exact fit?_of_lt (by rw [halfSize]; omega)

/-- the sum of fifteen digits has place in its word -/
theorem checkDigit_eq {payload : List Char} (hlength : payload.length = 15) (h : ∀ c ∈ payload, c.isDigit = true) :
    arithmetic.checkDigit payload = unbounded.checkDigit payload := by
  have hsum := Luhn.payloadSum_le h
  have hsize : Luhn.payloadSum payload < halfSize := by
    rw [halfSize]
    omega
  exact (Luhn.checkDigit?_eq h).trans (if_pos hsize)

/-! ## No record differs -/

theorem cardNumber_eq : arithmetic.cardNumber = unbounded.cardNumber := by
  unfold Arithmetic.cardNumber
  rw [digits_eq]
  refine bind_congr_of_ensures (ensures_digits 14) fun ds hds => ?_
  have hpayload : ∀ c ∈ '4' :: ds, c.isDigit = true := List.forall_mem_cons.2 ⟨rfl, hds.2⟩
  have hlength : ('4' :: ds).length = 15 := by rw [List.length_cons, hds.1]
  dsimp only
  rw [checkDigit_eq hlength hpayload]

theorem dateThisYear_eq (today : Date) : dateThisYear today = Synthetic.dateThisYear today := by
  have hordinal : today.ordinal < 366 := by
    have hlt := today.ordinal_lt
    split at hlt <;> omega
  have hsize : today.ordinal < Width.full.size / 2 := Nat.lt_trans hordinal (by decide)
  unfold dateThisYear Synthetic.dateThisYear Arithmetic.dateThisYear
  rw [between_eq .full (Nat.zero_le _) hsize]
  refine bind_congr_of_ensures (ensures_between .full (Nat.zero_le _)) fun n hn => ?_
  rw [days_eq (by omega)]

theorem email_eq (firstName lastName : String) :
    arithmetic.email firstName lastName = unbounded.email firstName lastName := by
  unfold Arithmetic.email
  rw [between_eq .half (by decide) (by decide), pick_eq (by decide) (by decide)]

theorem phone_eq : arithmetic.phone = unbounded.phone := by
  unfold Arithmetic.phone
  rw [between_eq .half (by decide) (by decide), digits_eq, digits_eq]

theorem address_eq (place : Locality) : arithmetic.address place = unbounded.address place := by
  unfold Arithmetic.address
  rw [between_eq .half (by decide) (by decide), pick_eq (by decide) (by decide), digits_eq]

theorem amount_eq {low high : Nat} (hle : low ≤ high) (hsize : high < 0x80000000) :
    arithmetic.amount low high = unbounded.amount low high := by
  unfold Arithmetic.amount
  rw [between_eq .half hle hsize]

/-- **A profile is the same in machine words.** -/
theorem profile_eq (today : Date) : profile today = Synthetic.profile today := by
  unfold profile Synthetic.profile Arithmetic.profile
  simp (disch := decide) only [pick_eq, between_eq, email_eq, phone_eq, address_eq]
  refine bind_congr fun firstName => bind_congr fun lastName => bind_congr fun place => bind_congr fun customerType =>
    bind_congr fun mail => bind_congr fun telephone =>
    bind_congr_of_ensures (ensures_between .full (by decide)) fun age hage => ?_
  rw [days_eq (Nat.lt_of_le_of_lt hage.2 (by decide))]

/-- **An account is the same in machine words.** -/
theorem account_eq (customerId : String) (today : Date) (now : DateTime) :
    account customerId today now = Synthetic.account customerId today now := by
  have hopened : arithmetic.dateThisYear today = unbounded.dateThisYear today := dateThisYear_eq today
  unfold account Synthetic.account Arithmetic.account
  simp (disch := decide) only [pick_eq, cardNumber_eq, amount_eq, hopened]

/-- **A card is the same in machine words.** -/
theorem card_eq (a : Account) (today : Date) : card a today = Synthetic.card a today := by
  have hissued : arithmetic.dateThisYear today = unbounded.dateThisYear today := dateThisYear_eq today
  unfold card Synthetic.card Arithmetic.card
  simp (disch := decide) only [pick_eq, cardNumber_eq, between_eq, amount_eq, hissued]
  refine bind_congr fun cardType => bind_congr fun number =>
    bind_congr_of_ensures (ensures_between .full (by decide)) fun n hn => ?_
  rw [days_eq (Nat.lt_of_le_of_lt hn.2 (by decide))]

end Checked

end MockBank
