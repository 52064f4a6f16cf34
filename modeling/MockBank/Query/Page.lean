/-
Pages of a list.  Pages are numbered from one and hold one to a hundred items; the number of items before a page is
computed in 64 bits and stays at the greatest value once it would exceed it.
-/
import MockBank.Json.Basic
import MockBank.Schema.Issue

namespace MockBank

/-! ## What can be wrong with a query -/

/-- a parameter that is out of bounds or cannot be read -/
structure QueryError where
  param : String
  detail : String
  deriving DecidableEq

namespace QueryError

def message (e : QueryError) : String :=
  "invalid query parameter `" ++ e.param ++ "`: " ++ e.detail

/-- an error as the one issue of an answer -/
def issue (e : QueryError) : Issue :=
  ⟨.query, [.key e.param], .query, e.detail⟩

end QueryError

/-! ## Pages -/

def PageRequest.maxLimit : UInt64 :=
  100

/-- a page number and a page size -/
structure PageRequest where
  page : UInt64
  limit : UInt64
  one_le_page : 1 ≤ page
  one_le_limit : 1 ≤ limit
  limit_le : limit ≤ PageRequest.maxLimit
  deriving DecidableEq

/-- the items of one page, and how many there are on all pages -/
structure Page (α : Type) where
  data : List α
  total : Nat
  page : UInt64
  limit : UInt64

namespace PageRequest

def defaultPage : UInt64 :=
  1

def defaultLimit : UInt64 :=
  20

def default : PageRequest :=
  ⟨defaultPage, defaultLimit, by decide, by decide, by decide⟩

def belowOne : String :=
  "ensure this value is greater than or equal to 1"

def aboveMax : String :=
  "ensure this value is less than or equal to " ++ toString maxLimit.toNat

/-- a page number that is at least one -/
def pageOf? (page : Option Int64) : Option { n : UInt64 // 1 ≤ n } :=
  match page with
  | none => some ⟨defaultPage, by decide⟩
  | some p => if h : 1 ≤ p.toUInt64 ∧ 1 ≤ p then some ⟨p.toUInt64, h.1⟩ else none

/-- the page that two optional numbers ask for; nothing is clamped -/
def of (page limit : Option Int64) : Except QueryError PageRequest :=
  match pageOf? page with
  | none => .error ⟨"page", belowOne⟩
  | some ⟨p, hp⟩ =>
    match limit with
    | none => .ok ⟨p, defaultLimit, hp, by decide, by decide⟩
    | some l =>
      if l < 1 then .error ⟨"limit", belowOne⟩
      else if h : 1 ≤ l.toUInt64 ∧ l.toUInt64 ≤ maxLimit then .ok ⟨p, l.toUInt64, hp, h.1, h.2⟩
      else .error ⟨"limit", aboveMax⟩

/-- a product that stays at the greatest value once it would exceed it -/
def saturatingMul (a b : UInt64) : UInt64 :=
  if a.toNat * b.toNat < 0x10000000000000000 then a * b else 0xFFFFFFFFFFFFFFFF

/-- how many items come before the page -/
def offset (r : PageRequest) : UInt64 :=
  saturatingMul (r.page - 1) r.limit

theorem toNat_saturatingMul (a b : UInt64) :
    (saturatingMul a b).toNat = min (a.toNat * b.toNat) 0xFFFFFFFFFFFFFFFF := by
  unfold saturatingMul
  split
  · rename_i h
    rw [UInt64.toNat_mul, Nat.mod_eq_of_lt h]
    omega
  · rename_i h
    have : (0xFFFFFFFFFFFFFFFF : UInt64).toNat = 0xFFFFFFFFFFFFFFFF := by decide
    rw [this]
    omega

end PageRequest

/-- the items that pass the test, cut to the page -/
def paginate {α : Type} (items : List α) (keep : α → Bool) (r : PageRequest) : Page α :=
  let kept := items.filter keep
  ⟨(kept.drop r.offset.toNat).take r.limit.toNat, kept.length, r.page, r.limit⟩

def Page.toJson {α : Type} (item : α → Json) (p : Page α) : Json :=
  .object [
    ("data", .array (p.data.map item)),
    ("total", .ofNat p.total),
    ("page", .ofNat p.page.toNat),
    ("limit", .ofNat p.limit.toNat)]

end MockBank
