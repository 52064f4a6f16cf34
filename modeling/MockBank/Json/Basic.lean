/-
JSON documents, and places inside them.  Members keep their order.  An integer stays exact within the range of the
64-bit integers, signed or not; every other number is a finite binary64 number.
-/
import MockBank.Number.Binary64

namespace MockBank

/-- the integers that a document holds exactly -/
structure Json.Whole where
  val : Int
  le_val : -0x8000000000000000 ≤ val
  val_lt : val < 0x10000000000000000
  deriving DecidableEq

/-- a number of a document: `1` is whole, `1.0` is not -/
inductive Json.Number where
  | whole (n : Json.Whole)
  | double (x : Binary64)
  deriving DecidableEq

inductive Json where
  | null
  | bool (b : Bool)
  | number (n : Json.Number)
  | string (s : String)
  | array (items : List Json)
  | object (members : List (String × Json))

namespace Json

/-- the whole number equal to a natural number, or the greatest one if it is greater than all -/
def Whole.ofNat (n : Nat) : Whole :=
  ⟨min n 0xFFFFFFFFFFFFFFFF, by omega, by omega⟩

/-- the whole number equal to a 64-bit signed integer -/
def Whole.ofInt64 (n : Int64) : Whole :=
  ⟨n.toInt, by have := n.le_toInt; omega, by have := n.toInt_lt; omega⟩

/-- the nearest binary64 number -/
def Number.toBinary64 : Number → Binary64
  | .whole n => Binary64.ofInt n.val
  | .double x => x

def ofNat (n : Nat) : Json :=
  .number (.whole (Whole.ofNat n))

def ofStrings (texts : List String) : Json :=
  .array (texts.map .string)

def string? : Json → Option String
  | .string s => some s
  | _ => none

/-- the value of a member; a name that occurs twice counts at its first place -/
def member? (name : String) : List (String × Json) → Option Json
  | [] => none
  | (n, v) :: rest => if n = name then some v else member? name rest

/-- gives a member its value: in its place if the name is there, at the end if not -/
def put (name : String) (value : Json) : List (String × Json) → List (String × Json)
  | [] => [(name, value)]
  | (n, v) :: rest => if n = name then (n, value) :: rest else (n, v) :: put name value rest

theorem member?_append (name : String) (a b : List (String × Json)) :
    member? name (a ++ b) = (member? name a).or (member? name b) := by
  induction a with
  | nil => rfl
  | cons m rest ih =>
    obtain ⟨n, v⟩ := m
    by_cases h : n = name
    · simp [member?, h]
    · simp [member?, h, ih]

theorem mem_of_member? {name : String} {v : Json} {members : List (String × Json)}
    (h : member? name members = some v) : (name, v) ∈ members := by
  induction members with
  | nil => exact absurd h (by simp [member?])
  | cons m rest ih =>
    obtain ⟨n, w⟩ := m
    by_cases hn : n = name
    · subst hn
      simp only [member?, if_true, Option.some.injEq] at h
      rw [h]
      exact List.mem_cons_self
    · simp only [member?, if_neg hn] at h
      exact List.mem_cons_of_mem _ (ih h)

/-- the value of a member is smaller than the members together -/
theorem sizeOf_member? {name : String} {v : Json} {members : List (String × Json)}
    (h : member? name members = some v) : sizeOf v < sizeOf members := by
  induction members with
  | nil => simp [member?] at h
  | cons m rest ih =>
    obtain ⟨n, w⟩ := m
    simp only [member?] at h
    simp only [List.cons.sizeOf_spec, Prod.mk.sizeOf_spec]
    split at h
    · obtain rfl := Option.some.inj h
      omega
    · have := ih h
      omega

end Json

/-! ## Places -/

/-- one step into a document -/
inductive Json.Segment where
  | key (name : String)
  | index (position : Nat)
  deriving DecidableEq

namespace Json

def Segment.text : Segment → String
  | .key name => name
  | .index position => toString position

/-- steps after the first: names follow a point, positions stand in brackets -/
def pathTextRest : List Segment → String
  | [] => ""
  | .key name :: rest => "." ++ name ++ pathTextRest rest
  | .index position :: rest => "[" ++ toString position ++ "]" ++ pathTextRest rest

/-- a path as one text, such as `a.b[2].c` -/
def pathText : List Segment → String
  | .key name :: rest => name ++ pathTextRest rest
  | path => pathTextRest path

end Json

end MockBank
