/-
Closed sets of values that documents spell by name.
-/
namespace MockBank

/-- a type whose values are listed in order and told apart by their names -/
class Named (α : Type) where
  typeName : String
  all : List α
  name : α → String
  find_name : ∀ a : α, (all.find? fun b => name b == name a) = some a

/-- a text that names no value of a type -/
structure UnknownName where
  typeName : String
  value : String
  deriving DecidableEq

def UnknownName.message (e : UnknownName) : String :=
  "unknown " ++ e.typeName ++ " `" ++ e.value ++ "`"

namespace Named

def names (α : Type) [Named α] : List String :=
  (all : List α).map name

def ofName? {α : Type} [Named α] (s : String) : Option α :=
  all.find? fun a => name a == s

/-- the value of a name, or what is wrong with it -/
def parse (α : Type) [Named α] (s : String) : Except UnknownName α :=
  match (ofName? s : Option α) with
  | some a => .ok a
  | none => .error ⟨typeName α, s⟩

theorem ofName?_name {α : Type} [Named α] (a : α) : ofName? (name a) = some a :=
  find_name a

theorem name_mem_names {α : Type} [Named α] (a : α) : name a ∈ names α := by
  have h := List.mem_of_find?_eq_some (find_name a)
  exact List.mem_map.2 ⟨a, h, rfl⟩

/-- exactly the listed names are names -/
theorem mem_names_iff {α : Type} [Named α] (s : String) :
    s ∈ names α ↔ ∃ a : α, ofName? s = some a := by
  constructor
  · intro h
    obtain ⟨a, _, rfl⟩ := List.mem_map.1 h
    exact ⟨a, ofName?_name a⟩
  · rintro ⟨a, h⟩
    have hn := List.find?_some h
    rw [beq_iff_eq] at hn
    exact hn ▸ name_mem_names a

end Named

end MockBank
