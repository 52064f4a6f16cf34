/-
Records read from objects.  The members are looked at in the order of the document, and the first whose value does not
fit is told; only then are members missed, in the order of the record's fields.  Unknown members are passed over.  Of a
record with a table, the table speaks first.
-/
import MockBank.Record.Wire
import MockBank.Schema.Validate

namespace MockBank

/-! ## Shapes -/

/-- how a record is read: a check for the value of each member, and how the record is built from the values -/
structure Shape (α : Type) where
  checks : List (String × (Json → Except Mismatch Unit))
  build : (String → Option Json) → Except Mismatch α

namespace Shape

variable {α β : Type}

def pure (a : α) : Shape α :=
  ⟨[], fun _ => .ok a⟩

/-- the members of one record after those of another -/
def seq (f : Shape (α → β)) (s : Shape α) : Shape β where
  checks := f.checks ++ s.checks
  build get :=
    match f.build get with
    | .error e => .error e
    | .ok g => (s.build get).map g

/-- a member that must be there -/
def field (name : String) (wire : Wire α) : Shape α where
  checks := [(name, fun v => (wire.read v).map fun _ => ())]
  build get :=
    match get name with
    | none => .error (.missing name)
    | some v => wire.read v

/-- a member that may be absent or null -/
def optional (name : String) (wire : Wire α) : Shape (Option α) where
  checks := [(name, fun v => (wire.optional.read v).map fun _ => ())]
  build get :=
    match get name with
    | none => .ok none
    | some v => wire.optional.read v

/-- checks the value of a member, if the record has one of that name -/
def check (s : Shape α) (name : String) (v : Json) : Except Mismatch Unit :=
  match s.checks.find? fun c => c.1 == name with
  | none => .ok ()
  | some c => c.2 v

/-- checks the members in order; a name that occurs twice counts at its first place -/
def checkAll (s : Shape α) (all : List (String × Json)) : List (String × Json) → Except Mismatch Unit
  | [] => .ok ()
  | (name, v) :: rest =>
    match s.check name ((Json.member? name all).getD v) with
    | .error e => .error e
    | .ok () => s.checkAll all rest

/-- the record that an object spells -/
def read (s : Shape α) : Json → Except Mismatch α
  | .object members =>
    match s.checkAll members members with
    | .error e => .error e
    | .ok () => s.build fun name => Json.member? name members
  | v => .error (.wrongType v "a record")

end Shape

/-- a record inside another one -/
def Wire.record {α : Type} (write : α → List (String × Json)) (shape : Shape α) : Wire α where
  write a := .object (write a)
  read := shape.read

/-! ## Records with a table -/

/-- a kind of record: its table, how it is read, and its members in order -/
class Entity (α : Type) where
  table : Table
  shape : Shape α
  members : α → List (String × Json)

namespace Entity

def toJson {α : Type} [Entity α] (a : α) : Json :=
  .object (members a)

/-- the record that a document spells, or all that is wrong with it -/
def decode (α : Type) [Entity α] (v : Json) : Except Rejection α :=
  match (table α).validate v with
  | .error r => .error r
  | .ok () => (shape.read v).mapError fun m => Rejection.ofBody m.message

theorem decode_of_issues (α : Type) [Entity α] (v : Json) (h : (table α).issues v ≠ []) :
    decode α v = .error ⟨(table α).issues v⟩ := by
  unfold decode Table.validate
  cases hi : (table α).issues v with
  | nil => exact absurd hi h
  | cons i rest => rfl

end Entity

end MockBank
