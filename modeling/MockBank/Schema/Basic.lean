/-
Tables of constraints.  A table describes the members of an object: the type of each, whether it must be there, and
bounds on the length of a text.  Types nest tables and lists, so a table describes a document of any depth.
-/
namespace MockBank

/-- whether a member must be there; a read-only one is assigned by the service and ignored on input -/
inductive Presence where
  | required
  | optional
  | readOnly
  deriving DecidableEq, Repr

mutual

/-- what the value of a member may be -/
inductive FieldType where
  | text
  | id
  | email
  | date
  | dateTime
  | number
  | integer
  | choice (names : List String)
  | object (table : Table)
  | array (item : FieldType)
  | map

/-- one member of an object; the bounds on the length of a text are machine words -/
structure TableField where
  name : String
  type : FieldType
  presence : Presence
  minLength : Option UInt64
  maxLength : Option UInt64

structure Table where
  name : String
  description : String
  fields : List TableField

end

namespace TableField

/-- a member that must be there -/
def required (name : String) (type : FieldType) : TableField :=
  ⟨name, type, .required, none, none⟩

/-- a member that may be absent or null -/
def optional (name : String) (type : FieldType) : TableField :=
  ⟨name, type, .optional, none, none⟩

/-- a member that the service assigns -/
def readOnly (name : String) (type : FieldType) : TableField :=
  ⟨name, type, .readOnly, none, none⟩

/-- bounds the number of characters of a text -/
def length (f : TableField) (min max : UInt64) : TableField :=
  { f with minLength := some min, maxLength := some max }

end TableField

namespace Table

def field? (t : Table) (name : String) : Option TableField :=
  t.fields.find? fun f => f.name == name

/-- the names of the members that every record carries -/
def requiredNames (t : Table) : List String :=
  (t.fields.filter fun f => f.presence ≠ .optional).map TableField.name

/-- what stands before a table's name in a reference to it -/
def referenceBase : String :=
  "#/components/schemas/"

def reference (t : Table) : String :=
  referenceBase ++ t.name

end Table

end MockBank
