/-
The published definition of a table: a schema object that says the same as the table does.
-/
import MockBank.Json.Basic
import MockBank.Schema.Basic

namespace MockBank

def FieldType.formatted (format : String) : List (String × Json) :=
  [("type", .string "string"), ("format", .string format)]

/-- the members of a type's definition; a nested table is referred to by name -/
def FieldType.definition : FieldType → List (String × Json)
  | .text => [("type", .string "string")]
  | .id => formatted "uuid"
  | .email => formatted "email"
  | .date => formatted "date"
  | .dateTime => formatted "date-time"
  | .number => [("type", .string "number")]
  | .integer => [("type", .string "integer")]
  | .choice names => [("type", .string "string"), ("enum", .ofStrings names)]
  | .object table => [("$ref", .string table.reference)]
  | .array item => [("type", .string "array"), ("items", .object item.definition)]
  | .map => [("type", .string "object"), ("additionalProperties", .bool true)]

/-- a member that is there if a bound is -/
def TableField.boundMember (name : String) (bound : Option UInt64) : List (String × Json) :=
  match bound with
  | none => []
  | some n => [(name, .ofNat n.toNat)]

/-- what a definition says of a presence other than required -/
def Presence.definition : Presence → List (String × Json)
  | .required => []
  | .optional => [("nullable", .bool true)]
  | .readOnly => [("readOnly", .bool true)]

/-- the definition of a field: its type, its bounds, its presence -/
def TableField.definition (f : TableField) : Json :=
  .object (f.type.definition ++ boundMember "minLength" f.minLength ++ boundMember "maxLength" f.maxLength ++
    f.presence.definition)

/-- the definitions of the fields under their names; of two fields with one name the later counts -/
def Table.properties (t : Table) : List (String × Json) :=
  t.fields.foldl (fun members f => Json.put f.name f.definition members) []

def Table.definition (t : Table) : Json :=
  .object [
    ("title", .string t.name),
    ("description", .string t.description),
    ("type", .string "object"),
    ("required", .ofStrings t.requiredNames),
    ("properties", .object t.properties)]

end MockBank
