/-
Documents checked against a table.  Every problem is collected, in the order of the table's fields; read-only fields are
not looked at.  A problem is found where its value is and then seen from each container around it.
-/
import MockBank.Calendar.Reader
import MockBank.Email.Address
import MockBank.Schema.Basic
import MockBank.Schema.Issue

namespace MockBank

/-- a text that must pass a check -/
def Issue.inText (v : Json) (check : String → List Issue) : List Issue :=
  match v with
  | .string s => check s
  | _ => [.here .type "str type expected"]

/-- the problem with a text of the wrong form, if it has it -/
def Issue.ofFormat (good : Bool) (message : String) : List Issue :=
  if good then [] else [.here .format message]

def Issue.choiceMessage (names : List String) : String :=
  "value is not a valid enumeration member; permitted: " ++ ", ".intercalate (names.map fun n => "'" ++ n ++ "'")

/-- the problems with the length of a text; other values have no length -/
def TableField.lengthIssues (f : TableField) (v : Json) : List Issue :=
  match v with
  | .string s =>
    (match f.minLength with
      | some min =>
        if s.length < min.toNat then
          [.here .length ("ensure this value has at least " ++ toString min.toNat ++ " characters")]
        else []
      | none => []) ++
    (match f.maxLength with
      | some max =>
        if max.toNat < s.length then
          [.here .length ("ensure this value has at most " ++ toString max.toNat ++ " characters")]
        else []
      | none => [])
  | _ => []

/-- the problem with null where a value must be -/
def Issue.ofNull : Issue :=
  .here .type "none is not an allowed value"

mutual

/-- the problems with a value that is not null -/
def FieldType.issues : FieldType → Json → List Issue
  | .text, v => Issue.inText v fun _ => []
  | .id, v => Issue.inText v fun _ => []
  | .email, v => Issue.inText v fun s => Issue.ofFormat (Email.isDeliverable s) "value is not a valid email address"
  | .date, v => Issue.inText v fun s => Issue.ofFormat (Date.read s).isOk "invalid date format"
  | .dateTime, v => Issue.inText v fun s => Issue.ofFormat (DateTime.read s).isOk "invalid datetime format"
  | .number, v =>
    match v with
    | .number _ => []
    | _ => [.here .type "value is not a valid number"]
  | .integer, v =>
    match v with
    | .number (.whole _) => []
    | _ => [.here .type "value is not a valid integer"]
  | .choice names, v => Issue.inText v fun s => if s ∈ names then [] else [.here .choice (Issue.choiceMessage names)]
  | .object table, v => table.issues v
  | .array item, v =>
    match v with
    | .array items =>
      items.zipIdx.flatMap fun (v, i) =>
        (match v with
          | .null => [Issue.ofNull]
          | v => item.issues v).map (Issue.within (.index i))
    | _ => [.here .type "value is not a valid list"]
  | .map, v =>
    match v with
    | .object _ => []
    | _ => [.here .type "value is not a valid dict"]

/-- the problems with one member of an object, seen from the member -/
def TableField.issues : TableField → Option Json → List Issue
  | ⟨_, _, .readOnly, _, _⟩, _ => []
  | ⟨_, _, .optional, _, _⟩, none => []
  | ⟨_, _, .optional, _, _⟩, some .null => []
  | ⟨_, _, .required, _, _⟩, none => [.here .missing "field required"]
  | ⟨_, _, .required, _, _⟩, some .null => [Issue.ofNull]
  | ⟨name, type, presence, min, max⟩, some v =>
    type.issues v ++ TableField.lengthIssues ⟨name, type, presence, min, max⟩ v

/-- the problems with the members of an object, seen from the object -/
def TableField.issuesOfAll : List TableField → List (String × Json) → List Issue
  | [], _ => []
  | ⟨name, type, presence, min, max⟩ :: rest, members =>
    (TableField.issues ⟨name, type, presence, min, max⟩ (Json.member? name members)).map (Issue.within (.key name)) ++
      TableField.issuesOfAll rest members

def Table.issues : Table → Json → List Issue
  | ⟨_, _, fields⟩, v =>
    match v with
    | .object members => TableField.issuesOfAll fields members
    | _ => [.here .type "value is not a valid object"]

end

/-- accepts a document without problems and tells all problems of any other -/
def Table.validate (t : Table) (v : Json) : Except Rejection Unit :=
  match t.issues v with
  | [] => .ok ()
  | issues => .error ⟨issues⟩

theorem Table.validate_eq_ok_iff (t : Table) (v : Json) : t.validate v = .ok () ↔ t.issues v = [] := by
  unfold Table.validate
  split
  · rename_i h; simp [h]
  · rename_i issues h; simpa using h

end MockBank
