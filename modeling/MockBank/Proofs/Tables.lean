/-
Tables as trees, and what is found in a document, part by part.  A table nests others in its fields, alone or in lists,
to any depth.

- `FieldType.nested_induction`: what holds of the types without parts, of a table whenever it holds of its fields, and
  of a list whenever it holds of its items, holds of every type.
- `Table.issues_object`, `FieldType.issues_array`: the problems with a container are the problems with its parts, each
  seen from one step above.
- `Table.issues_eq_nil_iff`, `TableField.issues_eq_nil_iff`: when there is no problem.
- `Table.Distinct`: no table names two fields alike, at any depth; every published table is so (`tables_distinct`).
-/
import MockBank.Schema.Tables
import MockBank.Schema.Validate

namespace MockBank

/-! ## Types by induction -/

/-- every type is without parts, a table with its fields, or a list with its items -/
@[elab_as_elim]
theorem FieldType.nested_induction {P : FieldType → Prop}
    (leaf : ∀ ty : FieldType, (∀ t, ty ≠ .object t) → (∀ item, ty ≠ .array item) → P ty)
    (object : ∀ t : Table, (∀ f ∈ t.fields, P f.type) → P (.object t))
    (array : ∀ item : FieldType, P item → P (.array item)) (ty : FieldType) : P ty := by
  apply @FieldType.rec P (fun f => P f.type) (fun t => P (.object t)) (fun fields => ∀ f ∈ fields, P f.type)
  case object => exact fun t h => h
  case array => exact array
  case mk => exact fun _ _ _ _ _ h => h
  case mk => exact fun _ _ fields h => object _ h
  case nil => exact fun f hf => absurd hf List.not_mem_nil
  case cons =>
    intro f rest h ih g hg
    rcases List.mem_cons.1 hg with rfl | hg
    · exact h
    · exact ih g hg
  all_goals intros; apply leaf <;> intros <;> simp

/-! ## Nested tables -/

mutual

/-- the tables that a type is made of, itself first if it is one -/
def FieldType.tables : FieldType → List Table
  | .object t => t :: t.inner
  | .array item => item.tables
  | _ => []

/-- the tables inside a table, at any depth -/
def Table.inner : Table → List Table
  | ⟨_, _, fields⟩ => TableField.innerOfAll fields

def TableField.innerOfAll : List TableField → List Table
  | [] => []
  | ⟨_, type, _, _, _⟩ :: rest => type.tables ++ TableField.innerOfAll rest

end

theorem Table.inner_eq (t : Table) : t.inner = t.fields.flatMap fun f => f.type.tables := by
  have all : ∀ fields : List TableField, TableField.innerOfAll fields = fields.flatMap fun f => f.type.tables := by
    intro fields
    induction fields with
    | nil => rfl
    | cons f rest ih =>
      obtain ⟨_, _, _, _, _⟩ := f
      rw [List.flatMap_cons, ← ih]
      rfl
  obtain ⟨_, _, fields⟩ := t
  exact all fields

theorem Table.mem_inner {t s : Table} {f : TableField} (hf : f ∈ t.fields) (hs : s ∈ f.type.tables) : s ∈ t.inner := by
  rw [t.inner_eq]
  exact List.mem_flatMap.2 ⟨f, hf, hs⟩

/-- no table of a type names two fields alike -/
def FieldType.Distinct (ty : FieldType) : Prop :=
  ∀ t ∈ ty.tables, (t.fields.map TableField.name).Nodup

/-- neither a table nor a table inside it names two fields alike -/
def Table.Distinct (t : Table) : Prop :=
  (FieldType.object t).Distinct

instance (t : Table) : Decidable t.Distinct :=
  inferInstanceAs (Decidable (∀ s ∈ t :: t.inner, (s.fields.map TableField.name).Nodup))

theorem Table.Distinct.names {t : Table} (h : t.Distinct) : (t.fields.map TableField.name).Nodup :=
  h t List.mem_cons_self

theorem Table.Distinct.field {t : Table} {f : TableField} (h : t.Distinct) (hf : f ∈ t.fields) : f.type.Distinct :=
  fun _ hs => h _ (List.mem_cons_of_mem t (Table.mem_inner hf hs))

/-- every published table names its fields apart -/
theorem tables_distinct : ∀ t ∈ Registry.tables, t.Distinct := by
  decide

/-! ## The problems with the parts of a container -/

theorem Table.issues_object (t : Table) (members : List (String × Json)) :
    t.issues (.object members) =
      t.fields.flatMap fun f => (f.issues (Json.member? f.name members)).map (Issue.within (.key f.name)) := by
  have all : ∀ fields : List TableField, TableField.issuesOfAll fields members =
      fields.flatMap fun f => (f.issues (Json.member? f.name members)).map (Issue.within (.key f.name)) := by
    intro fields
    induction fields with
    | nil => rfl
    | cons f rest ih =>
      obtain ⟨_, _, _, _, _⟩ := f
      rw [List.flatMap_cons, ← ih]
      rfl
  obtain ⟨_, _, fields⟩ := t
  exact all fields

theorem Table.issues_of_not_object (t : Table) (v : Json) (h : ∀ members, v ≠ .object members) :
    t.issues v = [.here .type "value is not a valid object"] := by
  obtain ⟨_, _, fields⟩ := t
  cases v with
  | object members => exact absurd rfl (h members)
  | _ => rfl

theorem FieldType.issues_table (t : Table) (v : Json) : (FieldType.object t).issues v = t.issues v := rfl

/-- the problems with an item of a list, seen from the item -/
def FieldType.itemIssues (item : FieldType) : Json → List Issue
  | .null => [Issue.ofNull]
  | v => item.issues v

theorem FieldType.itemIssues_of_ne_null (item : FieldType) (v : Json) (h : v ≠ .null) :
    item.itemIssues v = item.issues v := by
  cases v with
  | null => exact absurd rfl h
  | _ => rfl

theorem FieldType.issues_array (item : FieldType) (items : List Json) :
    (FieldType.array item).issues (.array items) =
      items.zipIdx.flatMap fun p => (item.itemIssues p.1).map (Issue.within (.index p.2)) := rfl

/-! ## The problems with one field -/

theorem TableField.issues_readOnly (f : TableField) (found : Option Json) (h : f.presence = .readOnly) :
    f.issues found = [] := by
  obtain ⟨_, _, presence, _, _⟩ := f
  subst h
  rfl

theorem TableField.issues_none (f : TableField) :
    f.issues none = if f.presence = .required then [.here .missing "field required"] else [] := by
  obtain ⟨_, _, presence, _, _⟩ := f
  cases presence <;> rfl

theorem TableField.issues_null (f : TableField) :
    f.issues (some .null) = if f.presence = .required then [Issue.ofNull] else [] := by
  obtain ⟨_, _, presence, _, _⟩ := f
  cases presence <;> rfl

theorem TableField.issues_some (f : TableField) (v : Json) (hf : f.presence ≠ .readOnly) (hv : v ≠ .null) :
    f.issues (some v) = f.type.issues v ++ f.lengthIssues v := by
  obtain ⟨_, _, presence, _, _⟩ := f
  cases presence with
  | readOnly => exact absurd rfl hf
  | required => cases v <;> first | rfl | exact absurd rfl hv
  | optional => cases v <;> first | rfl | exact absurd rfl hv

/-! ## No problem -/

/-- a field has no problem if it is read-only, if it is optional and not given, or if it has a value without problems -/
theorem TableField.issues_eq_nil_iff (f : TableField) (found : Option Json) :
    f.issues found = [] ↔ f.presence = .readOnly ∨ (f.presence = .optional ∧ (found = none ∨ found = some .null)) ∨
      ∃ v, found = some v ∧ v ≠ .null ∧ f.type.issues v = [] ∧ f.lengthIssues v = [] := by
  by_cases hro : f.presence = .readOnly
  · simp [f.issues_readOnly found hro, hro]
  have habsent : f.presence ≠ .required ↔ f.presence = .optional := by
    cases h : f.presence <;> simp_all
  match found with
  | none => simp [f.issues_none, hro, habsent]
  | some v =>
    by_cases hv : v = .null
    · subst hv
      simp [f.issues_null, hro, habsent]
    · simp [f.issues_some v hro hv, hro, hv]

theorem Table.issues_object_eq_nil_iff (t : Table) (members : List (String × Json)) :
    t.issues (.object members) = [] ↔ ∀ f ∈ t.fields, f.issues (Json.member? f.name members) = [] := by
  simp only [t.issues_object, List.flatMap_eq_nil_iff, List.map_eq_nil_iff]

/-- a document has no problem if it is an object and no field has one -/
theorem Table.issues_eq_nil_iff (t : Table) (v : Json) :
    t.issues v = [] ↔
      ∃ members, v = .object members ∧ ∀ f ∈ t.fields, f.issues (Json.member? f.name members) = [] := by
  by_cases hv : ∃ members, v = .object members
  · obtain ⟨members, rfl⟩ := hv
    rw [t.issues_object_eq_nil_iff]
    constructor
    · intro h; exact ⟨members, rfl, h⟩
    · rintro ⟨_, hm, h⟩; exact Json.object.inj hm ▸ h
  · rw [t.issues_of_not_object v fun members h => hv ⟨members, h⟩]
    constructor
    · intro h; exact absurd h (List.cons_ne_nil _ _)
    · rintro ⟨members, rfl, -⟩; exact absurd ⟨members, rfl⟩ hv

/-- a value that is checked as a text has no problem if it is one and passes -/
theorem Issue.inText_eq_nil_iff (v : Json) (check : String → List Issue) :
    Issue.inText v check = [] ↔ ∃ s, v = .string s ∧ check s = [] := by
  cases v <;> simp [Issue.inText]

theorem Issue.ofFormat_eq_nil_iff (good : Bool) (message : String) :
    Issue.ofFormat good message = [] ↔ good = true := by
  cases good <;> simp [Issue.ofFormat]

namespace FieldType

theorem issues_text_eq_nil_iff (v : Json) : FieldType.text.issues v = [] ↔ ∃ s, v = .string s :=
  (Issue.inText_eq_nil_iff v _).trans (by simp)

theorem issues_id_eq_nil_iff (v : Json) : FieldType.id.issues v = [] ↔ ∃ s, v = .string s :=
  (Issue.inText_eq_nil_iff v _).trans (by simp)

theorem issues_email_eq_nil_iff (v : Json) :
    FieldType.email.issues v = [] ↔ ∃ s, v = .string s ∧ Email.isDeliverable s = true :=
  (Issue.inText_eq_nil_iff v _).trans (by simp only [Issue.ofFormat_eq_nil_iff])

theorem issues_date_eq_nil_iff (v : Json) :
    FieldType.date.issues v = [] ↔ ∃ s, v = .string s ∧ (Date.read s).isOk = true :=
  (Issue.inText_eq_nil_iff v _).trans (by simp only [Issue.ofFormat_eq_nil_iff])

theorem issues_dateTime_eq_nil_iff (v : Json) :
    FieldType.dateTime.issues v = [] ↔ ∃ s, v = .string s ∧ (DateTime.read s).isOk = true :=
  (Issue.inText_eq_nil_iff v _).trans (by simp only [Issue.ofFormat_eq_nil_iff])

theorem issues_choice_eq_nil_iff (names : List String) (v : Json) :
    (FieldType.choice names).issues v = [] ↔ ∃ s, v = .string s ∧ s ∈ names :=
  (Issue.inText_eq_nil_iff v _).trans (by simp)

theorem issues_number_eq_nil_iff (v : Json) : FieldType.number.issues v = [] ↔ ∃ n, v = .number n := by
  cases v with
  | number n => exact iff_of_true rfl ⟨n, rfl⟩
  | _ => exact iff_of_false (List.cons_ne_nil _ _) (by simp)

theorem issues_integer_eq_nil_iff (v : Json) : FieldType.integer.issues v = [] ↔ ∃ n, v = .number (.whole n) := by
  cases v with
  | number n =>
    cases n with
    | whole n => exact iff_of_true rfl ⟨n, rfl⟩
    | double x => exact iff_of_false (List.cons_ne_nil _ _) (by simp)
  | _ => exact iff_of_false (List.cons_ne_nil _ _) (by simp)

theorem issues_map_eq_nil_iff (v : Json) : FieldType.map.issues v = [] ↔ ∃ members, v = .object members := by
  cases v with
  | object members => exact iff_of_true rfl ⟨members, rfl⟩
  | _ => exact iff_of_false (List.cons_ne_nil _ _) (by simp)

/-- a list has no problem if no item is null or has one -/
theorem issues_array_eq_nil_iff (item : FieldType) (v : Json) :
    (FieldType.array item).issues v = [] ↔
      ∃ items, v = .array items ∧ ∀ x ∈ items, x ≠ .null ∧ item.issues x = [] := by
  have one : ∀ x, item.itemIssues x = [] ↔ x ≠ .null ∧ item.issues x = [] := by
    intro x
    by_cases hx : x = .null
    · subst hx; simp [itemIssues]
    · simp [item.itemIssues_of_ne_null x hx, hx]
  cases v with
  | array items =>
    simp only [issues_array, List.flatMap_eq_nil_iff, List.map_eq_nil_iff, one, Json.array.injEq,
      exists_eq_left']
    constructor
    · intro h x hx
      obtain ⟨i, hi, rfl⟩ := List.getElem_of_mem hx
      exact h (items[i], i) (List.mk_mem_zipIdx_iff_getElem?.2 (List.getElem?_eq_getElem hi))
    · intro h p hp
      exact h p.1 (List.fst_mem_of_mem_zipIdx hp)
  | _ => exact iff_of_false (List.cons_ne_nil _ _) (by simp)

end FieldType

end MockBank
