/-
Published definitions read back.  A definition is a document; `Definition.accepts` reads it as a schema object is read,
without knowing the table that it was made from: a reference stands for the definition it leads to, `type`, `format`,
`enum`, `minLength` and `maxLength` are said of the value itself, `items` of every item, and `properties`, `required`,
`readOnly` and `nullable` of the members.

- `Definition.accepts_iff`: the reading, one level at a time.
- `TableField.accepts_definition`: what the definition of a field accepts, by induction on its type.
- `validate_iff_accepts`: a table accepts a request body if and only if its published definition does.
-/
import Mathlib.Data.List.Nodup
import MockBank.Proofs.Tables

namespace MockBank

/-! ## Reading a definition -/

namespace Definition

/-- which way a document travels: read-only members are not looked at in a request -/
inductive Direction where
  | request
  | answer
  deriving DecidableEq, Repr

/-- what a definition says under a keyword -/
def keyword? (name : String) : Json → Option Json
  | .object members => Json.member? name members
  | _ => none

def text? (name : String) (d : Json) : Option String :=
  (keyword? name d).bind Json.string?

def texts (name : String) (d : Json) : List String :=
  match keyword? name d with
  | some (.array items) => items.filterMap Json.string?
  | _ => []

def isSet (name : String) (d : Json) : Bool :=
  match keyword? name d with
  | some (.bool b) => b
  | _ => false

def bound? (name : String) (d : Json) : Option Nat :=
  match keyword? name d with
  | some (.number (.whole n)) => some n.val.toNat
  | _ => none

/-- the definitions of the members -/
def properties (d : Json) : List (String × Json) :=
  match keyword? "properties" d with
  | some (.object members) => members
  | _ => []

/-- the definition that is meant: the one referred to, or the definition itself -/
def target? (resolve : String → Option Json) (d : Json) : Option Json :=
  match text? "$ref" d with
  | some reference => resolve reference
  | none => some d

/-- the types that a value has -/
def typeNames : Json → List String
  | .null => ["null"]
  | .bool _ => ["boolean"]
  | .number (.whole _) => ["integer", "number"]
  | .number (.double _) => ["number"]
  | .string _ => ["string"]
  | .array _ => ["array"]
  | .object _ => ["object"]

/-- whether a text has a format; of the formats only three are checked -/
def inFormat (format text : String) : Bool :=
  if format = "email" then Email.isDeliverable text
  else if format = "date" then (Date.read text).isOk
  else if format = "date-time" then (DateTime.read text).isOk
  else true

/-- whether a value is one of those that a definition lists, if it lists any -/
def inEnum (d v : Json) : Bool :=
  (keyword? "enum" d).isNone ||
    match v with
    | .string s => (texts "enum" d).contains s
    | _ => false

/-- whether the length of a text is within the bounds of a definition -/
def inBounds (d : Json) (s : String) : Bool :=
  (bound? "minLength" d).all (fun n => n ≤ s.length) && (bound? "maxLength" d).all fun n => s.length ≤ n

/-- what a definition says of a text -/
def meetsText (d : Json) (s : String) : Bool :=
  (text? "format" d).all (fun format => inFormat format s) && inBounds d s

/-- what a definition says of a value, its parts apart -/
def meets (d v : Json) : Bool :=
  (text? "type" d).all (fun type => (typeNames v).contains type) && inEnum d v &&
    match v with
    | .string s => meetsText d s
    | _ => true

/-- whether a definition accepts a value: null if it is nullable, and any other value if what it says of the value and
of each part holds -/
def accepts (direction : Direction) (resolve : String → Option Json) (d : Json) : Json → Bool
  | .null => isSet "nullable" d
  | .array items =>
    (target? resolve d).any fun t => meets t (.array items) &&
      (keyword? "items" t).all fun item => items.attach.all fun v => accepts direction resolve item v.1
  | .object members =>
    (target? resolve d).any fun t => meets t (.object members) &&
      (properties t).all fun p =>
        (direction = .request && isSet "readOnly" p.2) ||
          match _h : Json.member? p.1 members with
          | none => !(texts "required" t).contains p.1
          | some v => accepts direction resolve p.2 v
  | v => (target? resolve d).any fun t => meets t v
termination_by v => v
decreasing_by
  · have := List.sizeOf_lt_of_mem v.2
    simp only [Json.array.sizeOf_spec]
    omega
  · have := Json.sizeOf_member? _h
    simp only [Json.object.sizeOf_spec]
    omega

theorem accepts_null (direction : Direction) (resolve : String → Option Json) (d : Json) :
    accepts direction resolve d .null = isSet "nullable" d := by
  rw [accepts]

/-- a member is accepted if it is not looked at, if it is absent and not required, or if its definition accepts it -/
def MemberAccepted (direction : Direction) (resolve : String → Option Json) (t : Json) (members : List (String × Json))
    (p : String × Json) : Prop :=
  (direction = .request ∧ isSet "readOnly" p.2 = true) ∨
    match Json.member? p.1 members with
    | none => p.1 ∉ texts "required" t
    | some v => accepts direction resolve p.2 v = true

/-- a value fulfils a definition that is no reference: what it says of the value and of each part holds -/
def Fulfils (direction : Direction) (resolve : String → Option Json) (t v : Json) : Prop :=
  meets t v = true ∧
    (∀ items item, v = .array items → keyword? "items" t = some item →
      ∀ x ∈ items, accepts direction resolve item x = true) ∧
    ∀ members, v = .object members → ∀ p ∈ properties t, MemberAccepted direction resolve t members p

/-- **The reading, one level at a time.** -/
theorem accepts_iff (direction : Direction) (resolve : String → Option Json) (d v : Json) (hv : v ≠ .null) :
    accepts direction resolve d v = true ↔ ∃ t, target? resolve d = some t ∧ Fulfils direction resolve t v := by
  unfold Fulfils
  rw [accepts.eq_def]
  cases v with
  | null => exact absurd rfl hv
  | array items =>
    simp only [Option.any_eq_true, Option.all_eq_true, Bool.and_eq_true, List.all_eq_true, List.mem_attach, true_implies,
      Subtype.forall, Json.array.injEq, reduceCtorEq, false_implies, implies_true, and_true]
    refine exists_congr fun t => and_congr_right fun _ => and_congr_right fun _ => ?_
    exact ⟨fun h items' item e hi => e ▸ h item hi, fun h item hi => h items item rfl hi⟩
  | object members =>
    have member : ∀ t p,
        ((direction = .request && isSet "readOnly" p.2) ||
          match _h : Json.member? p.1 members with
          | none => !(texts "required" t).contains p.1
          | some v => accepts direction resolve p.2 v) = true ↔ MemberAccepted direction resolve t members p := by
      intro t p
      unfold MemberAccepted
      split <;> rename_i h <;> simp [h]
    simp only [Option.any_eq_true, Bool.and_eq_true, List.all_eq_true, member, Json.object.injEq, reduceCtorEq,
      false_implies, implies_true, true_and, forall_eq']
  | _ => simp [Option.any_eq_true]

end Definition

/-! ## What the definition of a field says -/

namespace TableField

open Definition

variable (f : TableField)

/-- what the definition of a field says besides its type -/
theorem keyword?_definition (name : String) :
    keyword? name f.definition = (Json.member? name f.type.definition).or
      ((Json.member? name (boundMember "minLength" f.minLength)).or
        ((Json.member? name (boundMember "maxLength" f.maxLength)).or
          (Json.member? name f.presence.definition))) := by
  simp only [definition, keyword?, Json.member?_append, Option.or_assoc]

theorem member?_boundMember (name other : String) (bound : Option UInt64) :
    Json.member? other (boundMember name bound) = if name = other then bound.map fun n => .ofNat n.toNat else none := by
  cases bound <;> simp [boundMember, Json.member?]

theorem member?_presence (name : String) (presence : Presence) :
    Json.member? name presence.definition =
      if (presence = .optional ∧ name = "nullable") ∨ (presence = .readOnly ∧ name = "readOnly") then some (.bool true)
      else none := by
  cases presence <;> simp [Presence.definition, Json.member?, eq_comm]

/-- the definition of a type says nothing of bounds and presence -/
theorem member?_type_definition (ty : FieldType) (name : String)
    (h : name ∈ ["minLength", "maxLength", "nullable", "readOnly"]) : Json.member? name ty.definition = none := by
  simp only [List.mem_cons, List.not_mem_nil, or_false] at h
  rcases h with rfl | rfl | rfl | rfl <;>
    cases ty <;> simp [FieldType.definition, FieldType.formatted, Json.member?]

theorem keyword?_of_type (name : String) (h : name ∉ ["minLength", "maxLength", "nullable", "readOnly"]) :
    keyword? name f.definition = Json.member? name f.type.definition := by
  simp only [List.mem_cons, List.not_mem_nil, or_false, not_or] at h
  rw [keyword?_definition, member?_boundMember, member?_boundMember, member?_presence, if_neg (Ne.symm h.1),
    if_neg (Ne.symm h.2.1), if_neg (by simp [h])]
  simp

/-- a definition is marked with the presence of its field, unless the field is required -/
theorem isSet_definition {name : String} {presence : Presence}
    (h : (name, presence) ∈ [("nullable", Presence.optional), ("readOnly", .readOnly)]) :
    isSet name f.definition = decide (f.presence = presence) := by
  simp only [List.mem_cons, List.not_mem_nil, or_false, Prod.mk.injEq] at h
  rcases h with ⟨rfl, rfl⟩ | ⟨rfl, rfl⟩
  all_goals
    rw [isSet, keyword?_definition, member?_type_definition _ _ (by decide), member?_boundMember, member?_boundMember,
      member?_presence]
    cases f.presence <;> rfl

theorem isSet_nullable : isSet "nullable" f.definition = decide (f.presence = .optional) :=
  f.isSet_definition List.mem_cons_self

theorem isSet_readOnly : isSet "readOnly" f.definition = decide (f.presence = .readOnly) :=
  f.isSet_definition (List.mem_cons_of_mem _ List.mem_cons_self)

/-- a bound is a machine word, so the definition tells it exactly -/
theorem bound?_definition {name : String} {bound : Option UInt64}
    (h : (name, bound) ∈ [("minLength", f.minLength), ("maxLength", f.maxLength)]) :
    bound? name f.definition = bound.map UInt64.toNat := by
  have hkey : keyword? name f.definition = bound.map fun n => .ofNat n.toNat := by
    simp only [List.mem_cons, List.not_mem_nil, or_false, Prod.mk.injEq] at h
    rcases h with ⟨rfl, rfl⟩ | ⟨rfl, rfl⟩
    all_goals
      rw [keyword?_definition, member?_type_definition _ _ (by decide), member?_boundMember, member?_boundMember,
        member?_presence]
      simp
  cases bound with
  | none => simp [bound?, hkey]
  | some n =>
    have hn := n.toNat_lt
    simp only [bound?, hkey, Option.map_some, Json.ofNat, Json.Whole.ofNat, Option.some.injEq]
    omega

/-- the bounds of a definition are those that the checker uses -/
theorem inBounds_definition (s : String) : inBounds f.definition s = true ↔ f.lengthIssues (.string s) = [] := by
  rw [inBounds, f.bound?_definition List.mem_cons_self,
    f.bound?_definition (List.mem_cons_of_mem _ List.mem_cons_self), lengthIssues]
  cases f.minLength <;> cases f.maxLength <;> simp

end TableField

namespace Definition

/-- what a definition of texts accepts -/
theorem meets_of_string {d : Json} (htype : text? "type" d = some "string") (v : Json) :
    meets d v = true ↔ ∃ s, v = .string s ∧ inEnum d (.string s) = true ∧ meetsText d s = true := by
  cases v with
  | number n => cases n <;> simp [meets, htype, typeNames]
  | _ => simp [meets, htype, typeNames]

/-- what a definition of another type accepts -/
theorem meets_of_type {d : Json} {type : String} (htype : text? "type" d = some type) (hne : type ≠ "string")
    (henum : keyword? "enum" d = none) (v : Json) : meets d v = true ↔ type ∈ typeNames v := by
  cases v with
  | number n => cases n <;> simp [meets, htype, henum, inEnum]
  | string s => simp [meets, htype, typeNames, hne]
  | _ => simp [meets, htype, henum, inEnum]

end Definition

namespace TableField

open Definition

variable (f : TableField)

/-- the definition of a field of texts accepts the texts that pass its format and its list, within the bounds -/
theorem meets_text {P : String → Prop} (htype : text? "type" f.definition = some "string")
    (hP : ∀ s, inEnum f.definition (.string s) = true ∧
      (text? "format" f.definition).all (fun format => inFormat format s) = true ↔ P s) (v : Json) :
    meets f.definition v = true ↔ (∃ s, v = .string s ∧ P s) ∧ f.lengthIssues v = [] := by
  rw [meets_of_string htype]
  constructor
  · rintro ⟨s, rfl, henum, htext⟩
    obtain ⟨hformat, hbounds⟩ := (Bool.and_eq_true _ _).mp htext
    exact ⟨⟨s, rfl, (hP s).1 ⟨henum, hformat⟩⟩, (f.inBounds_definition s).1 hbounds⟩
  · rintro ⟨⟨s, rfl, h⟩, hlength⟩
    obtain ⟨henum, hformat⟩ := (hP s).2 h
    exact ⟨s, rfl, henum, (Bool.and_eq_true _ _).mpr ⟨hformat, (f.inBounds_definition s).2 hlength⟩⟩

theorem meets_formatted (format : String) (h : f.type.definition = FieldType.formatted format) (v : Json) :
    meets f.definition v = true ↔ (∃ s, v = .string s ∧ inFormat format s = true) ∧ f.lengthIssues v = [] := by
  have type := f.keyword?_of_type "type" (by decide)
  have hformat := f.keyword?_of_type "format" (by decide)
  have enum := f.keyword?_of_type "enum" (by decide)
  rw [h] at type hformat enum
  exact f.meets_text (by rw [text?, type]; rfl) (fun s => by simp [inEnum, enum, text?, hformat, FieldType.formatted,
    Json.member?, Json.string?]) v

/-- **What the definition of a type without parts says of a value is what the checker looks at.** -/
theorem meets_definition (hobject : ∀ t, f.type ≠ .object t) (harray : ∀ item, f.type ≠ .array item) (v : Json) :
    meets f.definition v = true ↔ f.type.issues v = [] ∧ f.lengthIssues v = [] := by
  have type := f.keyword?_of_type "type" (by decide)
  have format := f.keyword?_of_type "format" (by decide)
  have enum := f.keyword?_of_type "enum" (by decide)
  cases hty : f.type with
  | object t => exact absurd hty (hobject t)
  | array item => exact absurd hty (harray item)
  | text =>
    rw [hty] at type format enum
    rw [FieldType.issues_text_eq_nil_iff]
    simpa using f.meets_text (P := fun _ => True) (by rw [text?, type]; rfl)
      (fun s => by simp [inEnum, enum, text?, format, FieldType.definition, Json.member?]) v
  | id =>
    rw [f.meets_formatted "uuid" (by rw [hty]; rfl), FieldType.issues_id_eq_nil_iff]
    simp [inFormat]
  | email =>
    rw [f.meets_formatted "email" (by rw [hty]; rfl), FieldType.issues_email_eq_nil_iff]
    rfl
  | date =>
    rw [f.meets_formatted "date" (by rw [hty]; rfl), FieldType.issues_date_eq_nil_iff]
    rfl
  | dateTime =>
    rw [f.meets_formatted "date-time" (by rw [hty]; rfl), FieldType.issues_dateTime_eq_nil_iff]
    rfl
  | choice names =>
    rw [hty] at type format enum
    rw [FieldType.issues_choice_eq_nil_iff]
    refine f.meets_text (by rw [text?, type]; rfl) (fun s => ?_) v
    simp [inEnum, texts, enum, text?, format, FieldType.definition, Json.member?, Json.ofStrings, Json.string?,
      List.filterMap_map, Function.comp_def]
  | number =>
    rw [hty] at type enum
    rw [meets_of_type (by rw [text?, type]; rfl) (by decide) enum, FieldType.issues_number_eq_nil_iff]
    cases v with
    | number n => cases n <;> simp [typeNames, lengthIssues]
    | _ => simp [typeNames]
  | integer =>
    rw [hty] at type enum
    rw [meets_of_type (by rw [text?, type]; rfl) (by decide) enum, FieldType.issues_integer_eq_nil_iff]
    cases v with
    | number n => cases n <;> simp [typeNames, lengthIssues]
    | _ => simp [typeNames]
  | map =>
    rw [hty] at type enum
    rw [meets_of_type (by rw [text?, type]; rfl) (by decide) enum, FieldType.issues_map_eq_nil_iff]
    cases v with
    | number n => cases n <;> simp [typeNames]
    | _ => simp [typeNames, lengthIssues]

end TableField

/-! ## What the definition of a table says -/

theorem Json.put_of_not_mem (name : String) (value : Json) (members : List (String × Json))
    (h : name ∉ members.map Prod.fst) : Json.put name value members = members ++ [(name, value)] := by
  induction members with
  | nil => rfl
  | cons m rest ih =>
    obtain ⟨n, w⟩ := m
    simp only [List.map_cons, List.mem_cons, not_or] at h
    simp only [Json.put, if_neg (Ne.symm h.1), ih h.2, List.cons_append]

namespace Table

open Definition

variable (t : Table)

/-- the properties of a table that names its fields apart are its fields -/
theorem properties_eq (h : (t.fields.map TableField.name).Nodup) :
    t.properties = t.fields.map fun f => (f.name, f.definition) := by
  have fold : ∀ (fields : List TableField) (members : List (String × Json)),
      (members.map Prod.fst ++ fields.map TableField.name).Nodup →
      fields.foldl (fun members f => Json.put f.name f.definition members) members =
        members ++ fields.map fun f => (f.name, f.definition) := by
    intro fields
    induction fields with
    | nil => intro members _; simp
    | cons f rest ih =>
      intro members hnd
      have hnew : f.name ∉ members.map Prod.fst := fun hm =>
        (List.nodup_append.1 hnd).2.2 _ hm _ (by simp) rfl
      rw [List.foldl_cons, Json.put_of_not_mem _ _ _ hnew, ih _ (by simpa using hnd)]
      simp
  simpa [properties] using fold t.fields [] (by simpa using h)

theorem properties_definition (h : (t.fields.map TableField.name).Nodup) :
    Definition.properties t.definition = t.fields.map fun f => (f.name, f.definition) := by
  rw [← t.properties_eq h]
  simp [Definition.properties, keyword?, Table.definition, Json.member?]

theorem texts_required_definition : texts "required" t.definition = t.requiredNames := by
  simp [texts, keyword?, Table.definition, Json.member?, Json.ofStrings, List.filterMap_map, Function.comp_def,
    Json.string?]

theorem target?_definition (resolve : String → Option Json) : target? resolve t.definition = some t.definition := by
  simp [target?, text?, keyword?, Table.definition, Json.member?]

theorem keyword?_items_definition : keyword? "items" t.definition = none := by
  simp [keyword?, Table.definition, Json.member?]

theorem meets_definition (v : Json) : meets t.definition v = true ↔ ∃ members, v = .object members := by
  have type : text? "type" t.definition = some "object" := by
    simp [text?, keyword?, Table.definition, Json.member?, Json.string?]
  have enum : keyword? "enum" t.definition = none := by
    simp [keyword?, Table.definition, Json.member?]
  rw [meets_of_type type (by decide) enum]
  cases v with
  | number n => cases n <;> simp [typeNames]
  | _ => simp [typeNames]

/-- with names apart, a field is among the required names unless it is optional -/
theorem mem_requiredNames_iff (h : (t.fields.map TableField.name).Nodup) {f : TableField} (hf : f ∈ t.fields) :
    f.name ∈ t.requiredNames ↔ f.presence ≠ .optional := by
  simp only [requiredNames, List.mem_map, List.mem_filter, decide_eq_true_eq]
  constructor
  · rintro ⟨g, ⟨hg, hp⟩, hname⟩
    rwa [← List.inj_on_of_nodup_map h hg hf hname]
  · exact fun hp => ⟨f, ⟨hf, hp⟩, rfl⟩

/-- every table inside a table is found under its reference -/
def ResolvedBy (resolve : String → Option Json) : Prop :=
  ∀ s ∈ t.inner, resolve s.reference = some s.definition

end Table

namespace TableField

open Definition

/-- one member: the definition of a field accepts what the checker finds no problem with -/
theorem memberAccepted_iff {direction : Direction} {resolve : String → Option Json} {t : Table} (h : t.Distinct)
    {f : TableField} (hf : f ∈ t.fields) (hlook : direction = .request ∨ f.presence ≠ .readOnly)
    (value : ∀ v, v ≠ .null →
      (accepts direction resolve f.definition v = true ↔ f.type.issues v = [] ∧ f.lengthIssues v = []))
    (members : List (String × Json)) :
    MemberAccepted direction resolve t.definition members (f.name, f.definition) ↔
      f.issues (Json.member? f.name members) = [] := by
  have skipped : (direction = .request ∧ f.presence = .readOnly) ↔ f.presence = .readOnly := by
    rcases hlook with rfl | hp
    · exact and_iff_right rfl
    · exact iff_of_false (fun h => hp h.2) hp
  rw [issues_eq_nil_iff]
  simp only [MemberAccepted, isSet_readOnly, decide_eq_true_eq, skipped]
  refine or_congr_right' fun hro => ?_
  cases Json.member? f.name members with
  | none => simp [t.texts_required_definition, t.mem_requiredNames_iff h.names hf]
  | some v =>
    by_cases hv : v = .null
    · subst hv
      simp [accepts_null, isSet_nullable]
    · simp [value v hv, hv]

end TableField

namespace Table

open Definition

/-- in this direction the definition passes over no field, unless the checker passes over it too -/
def SeenAlike (direction : Direction) (t : Table) : Prop :=
  ∀ f ∈ t.fields, direction = .request ∨ f.presence ≠ .readOnly

instance (direction : Direction) (t : Table) : Decidable (t.SeenAlike direction) :=
  inferInstanceAs (Decidable (∀ f ∈ t.fields, direction = .request ∨ f.presence ≠ .readOnly))

/-- a table whose fields agree with their definitions agrees with its own -/
theorem fulfils_definition_iff {direction : Direction} {resolve : String → Option Json} {t : Table} (h : t.Distinct)
    (hlook : t.SeenAlike direction) (fields : ∀ f ∈ t.fields, ∀ v, v ≠ .null →
      (accepts direction resolve f.definition v = true ↔ f.type.issues v = [] ∧ f.lengthIssues v = [])) (v : Json) :
    Fulfils direction resolve t.definition v ↔ t.issues v = [] := by
  simp only [Fulfils, t.meets_definition, t.issues_eq_nil_iff, t.keyword?_items_definition,
    t.properties_definition h.names, reduceCtorEq, false_implies, implies_true, true_and, List.forall_mem_map]
  constructor
  · rintro ⟨⟨members, rfl⟩, hall⟩
    exact ⟨members, rfl, fun f hf =>
      (f.memberAccepted_iff h hf (hlook f hf) (fields f hf) members).1 (hall members rfl f hf)⟩
  · rintro ⟨members, rfl, hall⟩
    refine ⟨⟨members, rfl⟩, fun members' e f hf => ?_⟩
    obtain rfl := Json.object.inj e
    exact (f.memberAccepted_iff h hf (hlook f hf) (fields f hf) members).2 (hall f hf)

end Table

namespace TableField

open Definition

/-- only the definition of a nested table is a reference -/
theorem target?_definition (resolve : String → Option Json) (f : TableField) (hobject : ∀ t, f.type ≠ .object t) :
    target? resolve f.definition = some f.definition := by
  have ref := f.keyword?_of_type "$ref" (by decide)
  simp only [target?, text?, ref]
  cases hty : f.type with
  | object t => exact absurd hty (hobject t)
  | _ => simp [FieldType.definition, FieldType.formatted, Json.member?]

theorem target?_definition_of_object (resolve : String → Option Json) (f : TableField) (t : Table)
    (h : f.type = .object t) : target? resolve f.definition = resolve t.reference := by
  have ref := f.keyword?_of_type "$ref" (by decide)
  simp [target?, text?, ref, h, FieldType.definition, Json.member?, Json.string?]

/-- the definition of a type without parts tells no items and no properties -/
theorem keyword?_parts_definition (f : TableField) (hobject : ∀ t, f.type ≠ .object t)
    (harray : ∀ item, f.type ≠ .array item) :
    keyword? "items" f.definition = none ∧ properties f.definition = [] := by
  have items := f.keyword?_of_type "items" (by decide)
  have props := f.keyword?_of_type "properties" (by decide)
  simp only [properties, items, props]
  cases hty : f.type with
  | object t => exact absurd hty (hobject t)
  | array item => exact absurd hty (harray item)
  | _ => simp [FieldType.definition, FieldType.formatted, Json.member?]

/-- the definition of a list tells the type and the items -/
theorem array_definition (f : TableField) (item : FieldType) (h : f.type = .array item) :
    text? "type" f.definition = some "array" ∧ keyword? "enum" f.definition = none ∧
      keyword? "items" f.definition = some (.object item.definition) ∧ properties f.definition = [] := by
  simp [properties, text?, f.keyword?_of_type, h, FieldType.definition, Json.member?, Json.string?]

/-- **What the definition of a field accepts**, by induction on its type. -/
theorem accepts_definition (direction : Direction) (resolve : String → Option Json) (ty : FieldType) (hd : ty.Distinct)
    (hr : ∀ s ∈ ty.tables, resolve s.reference = some s.definition) (hlook : ∀ s ∈ ty.tables, s.SeenAlike direction)
    (f : TableField) (hf : f.type = ty) (v : Json) (hv : v ≠ .null) :
    accepts direction resolve f.definition v = true ↔ f.type.issues v = [] ∧ f.lengthIssues v = [] := by
  induction ty using FieldType.nested_induction generalizing f v with
  | leaf ty hobject harray =>
    subst hf
    obtain ⟨items, props⟩ := f.keyword?_parts_definition hobject harray
    simp [accepts_iff _ _ _ _ hv, f.target?_definition resolve hobject, Fulfils, items, props,
      f.meets_definition hobject harray]
  | object t ih =>
    have fields : ∀ g ∈ t.fields, ∀ w, w ≠ .null →
        (accepts direction resolve g.definition w = true ↔ g.type.issues w = [] ∧ g.lengthIssues w = []) :=
      fun g hg w hw => ih g hg (Table.Distinct.field hd hg)
        (fun s hs => hr s (List.mem_cons_of_mem t (Table.mem_inner hg hs)))
        (fun s hs => hlook s (List.mem_cons_of_mem t (Table.mem_inner hg hs))) g rfl w hw
    have hlength : t.issues v = [] → f.lengthIssues v = [] := by
      intro h
      obtain ⟨members, rfl, -⟩ := (t.issues_eq_nil_iff v).1 h
      rfl
    rw [accepts_iff _ _ _ _ hv, f.target?_definition_of_object resolve t hf, hr t List.mem_cons_self, hf]
    simp only [Option.some.injEq, exists_eq_left', t.fulfils_definition_iff hd (hlook t List.mem_cons_self) fields,
      FieldType.issues_table]
    exact ⟨fun h => ⟨h, hlength h⟩, And.left⟩
  | array item ih =>
    obtain ⟨type, enum, items, props⟩ := f.array_definition item hf
    -- the definition of the items is that of a field without bounds that must be there
    have one : ∀ x, accepts direction resolve (.object item.definition) x = true ↔ x ≠ .null ∧ item.issues x = [] := by
      intro x
      have hdef : (required "" item).definition = .object item.definition := by
        simp [definition, required, boundMember, Presence.definition]
      rw [← hdef]
      by_cases hx : x = .null
      · subst hx
        simp [accepts_null, isSet_nullable, required]
      · have hlength : (required "" item).lengthIssues x = [] := by cases x <;> rfl
        rw [ih hd hr hlook (required "" item) rfl x hx, hlength]
        simp [hx, required]
    rw [accepts_iff _ _ _ _ hv, f.target?_definition resolve (by simp [hf]), hf, FieldType.issues_array_eq_nil_iff]
    simp only [Option.some.injEq, exists_eq_left', Fulfils, meets_of_type type (by decide) enum, items, props,
      List.not_mem_nil, false_implies, implies_true, and_true]
    constructor
    · rintro ⟨hty, hitems⟩
      cases v with
      | array xs => exact ⟨⟨xs, rfl, fun x hx => (one x).1 (hitems xs _ rfl rfl x hx)⟩, rfl⟩
      | number n => cases n <;> simp [typeNames] at hty
      | _ => simp [typeNames] at hty
    · rintro ⟨⟨xs, rfl, hxs⟩, -⟩
      refine ⟨by simp [typeNames], fun items' item' e e' x hx => ?_⟩
      obtain rfl := Json.array.inj e
      subst e'
      exact (one x).2 (hxs x hx)

end TableField

/-! ## The published definitions -/

namespace Registry

def resolve (reference : String) : Option Json :=
  (definitions.find? fun d => Table.referenceBase ++ d.1 == reference).map Prod.snd

/-- every published table is found under its reference -/
theorem resolve_reference : ∀ t ∈ tables, resolve t.reference = some t.definition := by
  simp only [tables, List.forall_mem_cons]
  exact ⟨rfl, rfl, rfl, rfl, rfl, rfl, rfl, List.forall_mem_nil _⟩

/-- the tables inside published ones are published -/
theorem inner_subset_tables : ∀ t ∈ tables, t.inner ⊆ tables := by
  have customer : Table.customer.inner = [.address] := rfl
  have loan : Table.loan.inner = [.loanPayment] := rfl
  have others : Table.address.inner = [] ∧ Table.account.inner = [] ∧ Table.card.inner = [] ∧
      Table.transaction.inner = [] ∧ Table.loanPayment.inner = [] := ⟨rfl, rfl, rfl, rfl, rfl⟩
  simp [tables, customer, loan, others]

theorem resolvedBy_resolve (t : Table) (ht : t ∈ tables) : t.ResolvedBy resolve :=
  fun s hs => resolve_reference s (inner_subset_tables t ht hs)

end Registry

theorem Table.accepts_definition_iff {resolve : String → Option Json} {t : Table} (hd : t.Distinct)
    (hr : t.ResolvedBy resolve) (v : Json) :
    Definition.accepts .request resolve t.definition v = true ↔ t.issues v = [] := by
  by_cases hv : v = .null
  · subst hv
    rw [Definition.accepts_null, t.issues_of_not_object .null (by simp)]
    simp [Definition.isSet, Definition.keyword?, Table.definition, Json.member?]
  · have alike : ∀ s : Table, s.SeenAlike .request := fun _ _ _ => .inl rfl
    have fields : ∀ f ∈ t.fields, ∀ w, w ≠ .null →
        (Definition.accepts .request resolve f.definition w = true ↔ f.type.issues w = [] ∧ f.lengthIssues w = []) :=
      fun f hf w hw => f.accepts_definition .request resolve f.type (hd.field hf)
        (fun s hs => hr s (Table.mem_inner hf hs)) (fun s _ => alike s) rfl w hw
    rw [Definition.accepts_iff _ _ _ _ hv, t.target?_definition resolve]
    simp [t.fulfils_definition_iff hd (alike t) fields]

/-- **The published schema is the enforced schema.** A table that names its fields apart, and whose nested tables are
found under their references, accepts a request body if and only if its definition does; so does every published table,
with the published definitions to look references up in. -/
theorem validate_iff_accepts :
    (∀ (resolve : String → Option Json) (t : Table), t.Distinct → t.ResolvedBy resolve → ∀ v,
      (t.validate v = .ok () ↔ Definition.accepts .request resolve t.definition v = true)) ∧
    ∀ t ∈ Registry.tables, Registry.resolve t.reference = some t.definition ∧ ∀ v,
      (t.validate v = .ok () ↔ Definition.accepts .request Registry.resolve t.definition v = true) := by
  have all : ∀ (resolve : String → Option Json) (t : Table), t.Distinct → t.ResolvedBy resolve → ∀ v,
      (t.validate v = .ok () ↔ Definition.accepts .request resolve t.definition v = true) :=
    fun resolve t hd hr v => (t.validate_eq_ok_iff v).trans (t.accepts_definition_iff hd hr v).symm
  exact ⟨all, fun t ht => ⟨Registry.resolve_reference t ht,
    all _ t (tables_distinct t ht) (Registry.resolvedBy_resolve t ht)⟩⟩

/-- a loan with one payment due, as a client may send it -/
def loanRequest : Json :=
  .object [
    ("customerId", .string "c-1"),
    ("type", .string "AUTO"),
    ("amount", .ofNat 10000),
    ("currency", .string "USD"),
    ("interestRate", .ofNat 4),
    ("term", .ofNat 12),
    ("status", .string "ACTIVE"),
    ("startDate", .string "2023-01-01"),
    ("endDate", .string "2023-12-31"),
    ("remainingBalance", .ofNat 9500),
    ("paymentSchedule", .array [
      .object [("dueDate", .string "2023-02-01"), ("amount", .ofNat 500), ("status", .string "PENDING")]])]

/-- the published definition of loans accepts a loan and refuses an object without members -/
theorem validate_iff_accepts_loan :
    Table.loan.Distinct ∧ Table.loan.ResolvedBy Registry.resolve ∧ Table.loan ∈ Registry.tables ∧
      Definition.accepts .request Registry.resolve Table.loan.definition loanRequest = true ∧
      Definition.accepts .request Registry.resolve Table.loan.definition (.object []) = false := by
  have hmem : Table.loan ∈ Registry.tables := by simp [Registry.tables]
  have hd := tables_distinct Table.loan hmem
  have hr := Registry.resolvedBy_resolve Table.loan hmem
  refine ⟨hd, hr, hmem, ?_, ?_⟩
  · exact (validate_iff_accepts.1 Registry.resolve Table.loan hd hr loanRequest).1 rfl
  · rw [Bool.eq_false_iff]
    intro h
    have hv := ((validate_iff_accepts.2 Table.loan hmem).2 (.object [])).2 h
    rw [Table.validate_eq_ok_iff] at hv
    exact absurd hv (List.cons_ne_nil _ _)

end MockBank
