/-
What is published of answers.  The published document is read as a document: an operation stands under its path and its
method, the answers that it may give under their statuses, and the schema of an answer under its media type; references
lead into the document itself.  What is written for records, pages and refusals is what the schemas ask for.

- `OpenApi.operation?`, `OpenApi.response?`, `OpenApi.schema?`, `OpenApi.resolve`: the reading.
- `OpenApi.Promises`: an answer has a status that is published, with a document that the schema published for it
  accepts.
- `Table.accepts_answer_iff`: of an answer the published definition of a table asks for the read-only members too.
- `Customer.accepted_answer`, `Account.accepted_answer`, ...: what is written for a record is what is published of it.
- `OpenApi.accepts_page`, `OpenApi.promises_issues`, `OpenApi.promises_notFound`: so are pages and refusals.
-/
import MockBank.Api.OpenApi
import MockBank.Api.Request
import MockBank.Api.Response
import MockBank.Proofs.Publication
import MockBank.Proofs.WireForm

namespace MockBank

open Definition (keyword? accepts)

/-! ## Reading the published document -/

/-- the name under which operations of a method are published -/
def Method.operationName? : Method → Option String
  | .get => some "get"
  | .head => some "head"
  | .post => some "post"
  | .options => some "options"
  | .other _ => none

namespace OpenApi

/-- what is published for a method under a path, whose last segment may be a parameter in braces -/
def operation? (template : String) (method : Method) : Option Json := do
  let item ← (keyword? "paths" document).bind (keyword? template)
  keyword? (← method.operationName?) item

/-- the answer of a status that an operation lists -/
def response? (operation : Json) (status : Nat) : Option Json :=
  (keyword? "responses" operation).bind (keyword? (toString status))

/-- the schema of the documents of an answer -/
def schema? (response : Json) : Option Json :=
  ((keyword? "content" response).bind (keyword? "application/json")).bind (keyword? "schema")

/-- the schemas that the document holds under their names -/
def schemas : List (String × Json) :=
  match (keyword? "components" document).bind (keyword? "schemas") with
  | some (.object members) => members
  | _ => []

/-- the schema that a reference leads to -/
def resolve (reference : String) : Option Json :=
  (schemas.find? fun d => Table.referenceBase ++ d.1 == reference).map Prod.snd

/-- a path is one of those that a template describes: the template itself if it has no parameter, and otherwise with a
segment in the place of the parameter that can be read as text -/
def Describes (template : String) (path : List Char) : Prop :=
  match Text.splitFirst '\x7b' template.toList with
  | (_, none) => path = template.toList
  | (start, some _) => ∃ segment text, path = start ++ segment ∧ segment ≠ [] ∧ '/' ∉ segment ∧
      Endpoint.segmentText? segment = some text

/-- an answer is one that an operation publishes: its status is listed, and its body is a document that the schema
listed for the status accepts -/
def Promises (operation : Json) (r : Response) : Prop :=
  ∃ response schema v, response? operation r.status = some response ∧ schema? response = some schema ∧
    r.body = .json v ∧ accepts .answer resolve schema v = true

end OpenApi

/-! ## What schemas accept -/

namespace Definition

variable {direction : Direction} {resolve : String → Option Json}

theorem accepts_typed {type : String} {v : Json} (h : type ∈ typeNames v) (hv : v ≠ .null) :
    accepts direction resolve (OpenApi.typed type) v = true := by
  refine (accepts_iff _ _ _ _ hv).2 ⟨OpenApi.typed type, rfl, ?_, ?_, ?_⟩
  · cases v with
    | string s => simpa [meets, OpenApi.typed, text?, keyword?, Json.member?, Json.string?, inEnum, meetsText, inBounds,
        bound?] using h
    | _ => simpa [meets, OpenApi.typed, text?, keyword?, Json.member?, Json.string?, inEnum] using h
  · intro items item _ hitem
    exact absurd hitem (by simp [OpenApi.typed, keyword?, Json.member?])
  · intro members _ p hp
    exact absurd hp (by simp [OpenApi.typed, properties, keyword?, Json.member?])

theorem accepts_arrayOf {item : Json} {items : List Json} (h : ∀ x ∈ items, accepts direction resolve item x = true) :
    accepts direction resolve (OpenApi.arrayOf item) (.array items) = true := by
  refine (accepts_iff _ _ _ (.array items) (by simp)).2 ⟨OpenApi.arrayOf item, rfl, rfl, ?_, ?_⟩
  · intro items' item' hitems hitem x hx
    obtain rfl := Json.array.inj hitems
    obtain rfl : item = item' := Option.some.inj hitem
    exact h x hx
  · intro members hmembers
    exact absurd hmembers (by simp)

/-- an object has the members that a definition asks for -/
theorem accepts_object {d : Json} {members : List (String × Json)} (href : text? "$ref" d = none)
    (htype : text? "type" d = some "object") (henum : keyword? "enum" d = none)
    (h : ∀ p ∈ properties d, ∃ v, Json.member? p.1 members = some v ∧ accepts direction resolve p.2 v = true) :
    accepts direction resolve d (.object members) = true := by
  have htarget : target? resolve d = some d := by rw [target?, href]
  refine (accepts_iff _ _ _ (.object members) (by simp)).2 ⟨d, htarget, ?_, ?_, ?_⟩
  · rw [meets_of_type htype (by decide) henum]
    exact List.mem_singleton.2 rfl
  · intro items item hitems
    exact absurd hitems (by simp)
  · intro members' hmembers p hp
    obtain rfl := Json.object.inj hmembers
    obtain ⟨v, hv, haccepted⟩ := h p hp
    rw [MemberAccepted, hv]
    exact .inr haccepted

/-- a reference accepts what the definition that it leads to accepts -/
theorem accepts_reference {name : String} {d v : Json} (hresolve : resolve (Table.referenceBase ++ name) = some d)
    (hd : text? "$ref" d = none) (hv : v ≠ .null) (h : accepts direction resolve d v = true) :
    accepts direction resolve (OpenApi.reference name) v = true := by
  obtain ⟨t, ht, hfulfils⟩ := (accepts_iff _ _ _ _ hv).1 h
  rw [target?, hd] at ht
  obtain rfl := Option.some.inj ht
  exact (accepts_iff _ _ _ _ hv).2 ⟨d, hresolve, hfulfils⟩

end Definition

/-! ## Records in answers -/

namespace TableField

open Definition

/-- one member of an answer: a read-only member must be there and be of its type -/
theorem memberAccepted_answer_iff {resolve : String → Option Json} {t : Table} (h : t.Distinct) {f : TableField}
    (hf : f ∈ t.fields) (value : ∀ v, v ≠ .null →
      (accepts .answer resolve f.definition v = true ↔ f.type.issues v = [] ∧ f.lengthIssues v = []))
    (members : List (String × Json)) :
    MemberAccepted .answer resolve t.definition members (f.name, f.definition) ↔
      f.issues (Json.member? f.name members) = [] ∧ (f.presence = .readOnly →
        ∃ v, Json.member? f.name members = some v ∧ v ≠ .null ∧ f.type.issues v = [] ∧ f.lengthIssues v = []) := by
  by_cases hro : f.presence = .readOnly
  · have hissues : f.issues (Json.member? f.name members) = [] := (f.issues_eq_nil_iff _).2 (.inl hro)
    have hrequired : f.name ∈ t.requiredNames := (t.mem_requiredNames_iff h.names hf).2 (by simp [hro])
    simp only [hissues, hro, true_and, true_implies, MemberAccepted, reduceCtorEq, false_and, false_or]
    cases Json.member? f.name members with
    | none => simp [t.texts_required_definition, hrequired]
    | some v =>
      by_cases hv : v = .null
      · subst hv
        simp [accepts_null, isSet_nullable, hro]
      · simp [value v hv, hv]
  · rw [memberAccepted_iff h hf (.inr hro) value members]
    exact ⟨fun hissues => ⟨hissues, fun h => absurd h hro⟩, And.left⟩

end TableField

namespace Table

open Definition

/-- **Of an answer the definition of a table asks what the checker asks, and the read-only members besides.** -/
theorem accepts_answer_iff {resolve : String → Option Json} {t : Table} (hd : t.Distinct) (hr : t.ResolvedBy resolve)
    (hinner : ∀ s ∈ t.inner, s.SeenAlike .answer) (members : List (String × Json)) :
    accepts .answer resolve t.definition (.object members) = true ↔
      t.issues (.object members) = [] ∧ ∀ f ∈ t.fields, f.presence = .readOnly →
        ∃ v, Json.member? f.name members = some v ∧ v ≠ .null ∧ f.type.issues v = [] ∧ f.lengthIssues v = [] := by
  have fields : ∀ f ∈ t.fields, ∀ v, v ≠ .null →
      (accepts .answer resolve f.definition v = true ↔ f.type.issues v = [] ∧ f.lengthIssues v = []) :=
    fun f hf v hv => f.accepts_definition .answer resolve f.type (hd.field hf)
      (fun s hs => hr s (mem_inner hf hs)) (fun s hs => hinner s (mem_inner hf hs)) rfl v hv
  have member : ∀ f ∈ t.fields, _ := fun f hf => f.memberAccepted_answer_iff hd hf (fields f hf) members
  rw [accepts_iff _ _ _ _ (by simp), t.target?_definition resolve, t.issues_object_eq_nil_iff]
  simp only [Option.some.injEq, exists_eq_left', Fulfils, t.meets_definition, t.properties_definition hd.names,
    List.forall_mem_map, reduceCtorEq, false_implies, implies_true, true_and, Json.object.injEq, exists_eq',
    forall_eq']
  constructor
  · intro h
    exact ⟨fun f hf => ((member f hf).1 (h f hf)).1, fun f hf => ((member f hf).1 (h f hf)).2⟩
  · rintro ⟨hissues, hro⟩ f hf
    exact (member f hf).2 ⟨hissues f hf, hro f hf⟩

end Table

namespace OpenApi

/-- every published table is found under its reference -/
theorem resolve_table : ∀ t ∈ Registry.tables, resolve t.reference = some t.definition := by
  simp only [Registry.tables, List.forall_mem_cons]
  exact ⟨rfl, rfl, rfl, rfl, rfl, rfl, rfl, List.forall_mem_nil _⟩

/-- every read-only member is among the required ones, so of an answer it is asked for -/
theorem readOnly_required : ∀ d ∈ schemas, ∀ p ∈ Definition.properties d.2, Definition.isSet "readOnly" p.2 = true →
    p.1 ∈ Definition.texts "required" d.2 := by
  decide +kernel

/-- no table inside a published one leaves a member to the service -/
theorem inner_seenAlike : ∀ t ∈ Registry.tables, ∀ s ∈ t.inner, s.SeenAlike .answer := by
  decide

theorem resolvedBy_resolve (t : Table) (ht : t ∈ Registry.tables) : t.ResolvedBy resolve :=
  fun s hs => resolve_table s (Registry.inner_subset_tables t ht hs)

/-- a record is what is published of it if its table accepts it and its read-only members are there -/
theorem accepts_record {t : Table} (ht : t ∈ Registry.tables) {members : List (String × Json)}
    (hissues : t.issues (.object members) = []) (hro : ∀ f ∈ t.fields.filter fun f => f.presence = .readOnly,
      ∃ v, Json.member? f.name members = some v ∧ v ≠ .null ∧ f.type.issues v = [] ∧ f.lengthIssues v = []) :
    accepts .answer resolve (reference t.name) (.object members) = true := by
  have hd := tables_distinct t ht
  have hanswer := Table.accepts_answer_iff hd (resolvedBy_resolve t ht) (inner_seenAlike t ht) members
  have href : Definition.text? "$ref" t.definition = none := rfl
  refine Definition.accepts_reference (resolve_table t ht) href (by simp) (hanswer.2 ⟨hissues, ?_⟩)
  intro f hf hp
  exact hro f (List.mem_filter.2 ⟨hf, decide_eq_true hp⟩)

/-- a record whose id is all that the service assigns -/
theorem accepts_record_of_id {t : Table} (ht : t ∈ Registry.tables)
    (hro : (t.fields.filter fun f => f.presence = .readOnly) = [.readOnly "id" .id])
    {members : List (String × Json)} (hissues : t.issues (.object members) = []) {id : String}
    (hid : Json.member? "id" members = some (.string id)) :
    accepts .answer resolve (reference t.name) (.object members) = true := by
  refine accepts_record ht hissues ?_
  rw [hro, List.forall_mem_singleton]
  exact ⟨.string id, hid, by simp, rfl, rfl⟩

end OpenApi

/-! What is written for each kind of record is what is published of it. -/

open OpenApi (accepts_record accepts_record_of_id)

theorem Customer.accepted_answer {c : Customer} (h : c.Valid) :
    accepts .answer OpenApi.resolve (OpenApi.reference "Customer") (Entity.toJson c) = true := by
  have hro : (Table.customer.fields.filter fun f => f.presence = .readOnly) =
      [.readOnly "id" .id, .readOnly "createdAt" .dateTime, .readOnly "updatedAt" .dateTime] := rfl
  refine accepts_record (t := .customer) (by simp [Registry.tables]) (Customer.accepted h) ?_
  rw [hro]
  simp only [List.forall_mem_cons]
  exact ⟨⟨_, rfl, by simp, rfl, rfl⟩,
    ⟨_, rfl, (Wire.written_dateTime c.createdAt).ne_null, (Wire.written_dateTime c.createdAt).accepted, rfl⟩,
    ⟨_, rfl, (Wire.written_dateTime c.updatedAt).ne_null, (Wire.written_dateTime c.updatedAt).accepted, rfl⟩,
    List.forall_mem_nil _⟩

theorem Account.accepted_answer (a : Account) :
    accepts .answer OpenApi.resolve (OpenApi.reference "Account") (Entity.toJson a) = true :=
  accepts_record_of_id (t := .account) (by simp [Registry.tables]) rfl a.accepted rfl

theorem Card.accepted_answer (c : Card) :
    accepts .answer OpenApi.resolve (OpenApi.reference "Card") (Entity.toJson c) = true :=
  accepts_record_of_id (t := .card) (by simp [Registry.tables]) rfl c.accepted rfl

theorem Transaction.accepted_answer (t : Transaction) :
    accepts .answer OpenApi.resolve (OpenApi.reference "Transaction") (Entity.toJson t) = true :=
  accepts_record_of_id (t := .transaction) (by simp [Registry.tables]) rfl t.accepted rfl

theorem Loan.accepted_answer (l : Loan) :
    accepts .answer OpenApi.resolve (OpenApi.reference "Loan") (Entity.toJson l) = true :=
  accepts_record_of_id (t := .loan) (by simp [Registry.tables]) rfl l.accepted rfl

/-! ## Pages and refusals -/

namespace OpenApi

open Definition

theorem accepts_text (s : String) : accepts .answer resolve (typed "string") (.string s) = true :=
  accepts_typed (by simp [typeNames]) (by simp)

theorem accepts_natural (n : Nat) : accepts .answer resolve (typed "integer") (.ofNat n) = true :=
  accepts_typed (by simp [typeNames, Json.ofNat]) (by simp [Json.ofNat])

/-- an issue is what is published of it -/
theorem accepts_issue (i : Issue) : accepts .answer resolve (reference "ValidationIssue") i.toJson = true := by
  have hloc : accepts .answer resolve (arrayOf (typed "string")) (.ofStrings i.loc) = true := by
    refine accepts_arrayOf fun x hx => ?_
    obtain ⟨s, -, rfl⟩ := List.mem_map.1 hx
    exact accepts_text s
  refine accepts_reference (d := issue) rfl rfl (by simp [Issue.toJson]) (accepts_object rfl rfl rfl ?_)
  have hproperties : properties issue =
      [("loc", arrayOf (typed "string")), ("msg", typed "string"), ("type", typed "string")] := rfl
  rw [hproperties]
  simp only [List.forall_mem_cons]
  exact ⟨⟨_, rfl, hloc⟩, ⟨_, rfl, accepts_text _⟩, ⟨_, rfl, accepts_text _⟩, List.forall_mem_nil _⟩

/-- a page is what is published of it if its records are what is published of them -/
theorem accepts_page {α : Type} [Entity α] {name : String}
    (hname : resolve (Table.referenceBase ++ ("Paginated" ++ name)) = some (envelope name)) {p : Page α}
    (h : ∀ a ∈ p.data, accepts .answer resolve (reference name) (Entity.toJson a) = true) :
    accepts .answer resolve (reference ("Paginated" ++ name)) (p.toJson Entity.toJson) = true := by
  have hdata : accepts .answer resolve (arrayOf (reference name)) (.array (p.data.map Entity.toJson)) = true := by
    refine accepts_arrayOf fun x hx => ?_
    obtain ⟨a, ha, rfl⟩ := List.mem_map.1 hx
    exact h a ha
  refine accepts_reference hname rfl (by simp [Page.toJson]) (accepts_object rfl rfl rfl ?_)
  have hproperties : properties (envelope name) =
      [("data", arrayOf (reference name)), ("total", typed "integer"), ("page", typed "integer"),
        ("limit", typed "integer")] := rfl
  rw [hproperties]
  simp only [List.forall_mem_cons]
  exact ⟨⟨_, rfl, hdata⟩, ⟨_, rfl, accepts_natural _⟩, ⟨_, rfl, accepts_natural _⟩, ⟨_, rfl, accepts_natural _⟩,
    List.forall_mem_nil _⟩

/-- what is published of an answer that tells what is wrong -/
theorem accepts_problem {detail v : Json} (h : accepts .answer resolve detail v = true) :
    accepts .answer resolve (.object [("type", .string "object"), ("properties", .object [("detail", detail)])])
      (.object [("detail", v)]) = true := by
  refine accepts_object rfl rfl rfl ?_
  have hproperties : properties (.object [("type", .string "object"), ("properties", .object [("detail", detail)])]) =
      [("detail", detail)] := rfl
  rw [hproperties, List.forall_mem_singleton]
  exact ⟨v, rfl, h⟩

variable {operation : Json}

/-- an answer with a document -/
theorem promises_document {schema v : Json} (hop : response? operation 200 = some (success schema))
    (h : accepts .answer resolve schema v = true) : Promises operation (.json 200 v) :=
  ⟨success schema, schema, v, hop, rfl, rfl, h⟩

/-- a refusal with issues -/
theorem promises_issues {e : ApiError} (hop : response? operation 422 = some validationError) (hstatus : e.status = 422)
    (issues : List Issue) (hdetail : e.detail = .array (issues.map Issue.toJson)) : Promises operation e.response := by
  have hissues : accepts .answer resolve (arrayOf (reference "ValidationIssue")) e.detail = true := by
    rw [hdetail]
    refine accepts_arrayOf fun x hx => ?_
    obtain ⟨i, -, rfl⟩ := List.mem_map.1 hx
    exact accepts_issue i
  refine ⟨validationError, _, _, ?_, rfl, rfl, accepts_problem hissues⟩
  rw [ApiError.status_response, hstatus]
  exact hop

/-- a refusal because a thing is not there -/
theorem promises_notFound (hop : response? operation 404 = some notFound) (what : String) :
    Promises operation (ApiError.notFound what).response :=
  ⟨notFound, _, _, hop, rfl, rfl, accepts_problem (accepts_text _)⟩

end OpenApi

end MockBank
