/-
Where problems are reported.  A place in a document is found by walking from its root, one member name or list position
at a time, and what is wrong with the value there is read off the table and that value alone.  The checker goes through
a document once and says the same, place by place.

- `Place.walk`, `Place.violations`: the place at the end of a path, and what is wrong there.
- `Issue.kindsAt_within`, `flatMap_of_key`: of the problems with the parts of a container, a step picks those with one.
- `FieldType.reports`: what is reported below a value, by induction on its type.
- `validate_reports`: at every place, exactly what is wrong there is reported, and nothing outside the body is.
-/
import Mathlib.Data.List.Nodup
import MockBank.Proofs.Tables

namespace MockBank

/-! ## What is wrong with a value -/

/-- whether a value has the type that a document can tell, formats and choices apart -/
def FieldType.admits : FieldType → Json → Bool
  | .text, .string _ | .id, .string _ | .email, .string _ | .date, .string _ | .dateTime, .string _ => true
  | .choice _, .string _ => true
  | .number, .number _ => true
  | .integer, .number (.whole _) => true
  | .object _, .object _ | .map, .object _ => true
  | .array _, .array _ => true
  | _, _ => false

/-- whether a text is one of those that a type is for -/
def FieldType.admitsText : FieldType → String → Bool
  | .email, s => Email.isDeliverable s
  | .date, s => (Date.read s).isOk
  | .dateTime, s => (DateTime.read s).isOk
  | .choice names, s => names.contains s
  | _, _ => true

/-- how a text that is not one of those is told -/
def FieldType.textKind : FieldType → IssueKind
  | .choice _ => .choice
  | _ => .format

/-- what is wrong with a value itself, its parts apart -/
def FieldType.violations (ty : FieldType) (v : Json) : List IssueKind :=
  if ty.admits v then
    match v with
    | .string s => if ty.admitsText s then [] else [ty.textKind]
    | _ => []
  else [.type]

/-- which bounds a text breaks; other values break none -/
def TableField.lengthViolations (f : TableField) : Json → List IssueKind
  | .string s =>
    (if f.minLength.any fun min => s.length < min.toNat then [.length] else []) ++
      if f.maxLength.any fun max => max.toNat < s.length then [.length] else []
  | _ => []

/-! ## Places -/

/-- what a place is for -/
inductive Role where
  | body (table : Table)
  | member (field : TableField)
  | item (type : FieldType)

def Role.type : Role → FieldType
  | .body t => .object t
  | .member f => f.type
  | .item ty => ty

/-- a place in a document: what it is for, and the value there, if there is one -/
structure Place where
  role : Role
  found : Option Json

namespace Place

/-- the place one step further: a member that is looked at, or an item; from any other value a step leads nowhere -/
def step (p : Place) (segment : String) : Option Place :=
  match p.role.type, p.found with
  | .object t, some (.object members) =>
    (t.field? segment).bind fun f =>
      if f.presence = .readOnly then none else some ⟨.member f, Json.member? f.name members⟩
  | .array item, some (.array items) =>
    (items.zipIdx.find? fun x => toString x.2 == segment).map fun x => ⟨.item item, some x.1⟩
  | _, _ => none

/-- the place at the end of a path -/
def walk (p : Place) : List String → Option Place
  | [] => some p
  | segment :: rest => (p.step segment).bind fun q => q.walk rest

/-- what is wrong at a place: a member that must be there may be neither absent nor null, and an item may not be null -/
def violations (p : Place) : List IssueKind :=
  match p.role, p.found with
  | .member f, none => if f.presence = .required then [.missing] else []
  | .member f, some .null => if f.presence = .required then [.type] else []
  | .member f, some v => f.type.violations v ++ f.lengthViolations v
  | role, some v => role.type.violations v
  | _, none => []

/-- what is wrong at the end of a path -/
def violationsAt (p : Place) (path : List String) : List IssueKind :=
  match p.walk path with
  | some q => q.violations
  | none => []

theorem violationsAt_nil (p : Place) : p.violationsAt [] = p.violations := rfl

theorem violationsAt_cons (p : Place) (segment : String) (rest : List String) :
    p.violationsAt (segment :: rest) =
      match p.step segment with
      | some q => q.violationsAt rest
      | none => [] := by
  simp only [violationsAt, walk]
  cases p.step segment <;> rfl

end Place

/-! ## Reports by place -/

def Table.reported (t : Table) (v : Json) : List Issue :=
  match t.validate v with
  | .ok () => []
  | .error r => r.issues

theorem Table.reported_eq (t : Table) (v : Json) : t.reported v = t.issues v := by
  unfold reported validate
  cases h : t.issues v <;> rfl

namespace Issue

/-- the kinds of the problems that are told at a path inside the body -/
def kindsAt (path : List String) (issues : List Issue) : List IssueKind :=
  (issues.filter fun i => i.loc == "body" :: path).map Issue.kind

theorem kindsAt_nil (path : List String) : kindsAt path [] = [] := rfl

theorem kindsAt_append (path : List String) (xs ys : List Issue) :
    kindsAt path (xs ++ ys) = kindsAt path xs ++ kindsAt path ys := by
  simp only [kindsAt, List.filter_append, List.map_append]

theorem kindsAt_flatMap {α : Type} (path : List String) (xs : List α) (f : α → List Issue) :
    kindsAt path (xs.flatMap f) = xs.flatMap fun x => kindsAt path (f x) := by
  simp only [kindsAt, List.filter_flatMap, List.map_flatMap]

/-- a problem with the value itself is told at the value -/
theorem kindsAt_here (path : List String) (kind : IssueKind) (message : String) :
    kindsAt path [here kind message] = if path = [] then [kind] else [] := by
  cases path <;> simp [kindsAt, loc, here, Origin.name]

/-- what is told one step above is not told at the container -/
theorem kindsAt_nil_within (s : Json.Segment) (issues : List Issue) : kindsAt [] (issues.map (within s)) = [] := by
  simp [kindsAt, loc, within, List.filter_map, Function.comp_def]

/-- what is told one step above is told behind that step -/
theorem kindsAt_within (s : Json.Segment) (issues : List Issue) (segment : String) (rest : List String) :
    kindsAt (segment :: rest) (issues.map (within s)) = if s.text == segment then kindsAt rest issues else [] := by
  have hloc : ∀ i : Issue, ((within s i).loc == "body" :: segment :: rest) =
      (s.text == segment && (i.loc == "body" :: rest)) := by
    intro i
    simp only [loc, within, List.map_cons, List.cons_beq_cons]
    cases i.origin.name == "body" <;> simp
  simp only [kindsAt, List.filter_map, List.map_map, Function.comp_def, hloc]
  by_cases h : s.text == segment
  · simp only [h, Bool.true_and, if_true]
    rfl
  · simp [h]

end Issue

/-! ## The part that a step leads to -/

/-- with the keys apart, a key picks one part -/
theorem flatMap_of_key {α β : Type} (key : α → String) (xs : List α) (h : (xs.map key).Nodup) (k : String)
    (f : α → List β) :
    (xs.flatMap fun x => if key x == k then f x else []) =
      match xs.find? fun x => key x == k with
      | some x => f x
      | none => [] := by
  induction xs with
  | nil => rfl
  | cons x rest ih =>
    rw [List.map_cons, List.nodup_cons] at h
    rw [List.flatMap_cons, List.find?_cons]
    by_cases hx : key x == k
    · have hrest : (rest.flatMap fun y => if key y == k then f y else []) = [] := by
        rw [List.flatMap_eq_nil_iff]
        intro y hy
        have hne : key y ≠ k := fun e => h.1 (beq_iff_eq.1 hx ▸ e ▸ List.mem_map_of_mem hy)
        rw [if_neg (fun e => hne (beq_iff_eq.1 e))]
      rw [hrest, if_pos hx, List.append_nil, hx]
    · simp only [hx, Bool.false_eq_true, if_false, List.nil_append]
      exact ih h.2

/-- different positions are written differently -/
theorem position_text_injective : Function.Injective fun n : Nat => toString n := by
  intro m n h
  have hdigits : Nat.toDigits 10 m = Nat.toDigits 10 n := String.ofList_injective h
  rw [← Nat.ofDigitChars_ten_toDigits (n := m), hdigits, Nat.ofDigitChars_ten_toDigits]

theorem positions_nodup (items : List Json) : (items.zipIdx.map fun x => toString x.2).Nodup := by
  have h : (items.zipIdx.map Prod.snd).Nodup := by
    rw [List.zipIdx_map_snd]
    exact List.nodup_range'
  have hmap := h.map position_text_injective
  rwa [List.map_map] at hmap

/-! ## The report below a value -/

namespace Issue

/-- what several problems with the value itself are told as -/
theorem kindsAt_map_here (path : List String) (kinds : List IssueKind) (message : IssueKind → String) :
    kindsAt path (kinds.map fun kind => here kind (message kind)) = if path = [] then kinds else [] := by
  cases path <;> simp [kindsAt, loc, here, Origin.name, List.filter_map, Function.comp_def]

/-- a form that is checked is told as a kind of problem if it is wrong -/
theorem ofFormat_eq_map (good : Bool) (message : String) :
    ofFormat good message = (if good then [] else [IssueKind.format]).map fun kind => here kind message := by
  cases good <;> rfl

end Issue

namespace FieldType

open Issue

/-- a value of a type without parts has problems only with itself -/
theorem issues_of_leaf (ty : FieldType) (hobject : ∀ t, ty ≠ .object t) (harray : ∀ item, ty ≠ .array item) (v : Json) :
    ∃ message, ty.issues v = (ty.violations v).map fun kind => here kind message := by
  cases ty with
  | object t => exact absurd rfl (hobject t)
  | array item => exact absurd rfl (harray item)
  | email =>
    cases v with
    | string s => exact ⟨_, ofFormat_eq_map _ _⟩
    | _ => exact ⟨_, rfl⟩
  | date =>
    cases v with
    | string s => exact ⟨_, ofFormat_eq_map _ _⟩
    | _ => exact ⟨_, rfl⟩
  | dateTime =>
    cases v with
    | string s => exact ⟨_, ofFormat_eq_map _ _⟩
    | _ => exact ⟨_, rfl⟩
  | choice names =>
    cases v with
    | string s =>
      refine ⟨choiceMessage names, ?_⟩
      show (if s ∈ names then [] else [here .choice (choiceMessage names)]) = _
      by_cases hs : s ∈ names <;> simp [violations, admits, admitsText, textKind, hs]
    | _ => exact ⟨_, rfl⟩
  | integer =>
    cases v with
    | number n =>
      cases n with
      | whole w => exact ⟨"", rfl⟩
      | double x => exact ⟨_, rfl⟩
    | _ => exact ⟨_, rfl⟩
  | _ => cases v <;> first | exact ⟨"", rfl⟩ | exact ⟨_, rfl⟩

/-- what is told at a value itself is what is wrong with it -/
theorem kindsAt_nil_issues (ty : FieldType) (v : Json) : kindsAt [] (ty.issues v) = ty.violations v := by
  by_cases hobject : ∃ t, ty = .object t
  · obtain ⟨t, rfl⟩ := hobject
    rw [issues_table]
    cases v with
    | object members =>
      rw [t.issues_object, kindsAt_flatMap]
      simp [kindsAt_nil_within, violations, admits]
    | _ => rw [t.issues_of_not_object _ (by simp)]; rfl
  by_cases harray : ∃ item, ty = .array item
  · obtain ⟨item, rfl⟩ := harray
    cases v with
    | array items =>
      rw [issues_array, kindsAt_flatMap]
      simp [kindsAt_nil_within, violations, admits]
    | _ => rfl
  · obtain ⟨message, h⟩ := ty.issues_of_leaf (fun t h => hobject ⟨t, h⟩) (fun item h => harray ⟨item, h⟩) v
    rw [h, kindsAt_map_here, if_pos rfl]

/-- below every value of the type, exactly what is wrong is told -/
def Reports (ty : FieldType) : Prop :=
  ∀ (p : Place) (v : Json), p.role.type = ty → p.found = some v → ∀ (segment : String) (rest : List String),
    kindsAt (segment :: rest) (ty.issues v) = p.violationsAt (segment :: rest)

end FieldType

/-- from null, and from where nothing is, a step leads nowhere -/
theorem Place.violationsAt_of_no_value (p : Place) (h : p.found = none ∨ p.found = some .null) (segment : String)
    (rest : List String) : p.violationsAt (segment :: rest) = [] := by
  have hstep : p.step segment = none := by
    unfold step
    rcases h with h | h <;> rw [h] <;> cases p.role.type <;> rfl
  rw [violationsAt_cons, hstep]

/-- at an item of a list, exactly what is wrong is told -/
theorem FieldType.Reports.item {ty : FieldType} (h : ty.Reports) (v : Json) (path : List String) :
    Issue.kindsAt path (ty.itemIssues v) = Place.violationsAt ⟨.item ty, some v⟩ path := by
  by_cases hv : v = .null
  · subst hv
    cases path with
    | nil => cases ty <;> rfl
    | cons segment rest => rw [Place.violationsAt_of_no_value _ (.inr rfl)]; exact Issue.kindsAt_here _ _ _
  · rw [ty.itemIssues_of_ne_null v hv]
    cases path with
    | nil => rw [ty.kindsAt_nil_issues]; rfl
    | cons segment rest => exact h ⟨.item ty, some v⟩ v rfl rfl segment rest

/-- the problems with the length of a text are told at the text -/
theorem TableField.kindsAt_lengthIssues (f : TableField) (v : Json) (path : List String) :
    Issue.kindsAt path (f.lengthIssues v) = if path = [] then f.lengthViolations v else [] := by
  have one : ∀ (broken : Prop) [Decidable broken] (message : String),
      Issue.kindsAt path (if broken then [.here .length message] else []) =
        if path = [] then (if broken then [.length] else []) else [] := by
    intro broken _ message
    by_cases h : broken <;> simp [h, Issue.kindsAt_here, Issue.kindsAt_nil]
  cases v with
  | string s =>
    rw [lengthIssues, lengthViolations, Issue.kindsAt_append]
    cases f.minLength <;> cases f.maxLength <;> simp only [one, Issue.kindsAt_nil] <;>
      by_cases hp : path = [] <;> simp [hp]
  | _ => simp [lengthIssues, lengthViolations, Issue.kindsAt_nil]

/-- at a member of an object, exactly what is wrong is told -/
theorem FieldType.Reports.member {f : TableField} (h : f.type.Reports) (hro : f.presence ≠ .readOnly)
    (found : Option Json) (path : List String) :
    Issue.kindsAt path (f.issues found) = Place.violationsAt ⟨.member f, found⟩ path := by
  match found with
  | none =>
    rw [f.issues_none]
    cases path with
    | nil => rw [Place.violationsAt_nil]; simp only [Place.violations]; split <;> rfl
    | cons segment rest =>
      rw [Place.violationsAt_of_no_value _ (.inl rfl)]
      split <;> rfl
  | some v =>
    by_cases hv : v = .null
    · subst hv
      rw [f.issues_null]
      cases path with
      | nil => rw [Place.violationsAt_nil]; simp only [Place.violations]; split <;> rfl
      | cons segment rest =>
        rw [Place.violationsAt_of_no_value _ (.inr rfl)]
        split <;> rfl
    · rw [f.issues_some v hro hv, Issue.kindsAt_append, f.kindsAt_lengthIssues]
      cases path with
      | nil => rw [f.type.kindsAt_nil_issues]; cases v <;> first | exact absurd rfl hv | rfl
      | cons segment rest =>
        rw [if_neg (List.cons_ne_nil _ _), List.append_nil]
        exact h ⟨.member f, some v⟩ v rfl rfl segment rest

/-! ## The whole report -/

namespace Place

theorem step_member {p : Place} {t : Table} {members : List (String × Json)} (hrole : p.role.type = .object t)
    (hfound : p.found = some (.object members)) (segment : String) :
    p.step segment = (t.field? segment).bind fun f =>
      if f.presence = .readOnly then none else some ⟨.member f, Json.member? f.name members⟩ := by
  simp only [step, hrole, hfound]

theorem step_item {p : Place} {item : FieldType} {items : List Json} (hrole : p.role.type = .array item)
    (hfound : p.found = some (.array items)) (segment : String) :
    p.step segment =
      (items.zipIdx.find? fun x => toString x.2 == segment).map fun x => ⟨.item item, some x.1⟩ := by
  simp only [step, hrole, hfound]

/-- from a value that is not the container of its type, a step leads nowhere -/
theorem violationsAt_of_not_admitted {p : Place} {v : Json} (hfound : p.found = some v)
    (h : p.role.type.admits v = false) (segment : String) (rest : List String) :
    p.violationsAt (segment :: rest) = [] := by
  have hstep : p.step segment = none := by
    unfold step
    split
    · rename_i hrole hobject
      rw [hobject] at hfound
      obtain rfl := Option.some.inj hfound
      rw [hrole] at h
      simp [FieldType.admits] at h
    · rename_i hrole harray
      rw [harray] at hfound
      obtain rfl := Option.some.inj hfound
      rw [hrole] at h
      simp [FieldType.admits] at h
    · rfl
  rw [violationsAt_cons, hstep]

end Place

/-- **What is told below a value is what is wrong there**, by induction on its type. -/
theorem FieldType.reports (ty : FieldType) (hd : ty.Distinct) : ty.Reports := by
  induction ty using FieldType.nested_induction with
  | leaf ty hobject harray =>
    intro p v hrole hfound segment rest
    obtain ⟨message, h⟩ := ty.issues_of_leaf hobject harray v
    have hstep : p.step segment = none := by
      unfold Place.step
      split
      · rename_i t _ h _; exact absurd (hrole ▸ h) (hobject t)
      · rename_i item _ h _; exact absurd (hrole ▸ h) (harray item)
      · rfl
    rw [h, Issue.kindsAt_map_here, if_neg (List.cons_ne_nil _ _), Place.violationsAt_cons, hstep]
  | object t ih =>
    intro p v hrole hfound segment rest
    rw [issues_table]
    by_cases hv : ∃ members, v = .object members
    · obtain ⟨members, rfl⟩ := hv
      -- each field adds what is told behind its name, so the first step picks one field
      have hparts : Issue.kindsAt (segment :: rest) (t.issues (.object members)) =
          t.fields.flatMap fun f => if f.name == segment then
            Issue.kindsAt rest (f.issues (Json.member? f.name members)) else [] := by
        rw [t.issues_object, Issue.kindsAt_flatMap]
        exact List.flatMap_congr fun f _ => Issue.kindsAt_within (.key f.name) _ segment rest
      rw [hparts, flatMap_of_key TableField.name t.fields (Table.Distinct.names hd), Place.violationsAt_cons,
        Place.step_member hrole hfound, Table.field?]
      cases hf : t.fields.find? fun f => f.name == segment with
      | none => rfl
      | some f =>
        have hmem := List.mem_of_find?_eq_some hf
        by_cases hro : f.presence = .readOnly
        · simp [hro, f.issues_readOnly _ hro, Issue.kindsAt_nil]
        · simp only [Option.bind_some, if_neg hro]
          exact (ih f hmem (Table.Distinct.field hd hmem)).member hro _ rest
    · rw [t.issues_of_not_object v fun members h => hv ⟨members, h⟩, Issue.kindsAt_here,
        if_neg (List.cons_ne_nil _ _)]
      refine (Place.violationsAt_of_not_admitted hfound ?_ segment rest).symm
      rw [hrole]
      cases v with
      | object members => exact absurd ⟨members, rfl⟩ hv
      | _ => rfl
  | array item ih =>
    intro p v hrole hfound segment rest
    cases v with
    | array items =>
      have hparts : Issue.kindsAt (segment :: rest) ((FieldType.array item).issues (.array items)) =
          items.zipIdx.flatMap fun x => if toString x.2 == segment then
            Issue.kindsAt rest (item.itemIssues x.1) else [] := by
        rw [issues_array, Issue.kindsAt_flatMap]
        exact List.flatMap_congr fun x _ => Issue.kindsAt_within (.index x.2) _ segment rest
      rw [hparts, flatMap_of_key (fun x => toString x.2) items.zipIdx (positions_nodup items),
        Place.violationsAt_cons, Place.step_item hrole hfound]
      cases items.zipIdx.find? fun x => toString x.2 == segment with
      | none => rfl
      | some x => exact (ih hd).item x.1 rest
    | _ =>
      refine Eq.trans ?_ (Place.violationsAt_of_not_admitted hfound (by rw [hrole]; rfl) segment rest).symm
      exact Issue.kindsAt_here _ _ _

/-- the problems with a field are with the body if those with its value are -/
theorem TableField.origin_of_mem_issues (f : TableField) (h : ∀ v, ∀ i ∈ f.type.issues v, i.origin = .body)
    (found : Option Json) : ∀ i ∈ f.issues found, i.origin = .body := by
  have hlength : ∀ v, ∀ i ∈ f.lengthIssues v, i.origin = .body := by
    intro v i hi
    unfold lengthIssues at hi
    split at hi
    · rcases List.mem_append.1 hi with hi | hi
      all_goals
        split at hi
        · split at hi
          · obtain rfl := List.mem_singleton.1 hi; rfl
          · exact absurd hi List.not_mem_nil
        · exact absurd hi List.not_mem_nil
    · exact absurd hi List.not_mem_nil
  by_cases hro : f.presence = .readOnly
  · rw [f.issues_readOnly found hro]
    exact fun i hi => absurd hi List.not_mem_nil
  match found with
  | none =>
    rw [f.issues_none]
    split
    · exact List.forall_mem_singleton.2 rfl
    · exact fun i hi => absurd hi List.not_mem_nil
  | some v =>
    by_cases hv : v = .null
    · rw [hv, f.issues_null]
      split
      · exact List.forall_mem_singleton.2 rfl
      · exact fun i hi => absurd hi List.not_mem_nil
    · rw [f.issues_some v hro hv]
      exact fun i hi => (List.mem_append.1 hi).elim (h v i) (hlength v i)

/-- every problem is one with the body -/
theorem FieldType.origin_of_mem_issues (ty : FieldType) (v : Json) : ∀ i ∈ ty.issues v, i.origin = .body := by
  induction ty using FieldType.nested_induction generalizing v with
  | leaf ty hobject harray =>
    obtain ⟨message, h⟩ := ty.issues_of_leaf hobject harray v
    rw [h, List.forall_mem_map]
    exact fun _ _ => rfl
  | object t ih =>
    rw [issues_table]
    by_cases hv : ∃ members, v = .object members
    · obtain ⟨members, rfl⟩ := hv
      intro i hi
      rw [t.issues_object] at hi
      obtain ⟨f, hf, hi⟩ := List.mem_flatMap.1 hi
      obtain ⟨j, hj, rfl⟩ := List.mem_map.1 hi
      exact f.origin_of_mem_issues (ih f hf) _ j hj
    · rw [t.issues_of_not_object v fun members h => hv ⟨members, h⟩, List.forall_mem_singleton]
      rfl
  | array item ih =>
    cases v with
    | array items =>
      intro i hi
      rw [issues_array] at hi
      obtain ⟨x, hx, hi⟩ := List.mem_flatMap.1 hi
      obtain ⟨j, hj, rfl⟩ := List.mem_map.1 hi
      by_cases hnull : x.1 = .null
      · rw [hnull] at hj
        obtain rfl := List.mem_singleton.1 hj
        rfl
      · rw [item.itemIssues_of_ne_null _ hnull] at hj
        exact ih _ j hj
    | _ => exact List.forall_mem_singleton.2 rfl

/-- the root of a document that is checked against a table -/
def Table.place (t : Table) (v : Json) : Place :=
  ⟨.body t, some v⟩

/-- **Every violation is reported, at its place, and nothing else is.** For a table that names its fields apart, the
kinds that are reported at a path are, in order, what is wrong with the place at the end of that path, and every problem
is reported at some path inside the body. -/
theorem validate_reports (t : Table) (hd : t.Distinct) (v : Json) :
    (∀ path : List String,
      ((t.reported v).filter fun i => i.loc == "body" :: path).map Issue.kind = (t.place v).violationsAt path) ∧
    ∀ i ∈ t.reported v, ∃ path, i.loc = "body" :: path := by
  rw [t.reported_eq]
  constructor
  · intro path
    cases path with
    | nil => exact (FieldType.object t).kindsAt_nil_issues v
    | cons segment rest => exact FieldType.reports (.object t) hd (t.place v) v rfl rfl segment rest
  · intro i hi
    refine ⟨i.path.map Json.Segment.text, ?_⟩
    rw [Issue.loc, (FieldType.object t).origin_of_mem_issues v i hi]
    rfl

/-- a loan with a payment of an unknown status, an item that is null, and a currency that is no text -/
def faultyLoan : Json :=
  .object [
    ("customerId", .string "c-1"),
    ("type", .string "AUTO"),
    ("amount", .ofNat 10000),
    ("currency", .bool true),
    ("paymentSchedule", .array [
      .null,
      .object [("dueDate", .string "2023-02-01"), ("amount", .ofNat 500), ("status", .string "LATER")]])]

/-- the faults of a list are told at its items and their members -/
theorem validate_reports_faultyLoan :
    Table.loan.Distinct ∧
      ((Table.loan.reported faultyLoan).filter fun i => i.loc == ["body", "currency"]).map Issue.kind = [.type] ∧
      ((Table.loan.reported faultyLoan).filter fun i => i.loc == ["body", "paymentSchedule", "0"]).map Issue.kind =
        [.type] ∧
      ((Table.loan.reported faultyLoan).filter fun i =>
        i.loc == ["body", "paymentSchedule", "1", "status"]).map Issue.kind = [.choice] ∧
      ((Table.loan.reported faultyLoan).filter fun i => i.loc == ["body", "term"]).map Issue.kind = [.missing] := by
  have hd : Table.loan.Distinct := tables_distinct Table.loan (by simp [Registry.tables])
  have h := (validate_reports Table.loan hd faultyLoan).1
  refine ⟨hd, ?_, ?_, ?_, ?_⟩
  · exact (h ["currency"]).trans rfl
  · exact (h ["paymentSchedule", "0"]).trans rfl
  · exact (h ["paymentSchedule", "1", "status"]).trans rfl
  · exact (h ["term"]).trans rfl

end MockBank
