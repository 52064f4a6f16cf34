/-
What a document may say without being heard.  A table cannot tell two documents apart that give its fields the same
values: neither the order of the members, nor members that it does not name, nor those that the service assigns, nor
whether a member that may be left out is absent or null, makes a difference.

- `FieldType.Alike`: two values that a type cannot tell apart, by the tables nested in it.
- `FieldType.Alike.issues_eq`: they have the same problems, in the same order; by induction on the type.
- `Shape.Respects`: what is built from one of two such documents is built from the other, with a rule for each member of
  a record (`Profile.respects`).
- `Entity.decode_eq_of_alike`: they are decoded with the same result.
- `creation_hears_the_table_only`: adding a customer.
-/
import MockBank.Proofs.Requests
import MockBank.Proofs.WireForm

namespace MockBank

/-! ## Values that a type cannot tell apart -/

mutual

/-- two values that a type cannot tell apart: they are the same, or both are objects of a table that cannot tell their
members apart -/
inductive FieldType.Alike : FieldType → Json → Json → Prop where
  | same (ty : FieldType) (v : Json) : FieldType.Alike ty v v
  | object {t : Table} {ms ns : List (String × Json)}
      (fields : ∀ f ∈ t.fields, TableField.Alike f (Json.member? f.name ms) (Json.member? f.name ns)) :
      FieldType.Alike (.object t) (.object ms) (.object ns)

/-- what two documents give to a field, if the field cannot tell it apart: anything if the service assigns the member,
absence or null if it is optional, and else both nothing or values that the type cannot tell apart -/
inductive TableField.Alike : TableField → Option Json → Option Json → Prop where
  | readOnly {f : TableField} (assigned : f.presence = .readOnly) (found found' : Option Json) :
      TableField.Alike f found found'
  | notGiven {f : TableField} {found found' : Option Json} (optional : f.presence = .optional)
      (left : found.getD .null = .null) (right : found'.getD .null = .null) : TableField.Alike f found found'
  | missing (f : TableField) : TableField.Alike f none none
  | given {f : TableField} {v w : Json} (values : FieldType.Alike f.type v w) :
      TableField.Alike f (some v) (some w)

end

/-- what two objects give to the fields of a table, if the table cannot tell it apart -/
def Table.Alike (t : Table) (ms ns : List (String × Json)) : Prop :=
  ∀ f ∈ t.fields, f.Alike (Json.member? f.name ms) (Json.member? f.name ns)

theorem TableField.Alike.of_eq (f : TableField) {found found' : Option Json} (h : found = found') :
    f.Alike found found' := by
  subst h
  cases found with
  | none => exact .missing f
  | some v => exact .given (.same f.type v)

namespace FieldType.Alike

variable {ty : FieldType} {v w : Json}

theorem eq_of_not_object (h : ty.Alike v w) (hty : ∀ t, ty ≠ .object t) : v = w := by
  cases h with
  | same _ _ => rfl
  | object _ => exact absurd rfl (hty _)

theorem ne_null (h : ty.Alike v w) (hv : v ≠ .null) : w ≠ .null := by
  cases h with
  | same _ _ => exact hv
  | object _ => nofun

theorem eq_null (h : ty.Alike .null w) : w = .null := by
  cases h with
  | same _ _ => rfl

/-- objects have no length -/
theorem lengthIssues_eq (h : ty.Alike v w) (f : TableField) : f.lengthIssues v = f.lengthIssues w := by
  cases h with
  | same _ _ => rfl
  | object _ => rfl

end FieldType.Alike

/-! ## The same problems -/

/-- what is left out of an optional field is no problem -/
theorem TableField.issues_notGiven {f : TableField} {found : Option Json} (hf : f.presence = .optional)
    (h : found.getD .null = .null) : f.issues found = [] := by
  refine (f.issues_eq_nil_iff found).2 (.inr (.inl ⟨hf, ?_⟩))
  cases found with
  | none => exact .inl rfl
  | some v => exact .inr (congrArg some h)

theorem TableField.Alike.issues_eq {f : TableField} {found found' : Option Json} (h : f.Alike found found')
    (htype : ∀ v w, f.type.Alike v w → f.type.issues v = f.type.issues w) : f.issues found = f.issues found' := by
  by_cases hro : f.presence = .readOnly
  · rw [f.issues_readOnly found hro, f.issues_readOnly found' hro]
  cases h with
  | readOnly assigned _ _ => exact absurd assigned hro
  | notGiven optional left right => rw [issues_notGiven optional left, issues_notGiven optional right]
  | missing _ => rfl
  | @given _ v w values =>
    by_cases hv : v = .null
    · subst hv
      rw [values.eq_null]
    · rw [f.issues_some v hro hv, f.issues_some w hro (values.ne_null hv), htype v w values, values.lengthIssues_eq f]

/-- **Values that a type cannot tell apart have the same problems.** -/
theorem FieldType.Alike.issues_eq {ty : FieldType} {v w : Json} (h : ty.Alike v w) : ty.issues v = ty.issues w := by
  induction ty using FieldType.nested_induction generalizing v w with
  | leaf ty hobject _ => rw [h.eq_of_not_object hobject]
  | array item _ => rw [h.eq_of_not_object nofun]
  | object t ih =>
    cases h with
    | same _ _ => rfl
    | @object _ ms ns fields =>
      simp only [FieldType.issues_table, t.issues_object, List.flatMap]
      congr 1
      refine List.map_congr_left fun f hf => ?_
      rw [(fields f hf).issues_eq fun v w hvw => ih f hf hvw]

/-! ## The same record -/

/-- values that a type cannot tell apart are read alike -/
def Wire.Respects {α : Type} (w : Wire α) (ty : FieldType) : Prop :=
  ∀ (v v' : Json) (a : α), ty.Alike v v' → w.read v = .ok a → w.read v' = .ok a

theorem Wire.respects_of_not_object {α : Type} (w : Wire α) {ty : FieldType} (h : ∀ t, ty ≠ .object t) :
    w.Respects ty := by
  intro v v' a hv hread
  rw [← hv.eq_of_not_object h]
  exact hread

theorem Wire.Respects.optional {α : Type} {w : Wire α} {ty : FieldType} (h : w.Respects ty) :
    w.optional.Respects ty := by
  intro v v' o hv hread
  by_cases hnull : v = .null
  · subst hnull
    rw [hv.eq_null]
    exact hread
  rw [w.optional_read_of_ne_null hnull] at hread
  rw [w.optional_read_of_ne_null (hv.ne_null hnull)]
  cases ha : w.read v with
  | error e =>
    rw [ha] at hread
    exact absurd hread nofun
  | ok a =>
    rw [ha] at hread
    rw [h v v' a hv ha]
    exact hread

namespace Shape

variable {α β : Type}

theorem build_optional_of_notGiven {name : String} {w : Wire α} {get : String → Option Json}
    (h : (get name).getD .null = .null) : (optional name w).build get = .ok none := by
  cases hget : get name with
  | none => simp only [optional, hget]
  | some v =>
    rw [hget] at h
    obtain rfl : v = .null := h
    simp only [optional, hget]
    rfl

theorem build_optional_of_some {name : String} {w : Wire α} {get : String → Option Json} {v : Json}
    (h : get name = some v) : (optional name w).build get = w.optional.read v := by
  simp only [optional, h]

/-- what is built from one of two objects that a table cannot tell apart is built from the other -/
def Respects (s : Shape α) (t : Table) : Prop :=
  ∀ (ms ns : List (String × Json)) (a : α), t.Alike ms ns →
    s.build (fun name => Json.member? name ms) = .ok a → s.build (fun name => Json.member? name ns) = .ok a

namespace Respects

variable {f : Shape (α → β)} {s : Shape α} {t : Table}

theorem pure (a : α) : (Shape.pure a).Respects t :=
  fun _ _ _ _ h => h

theorem seq (hf : f.Respects t) (hs : s.Respects t) : (f.seq s).Respects t := by
  intro ms ns b hms hbuild
  obtain ⟨g, a, hg, ha, hb⟩ := (build_seq_eq_ok_iff f s _ b).1 hbuild
  exact (build_seq_eq_ok_iff f s _ b).2 ⟨g, a, hf ms ns g hms hg, hs ms ns a hms ha, hb⟩

/-- a member that the table asks for -/
theorem given {name : String} {w : Wire α} (hf : f.Respects t)
    (h : ∃ fd, t.field? name = some fd ∧ fd.presence = .required ∧ w.Respects fd.type) :
    (f.seq (.field name w)).Respects t := by
  refine hf.seq fun ms ns a hms hbuild => ?_
  obtain ⟨fd, hfd, hrequired, hw⟩ := h
  obtain ⟨hmem, rfl⟩ := Table.field?_eq_some hfd
  obtain ⟨v, hv, ha⟩ := (build_field_eq_ok_iff _ w _ a).1 hbuild
  have halike := hms fd hmem
  rw [hv] at halike
  generalize hfound : Json.member? fd.name ns = found at halike
  cases halike with
  | readOnly assigned _ _ => exact absurd (hrequired.symm.trans assigned) nofun
  | notGiven optional _ _ => exact absurd (hrequired.symm.trans optional) nofun
  | @given _ _ v' values => exact (build_field_eq_ok_iff _ w _ a).2 ⟨v', hfound, hw v v' a values ha⟩

/-- a member that the table leaves open -/
theorem mayBeGiven {name : String} {w : Wire α} {g : Shape (Option α → β)} (hg : g.Respects t)
    (h : ∃ fd, t.field? name = some fd ∧ fd.presence = .optional ∧ w.Respects fd.type) :
    (g.seq (.optional name w)).Respects t := by
  refine hg.seq fun ms ns o hms hbuild => ?_
  obtain ⟨fd, hfd, hoptional, hw⟩ := h
  obtain ⟨hmem, rfl⟩ := Table.field?_eq_some hfd
  have halike := hms fd hmem
  generalize hleft : Json.member? fd.name ms = found at halike
  generalize hright : Json.member? fd.name ns = found' at halike
  cases halike with
  | readOnly assigned _ _ => exact absurd (hoptional.symm.trans assigned) nofun
  | notGiven _ left right =>
    rw [build_optional_of_notGiven (hleft ▸ left)] at hbuild
    rw [← hbuild]
    exact build_optional_of_notGiven (hright ▸ right)
  | missing _ =>
    rw [build_optional_of_notGiven (congrArg (Option.getD · .null) hleft)] at hbuild
    rw [← hbuild]
    exact build_optional_of_notGiven (congrArg (Option.getD · .null) hright)
  | given values =>
    rw [build_optional_of_some hleft] at hbuild
    rw [build_optional_of_some hright]
    exact hw.optional _ _ o values hbuild

end Respects

end Shape

theorem Wire.respects_record {α : Type} {write : α → List (String × Json)} {shape : Shape α} {t : Table}
    (hlawful : shape.Lawful) (h : shape.Respects t) : (Wire.record write shape).Respects (.object t) := by
  intro v v' a hv hread
  cases hv with
  | same _ _ => exact hread
  | @object _ ms ns fields =>
    have hbuild := (Shape.read_object_eq_ok_iff hlawful ms a).1 hread
    exact (Shape.read_object_eq_ok_iff hlawful ns a).2 (h ms ns a fields hbuild)

theorem Address.respects : Address.shape.Respects .address :=
  (Shape.Respects.pure Address.mk)
    |>.given ⟨_, rfl, rfl, Wire.respects_of_not_object _ (by nofun)⟩
    |>.given ⟨_, rfl, rfl, Wire.respects_of_not_object _ (by nofun)⟩
    |>.mayBeGiven ⟨_, rfl, rfl, Wire.respects_of_not_object _ (by nofun)⟩
    |>.given ⟨_, rfl, rfl, Wire.respects_of_not_object _ (by nofun)⟩
    |>.given ⟨_, rfl, rfl, Wire.respects_of_not_object _ (by nofun)⟩

theorem Profile.respects : Profile.shape.Respects .customer :=
  (Shape.Respects.pure Profile.mk)
    |>.given ⟨_, rfl, rfl, Wire.respects_of_not_object _ (by nofun)⟩
    |>.given ⟨_, rfl, rfl, Wire.respects_of_not_object _ (by nofun)⟩
    |>.given ⟨_, rfl, rfl, Wire.respects_of_not_object _ (by nofun)⟩
    |>.given ⟨_, rfl, rfl, Wire.respects_of_not_object _ (by nofun)⟩
    |>.mayBeGiven ⟨_, rfl, rfl, Wire.respects_of_not_object _ (by nofun)⟩
    |>.mayBeGiven ⟨_, rfl, rfl, Wire.respects_of_not_object _ (by nofun)⟩
    |>.given ⟨_, rfl, rfl, Wire.respects_record Address.fits.lawful Address.respects⟩
    |>.given ⟨_, rfl, rfl, Wire.respects_of_not_object _ (by nofun)⟩
    |>.given ⟨_, rfl, rfl, Wire.respects_of_not_object _ (by nofun)⟩
    |>.given ⟨_, rfl, rfl, Wire.respects_of_not_object _ (by nofun)⟩

/-- **Documents that a table cannot tell apart are decoded with the same result**, if nothing is read besides what the
table vouches for. -/
theorem Entity.decode_eq_of_alike {α : Type} [Entity α] (hfits : (shape : Shape α).Fits (table α) fun _ => True)
    (hrespects : (shape : Shape α).Respects (table α)) {v w : Json} (h : (FieldType.object (table α)).Alike v w) :
    decode α v = decode α w := by
  cases h with
  | same _ _ => rfl
  | @object _ ms ns fields =>
    have hissues : (table α).issues (.object ms) = (table α).issues (.object ns) :=
      (FieldType.Alike.object fields).issues_eq
    by_cases hnone : (table α).issues (.object ms) = []
    · -- what the table accepts is decoded, and the records have the same members
      have hvalid := ((table α).validate_eq_ok_iff _).2 hnone
      have hvalid' := ((table α).validate_eq_ok_iff _).2 (hissues ▸ hnone)
      obtain ⟨a, ha⟩ := (decode_iff hfits (.object ms)).2 ⟨hvalid, trivial⟩
      have hbuild := ((decode_eq_ok_iff hfits.lawful (.object ms) a).1 ha).2
      rw [ha, (decode_eq_ok_iff hfits.lawful (.object ns) a).2 ⟨hvalid', hrespects ms ns a fields hbuild⟩]
    · rw [decode_of_issues α _ hnone, decode_of_issues α _ (hissues ▸ hnone), hissues]

/-! ## Adding a customer -/

/-- **Only what the table of customers names and a client gives is heard.** Two documents give the client's members of
a customer the same values, and so those of the address; they may order them otherwise, leave an optional one out or
give null for it, name any others on both levels, and say what they like about the id and the timestamps.  Then both
are decoded as the same profile or refused with the same problems in the same order; and requests that carry them
meet, in the same bank and with the same candidate ids at the same time, the same answer, which leaves the same bank.
-/
theorem creation_hears_the_table_only {v w : Json} (h : (FieldType.object Table.customer).Alike v w) :
    Entity.decode Profile v = Entity.decode Profile w ∧
    ∀ (b : Bank) (a a' : Arrival), a.request.Creates → a'.request.Creates →
      JsonBody.read a.request = .ok v → JsonBody.read a'.request = .ok w →
      Cors.headers a.request = Cors.headers a'.request → a.ids = a'.ids → a.now = a'.now →
      Api.respond b a = Api.respond b a' := by
  have hdecode : Entity.decode Profile v = Entity.decode Profile w :=
    Entity.decode_eq_of_alike Profile.fits Profile.respects h
  refine ⟨hdecode, ?_⟩
  intro b a a' hcreates hcreates' hread hread' hheaders hids hnow
  have hprofile : Api.readProfile a.request = Api.readProfile a'.request := by
    rw [Api.readProfile, Api.readProfile, hread, hread']
    show (Entity.decode Profile v).mapError _ = (Entity.decode Profile w).mapError _
    rw [hdecode]
  rw [Api.respond_of_creates b hcreates, Api.respond_of_creates b hcreates', Api.createCustomer, Api.createCustomer,
    hprofile, hheaders, hids, hnow]

/-- a customer as a client may send it -/
def plainCustomer : Json :=
  .object [("customerType", .string "PERSONAL"), ("firstName", .string "Ada"), ("lastName", .string "Lovelace"),
    ("email", .string "ada@example.com"),
    ("address", .object [("street", .string "12 St James's Square"), ("city", .string "London"),
      ("country", .string "GB"), ("postalCode", .string "SW1Y 4JH")]),
    ("kycStatus", .string "PENDING"), ("riskProfile", .string "LOW"), ("status", .string "ACTIVE")]

/-- the same with an id, a timestamp and members of other names, with null for what is optional, and out of order -/
def laboredCustomer : Json :=
  .object [("status", .string "ACTIVE"), ("id", .string "mine"), ("phone", .null), ("lastName", .string "Lovelace"),
    ("address", .object [("postalCode", .string "SW1Y 4JH"), ("planet", .string "Earth"), ("state", .null),
      ("country", .string "GB"), ("city", .string "London"), ("street", .string "12 St James's Square")]),
    ("createdAt", .bool true), ("email", .string "ada@example.com"), ("customerType", .string "PERSONAL"),
    ("title", .string "Countess"), ("kycStatus", .string "PENDING"), ("dateOfBirth", .null),
    ("riskProfile", .string "LOW"), ("firstName", .string "Ada")]

theorem plainCustomer_alike : (FieldType.object .customer).Alike plainCustomer laboredCustomer := by
  refine .object ?_
  simp only [Table.customer, List.forall_mem_cons]
  refine ⟨.readOnly rfl _ _, .of_eq _ rfl, .of_eq _ rfl, .of_eq _ rfl, .of_eq _ rfl, .notGiven rfl rfl rfl,
    .notGiven rfl rfl rfl, .given (.object ?_), .of_eq _ rfl, .of_eq _ rfl, .of_eq _ rfl, .readOnly rfl _ _,
    .readOnly rfl _ _, List.forall_mem_nil _⟩
  simp only [Table.address, List.forall_mem_cons]
  exact ⟨.of_eq _ rfl, .of_eq _ rfl, .notGiven rfl rfl rfl, .of_eq _ rfl, .of_eq _ rfl, List.forall_mem_nil _⟩

theorem empty_alike_id : (FieldType.object .customer).Alike (.object []) (.object [("id", .string "x")]) := by
  refine .object ?_
  simp only [Table.customer, List.forall_mem_cons]
  exact ⟨.readOnly rfl _ _, .of_eq _ rfl, .of_eq _ rfl, .of_eq _ rfl, .of_eq _ rfl, .of_eq _ rfl, .of_eq _ rfl,
    .of_eq _ rfl, .of_eq _ rfl, .of_eq _ rfl, .of_eq _ rfl, .readOnly rfl _ _, .readOnly rfl _ _, List.forall_mem_nil _⟩

/-- both customers are decoded as one profile, and bodies that say nothing but an id are refused like an empty one -/
theorem creation_hears_the_table_only_sent :
    (∃ p, Entity.decode Profile plainCustomer = .ok p ∧ Entity.decode Profile laboredCustomer = .ok p) ∧
      ∀ b, Api.respond b (creation "\x7b\x7d" []) = Api.respond b (creation "\x7b\"id\":\"x\"\x7d" []) := by
  refine ⟨?_, fun b => ?_⟩
  · have hok : (Entity.decode Profile plainCustomer).isOk = true := by decide +kernel
    obtain ⟨p, hp⟩ := Wire.exists_of_isOk hok
    exact ⟨p, hp, (creation_hears_the_table_only plainCustomer_alike).1 ▸ hp⟩
  · exact (creation_hears_the_table_only empty_alike_id).2 b _ _ (by decide +kernel) (by decide +kernel)
      (by with_unfolding_all rfl) (by with_unfolding_all rfl) rfl rfl rfl

end MockBank
