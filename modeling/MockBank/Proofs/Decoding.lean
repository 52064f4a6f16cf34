/-
Which documents become records.  A record is read by its shape once its table has accepted the document.

- `Shape.read_object_eq_ok_iff`: reading an object visits its members in their order, but what comes of it is what its
  shape builds from the members by name.
- `Wire.Covers`, `Table.Gives`: what a type accepts its wire reads, and what a table asks for is there to be read.
- `decode_iff_validate`: the two readers of a document agree, up to the id, the timestamps and the term.
-/
import MockBank.Proofs.Tables
import MockBank.Record.Account
import MockBank.Record.Card
import MockBank.Record.Customer
import MockBank.Record.Loan
import MockBank.Record.Transaction

namespace MockBank

/-! ## Building a record from its members -/

theorem Wire.optional_reads {α : Type} (w : Wire α) (v : Json) :
    (∃ a, w.optional.read v = .ok a) ↔ v = .null ∨ ∃ a, w.read v = .ok a := by
  have some_reads : (∃ a, (w.read v).map some = .ok a) ↔ ∃ a, w.read v = .ok a := by
    cases w.read v <;> simp [Except.map]
  cases v with
  | null => simp [Wire.optional]
  | _ => simpa [Wire.optional] using some_reads

namespace Shape

variable {α β : Type}

/-- a record can be built from these members -/
def Builds (s : Shape α) (get : String → Option Json) : Prop :=
  ∃ a, s.build get = .ok a

/-- whatever can be built passes the checks of its members -/
def Lawful (s : Shape α) : Prop :=
  ∀ get, s.Builds get → ∀ c ∈ s.checks, ∀ v, get c.1 = some v → c.2 v = .ok ()

theorem build_seq_eq_ok_iff (f : Shape (α → β)) (s : Shape α) (get : String → Option Json) (b : β) :
    (f.seq s).build get = .ok b ↔ ∃ g a, f.build get = .ok g ∧ s.build get = .ok a ∧ g a = b := by
  simp only [seq]
  cases f.build get with
  | error e => simp
  | ok g => cases s.build get <;> simp [Except.map]

theorem builds_pure (a : α) (get : String → Option Json) : (pure a).Builds get :=
  ⟨a, rfl⟩

theorem builds_seq (f : Shape (α → β)) (s : Shape α) (get : String → Option Json) :
    (f.seq s).Builds get ↔ f.Builds get ∧ s.Builds get := by
  simp only [Builds, build_seq_eq_ok_iff]
  constructor
  · rintro ⟨_, g, a, hg, ha, -⟩
    exact ⟨⟨g, hg⟩, ⟨a, ha⟩⟩
  · rintro ⟨⟨g, hg⟩, ⟨a, ha⟩⟩
    exact ⟨g a, g, a, hg, ha, rfl⟩

theorem build_field_eq_ok_iff (name : String) (w : Wire α) (get : String → Option Json) (a : α) :
    (field name w).build get = .ok a ↔ ∃ v, get name = some v ∧ w.read v = .ok a := by
  simp only [field]
  cases get name <;> simp

theorem builds_field (name : String) (w : Wire α) (get : String → Option Json) :
    (field name w).Builds get ↔ ∃ v a, get name = some v ∧ w.read v = .ok a := by
  simp only [Builds, build_field_eq_ok_iff]
  exact exists_comm

theorem builds_optional (name : String) (w : Wire α) (get : String → Option Json) :
    (optional name w).Builds get ↔ ∀ v, get name = some v → v = .null ∨ ∃ a, w.read v = .ok a := by
  simp only [Builds, optional]
  cases get name with
  | none => simp
  | some v => simp [w.optional_reads]

theorem lawful_pure (a : α) : (pure a).Lawful :=
  fun _ _ _ hc => absurd hc List.not_mem_nil

theorem lawful_seq {f : Shape (α → β)} {s : Shape α} (hf : f.Lawful) (hs : s.Lawful) : (f.seq s).Lawful := by
  intro get h c hc
  obtain ⟨h1, h2⟩ := (builds_seq f s get).1 h
  rcases List.mem_append.1 hc with hc | hc
  · exact hf get h1 c hc
  · exact hs get h2 c hc

theorem lawful_field (name : String) (w : Wire α) : (field name w).Lawful := by
  intro get h c hc v hv
  obtain ⟨v', a, hv', ha⟩ := (builds_field name w get).1 h
  obtain rfl := List.mem_singleton.1 hc
  obtain rfl : v' = v := Option.some.inj (hv'.symm.trans hv)
  simp [ha, Except.map]

theorem lawful_optional (name : String) (w : Wire α) : (optional name w).Lawful := by
  intro get h c hc v hv
  obtain rfl := List.mem_singleton.1 hc
  obtain ⟨a, ha⟩ := (w.optional_reads v).2 ((builds_optional name w get).1 h v hv)
  simp [ha, Except.map]

/-! ## Reading an object -/

theorem exists_member?_of_mem {name : String} {v : Json} {members : List (String × Json)} (h : (name, v) ∈ members) :
    ∃ w, Json.member? name members = some w := by
  induction members with
  | nil => exact absurd h List.not_mem_nil
  | cons m rest ih =>
    obtain ⟨n, w⟩ := m
    by_cases hn : n = name
    · exact ⟨w, by simp [Json.member?, hn]⟩
    · simp only [Json.member?, hn, if_false]
      rcases List.mem_cons.1 h with h | h
      · exact absurd (congrArg Prod.fst h).symm hn
      · exact ih h

/-- if the record can be built, every member passes its check, whichever comes first -/
theorem checkAll_eq_ok {s : Shape α} (hs : s.Lawful) {all : List (String × Json)}
    (h : s.Builds fun name => Json.member? name all) {visited : List (String × Json)} (hv : ∀ m ∈ visited, m ∈ all) :
    s.checkAll all visited = .ok () := by
  induction visited with
  | nil => rfl
  | cons m rest ih =>
    obtain ⟨name, v⟩ := m
    obtain ⟨w, hw⟩ := exists_member?_of_mem (hv _ List.mem_cons_self)
    have one : s.check name w = .ok () := by
      unfold check
      split
      · rfl
      · rename_i c hc
        have hname : c.1 = name := by simpa using List.find?_some hc
        exact hs _ h c (List.mem_of_find?_eq_some hc) w (hname ▸ hw)
    simp only [checkAll, hw, Option.getD_some, one]
    exact ih fun m hm => hv m (List.mem_cons_of_mem _ hm)

/-- **The order of the members does not matter for what is read.** -/
theorem read_object_eq_ok_iff {s : Shape α} (hs : s.Lawful) (members : List (String × Json)) (a : α) :
    s.read (.object members) = .ok a ↔ s.build (fun name => Json.member? name members) = .ok a := by
  simp only [read]
  constructor
  · intro h
    split at h
    · exact absurd h (by simp)
    · exact h
  · intro h
    rw [checkAll_eq_ok hs ⟨a, h⟩ fun _ hm => hm]
    exact h

end Shape

/-! ## What a type accepts its wire reads -/

namespace Wire

variable {α : Type}

theorem mapError_eq_ok_iff {ε ε' : Type} (f : ε → ε') (x : Except ε α) (a : α) : x.mapError f = .ok a ↔ x = .ok a := by
  cases x with
  | error e => exact iff_of_false nofun nofun
  | ok b =>
    constructor
    · intro h; cases h; rfl
    · intro h; cases h; rfl

theorem text_read_eq_ok_iff (v : Json) (s : String) : text.read v = .ok s ↔ v = .string s := by
  cases v <;> simp [text]

theorem date_read_eq_ok_iff (v : Json) (d : Date) : date.read v = .ok d ↔ ∃ s, v = .string s ∧ Date.read s = .ok d := by
  cases v with
  | string s => exact (mapError_eq_ok_iff Mismatch.noDate (Date.read s) d).trans (by simp)
  | _ => simp [date]

theorem dateTime_read_eq_ok_iff (v : Json) (t : DateTime) :
    dateTime.read v = .ok t ↔ ∃ s, v = .string s ∧ DateTime.read s = .ok t := by
  cases v with
  | string s => exact (mapError_eq_ok_iff Mismatch.noDate (DateTime.read s) t).trans (by simp)
  | _ => simp [dateTime]

/-- every value that a type accepts can be read -/
def Covers (w : Wire α) (ty : FieldType) : Prop :=
  ∀ v, ty.issues v = [] → ∃ a, w.read v = .ok a

theorem text_covers_text : Wire.text.Covers .text := by
  intro v h
  obtain ⟨s, rfl⟩ := (FieldType.issues_text_eq_nil_iff v).1 h
  exact ⟨s, rfl⟩

theorem text_covers_id : Wire.text.Covers .id := by
  intro v h
  obtain ⟨s, rfl⟩ := (FieldType.issues_id_eq_nil_iff v).1 h
  exact ⟨s, rfl⟩

theorem text_covers_email : Wire.text.Covers .email := by
  intro v h
  obtain ⟨s, rfl, -⟩ := (FieldType.issues_email_eq_nil_iff v).1 h
  exact ⟨s, rfl⟩

theorem double_covers : double.Covers .number := by
  intro v h
  obtain ⟨n, rfl⟩ := (FieldType.issues_number_eq_nil_iff v).1 h
  exact ⟨n.toBinary64, rfl⟩

theorem exists_of_isOk {ε : Type} {x : Except ε α} (h : x.isOk = true) : ∃ a, x = .ok a := by
  cases x with
  | error e => exact absurd h (by simp [Except.isOk, Except.toBool])
  | ok a => exact ⟨a, rfl⟩

theorem date_covers : date.Covers .date := by
  intro v h
  obtain ⟨s, rfl, hs⟩ := (FieldType.issues_date_eq_nil_iff v).1 h
  obtain ⟨d, hd⟩ := exists_of_isOk hs
  exact ⟨d, (date_read_eq_ok_iff _ d).2 ⟨s, rfl, hd⟩⟩

theorem dateTime_covers : dateTime.Covers .dateTime := by
  intro v h
  obtain ⟨s, rfl, hs⟩ := (FieldType.issues_dateTime_eq_nil_iff v).1 h
  obtain ⟨t, ht⟩ := exists_of_isOk hs
  exact ⟨t, (dateTime_read_eq_ok_iff _ t).2 ⟨s, rfl, ht⟩⟩

theorem named_covers (α : Type) [Named α] : (named α).Covers (.named α) := by
  intro v h
  obtain ⟨s, rfl, hs⟩ := (FieldType.issues_choice_eq_nil_iff _ v).1 h
  obtain ⟨a, ha⟩ := (Named.mem_names_iff s).1 hs
  exact ⟨a, by simp [named, ha]⟩

theorem members_covers : members.Covers .map := by
  intro v h
  obtain ⟨m, rfl⟩ := (FieldType.issues_map_eq_nil_iff v).1 h
  exact ⟨m, rfl⟩

theorem record_covers {write : α → List (String × Json)} {shape : Shape α} {t : Table} (hs : shape.Lawful)
    (h : ∀ members, t.issues (.object members) = [] → shape.Builds fun name => Json.member? name members) :
    (record write shape).Covers (.object t) := by
  intro v hv
  obtain ⟨members, rfl, -⟩ := (t.issues_eq_nil_iff v).1 hv
  obtain ⟨a, ha⟩ := h members hv
  exact ⟨a, (Shape.read_object_eq_ok_iff hs members a).2 ha⟩

theorem list_covers {w : Wire α} {item : FieldType} (h : w.Covers item) : w.list.Covers (.array item) := by
  intro v hv
  obtain ⟨items, rfl, hitems⟩ := (item.issues_array_eq_nil_iff v).1 hv
  clear hv
  show ∃ l, items.mapM w.read = .ok l
  induction items with
  | nil => exact ⟨[], rfl⟩
  | cons x rest ih =>
    obtain ⟨a, ha⟩ := h x (hitems x List.mem_cons_self).2
    have hrest : ∀ y ∈ rest, y ≠ .null ∧ item.issues y = [] := fun y hy => hitems y (List.mem_cons_of_mem _ hy)
    obtain ⟨l, hl⟩ := ih hrest
    exact ⟨a :: l, by simp [List.mapM_cons, ha, hl, bind, Except.bind, Pure.pure, Except.pure]⟩

end Wire

namespace Table

variable {α : Type}

/-- a table asks for a member, and the wire reads whatever the table accepts there -/
def Gives (t : Table) (name : String) (w : Wire α) : Prop :=
  ∃ f, t.field? name = some f ∧ f.presence = .required ∧ w.Covers f.type

/-- a table leaves a member open, and the wire reads whatever else than null the table accepts there -/
def MayGive (t : Table) (name : String) (w : Wire α) : Prop :=
  ∃ f, t.field? name = some f ∧ f.presence = .optional ∧ w.Covers f.type

theorem field?_eq_some {t : Table} {name : String} {f : TableField} (h : t.field? name = some f) :
    f ∈ t.fields ∧ f.name = name :=
  ⟨List.mem_of_find?_eq_some h, by simpa using List.find?_some h⟩

/-- a field of a table that has no problem with the members of an object -/
theorem issues_field {t : Table} {members : List (String × Json)} {name : String} {f : TableField}
    (h : t.issues (.object members) = []) (hf : t.field? name = some f) :
    f.issues (Json.member? name members) = [] := by
  obtain ⟨hmem, rfl⟩ := field?_eq_some hf
  exact (t.issues_object_eq_nil_iff members).1 h f hmem

theorem Gives.builds {t : Table} {members : List (String × Json)} {name : String} {w : Wire α}
    (h : t.Gives name w) (hm : t.issues (.object members) = []) :
    (Shape.field name w).Builds fun name => Json.member? name members := by
  obtain ⟨f, hf, hreq, hw⟩ := h
  have hissues := issues_field hm hf
  rw [f.issues_eq_nil_iff, hreq] at hissues
  obtain ⟨v, hv, -, hty, -⟩ : ∃ v, Json.member? name members = some v ∧ v ≠ .null ∧ f.type.issues v = [] ∧ _ := by
    simpa using hissues
  obtain ⟨a, ha⟩ := hw v hty
  exact (Shape.builds_field name w _).2 ⟨v, a, hv, ha⟩

theorem MayGive.builds {t : Table} {members : List (String × Json)} {name : String} {w : Wire α}
    (h : t.MayGive name w) (hm : t.issues (.object members) = []) :
    (Shape.optional name w).Builds fun name => Json.member? name members := by
  obtain ⟨f, hf, hopt, hw⟩ := h
  refine (Shape.builds_optional name w _).2 fun v hv => ?_
  have hissues := issues_field hm hf
  rw [f.issues_eq_nil_iff, hopt, hv] at hissues
  rcases hissues with h | ⟨-, h | h⟩ | ⟨v', h, -, hty, -⟩
  · exact absurd h (by decide)
  · exact absurd h (by simp)
  · exact .inl (Option.some.inj h)
  · obtain rfl := Option.some.inj h
    exact .inr (hw v hty)

end Table

/-! ## Shapes that fit their table -/

namespace Shape

variable {α β : Type}

/-- a shape fits a table up to a condition: once the table has no problem with the members of an object, the record can
be built from them if and only if the condition holds of them -/
structure Fits (s : Shape α) (t : Table) (owed : (String → Option Json) → Prop) : Prop where
  lawful : s.Lawful
  builds : ∀ members, t.issues (.object members) = [] →
    (s.Builds (fun name => Json.member? name members) ↔ owed fun name => Json.member? name members)

namespace Fits

variable {f : Shape (α → β)} {s : Shape α} {t : Table} {p q : (String → Option Json) → Prop}

theorem pure (a : α) : (Shape.pure a).Fits t fun _ => True :=
  ⟨lawful_pure a, fun _ _ => iff_true_intro (builds_pure a _)⟩

theorem seq (hf : f.Fits t p) (hs : s.Fits t q) : (f.seq s).Fits t fun get => p get ∧ q get :=
  ⟨lawful_seq hf.lawful hs.lawful, fun members h => by rw [builds_seq, hf.builds members h, hs.builds members h]⟩

theorem congr (hs : s.Fits t p) (h : ∀ get, p get ↔ q get) : s.Fits t q :=
  ⟨hs.lawful, fun members hm => (hs.builds members hm).trans (h _)⟩

/-- a member that the table asks for can be read, so nothing is owed for it -/
theorem given {name : String} {w : Wire α} (hf : f.Fits t p) (h : t.Gives name w) :
    (f.seq (.field name w)).Fits t p := by
  have hw : (Shape.field name w).Fits t fun _ => True :=
    ⟨lawful_field name w, fun _ hm => iff_true_intro (h.builds hm)⟩
  exact (hf.seq hw).congr fun get => iff_of_eq (and_true (p get))

/-- a member that the table leaves open can be read, so nothing is owed for it -/
theorem mayBeGiven {name : String} {w : Wire α} {g : Shape (Option α → β)} (hg : g.Fits t p) (h : t.MayGive name w) :
    (g.seq (.optional name w)).Fits t p := by
  have hw : (Shape.optional name w).Fits t fun _ => True :=
    ⟨lawful_optional name w, fun _ hm => iff_true_intro (h.builds hm)⟩
  exact (hg.seq hw).congr fun get => iff_of_eq (and_true (p get))

/-- a member that the table does not vouch for -/
theorem owing (hf : f.Fits t p) (name : String) (w : Wire α) :
    (f.seq (.field name w)).Fits t fun get => p get ∧ (Shape.field name w).Builds get :=
  hf.seq ⟨lawful_field name w, fun _ _ => Iff.rfl⟩

end Fits

/-! ## What is owed -/

theorem builds_text (name : String) (get : String → Option Json) :
    (field name Wire.text).Builds get ↔ ∃ s, get name = some (.string s) := by
  rw [builds_field]
  constructor
  · rintro ⟨v, s, hv, hs⟩
    obtain rfl := (Wire.text_read_eq_ok_iff v s).1 hs
    exact ⟨s, hv⟩
  · rintro ⟨s, hs⟩
    exact ⟨.string s, s, hs, rfl⟩

theorem builds_dateTime (name : String) (get : String → Option Json) :
    (field name Wire.dateTime).Builds get ↔ ∃ s t, get name = some (.string s) ∧ DateTime.read s = .ok t := by
  rw [builds_field]
  constructor
  · rintro ⟨v, t, hv, ht⟩
    obtain ⟨s, rfl, hs⟩ := (Wire.dateTime_read_eq_ok_iff v t).1 ht
    exact ⟨s, t, hv, hs⟩
  · rintro ⟨s, t, hs, ht⟩
    exact ⟨.string s, t, hs, (Wire.dateTime_read_eq_ok_iff _ t).2 ⟨s, rfl, ht⟩⟩

theorem builds_int64 (name : String) (get : String → Option Json) :
    (field name Wire.int64).Builds get ↔ ∃ n, get name = some (.number (.whole n)) ∧ n.val ≤ 0x7FFFFFFFFFFFFFFF := by
  rw [builds_field]
  constructor
  · rintro ⟨v, i, hv, hi⟩
    match v with
    | .number (.whole n) =>
      refine ⟨n, hv, ?_⟩
      simp only [Wire.int64] at hi
      split at hi
      · omega
      · simp at hi
    | .number (.double x) => simp [Wire.int64] at hi
    | .null | .bool _ | .string _ | .array _ | .object _ => simp [Wire.int64] at hi
  · rintro ⟨n, hn, hle⟩
    exact ⟨_, Int64.ofInt n.val, hn, if_pos (by omega)⟩

end Shape

/-! ## The records of the bank -/

theorem Address.fits : Address.shape.Fits .address fun _ => True :=
  (Shape.Fits.pure Address.mk)
    |>.given ⟨_, rfl, rfl, Wire.text_covers_text⟩
    |>.given ⟨_, rfl, rfl, Wire.text_covers_text⟩
    |>.mayBeGiven ⟨_, rfl, rfl, Wire.text_covers_text⟩
    |>.given ⟨_, rfl, rfl, Wire.text_covers_text⟩
    |>.given ⟨_, rfl, rfl, Wire.text_covers_text⟩

theorem Address.covers : (Wire.record Address.members Address.shape).Covers (.object .address) :=
  Wire.record_covers Address.fits.lawful fun members h => (Address.fits.builds members h).2 trivial

theorem Profile.fits : Profile.shape.Fits .customer fun _ => True :=
  (Shape.Fits.pure Profile.mk)
    |>.given ⟨_, rfl, rfl, Wire.named_covers _⟩
    |>.given ⟨_, rfl, rfl, Wire.text_covers_text⟩
    |>.given ⟨_, rfl, rfl, Wire.text_covers_text⟩
    |>.given ⟨_, rfl, rfl, Wire.text_covers_email⟩
    |>.mayBeGiven ⟨_, rfl, rfl, Wire.text_covers_text⟩
    |>.mayBeGiven ⟨_, rfl, rfl, Wire.date_covers⟩
    |>.given ⟨_, rfl, rfl, Address.covers⟩
    |>.given ⟨_, rfl, rfl, Wire.named_covers _⟩
    |>.given ⟨_, rfl, rfl, Wire.named_covers _⟩
    |>.given ⟨_, rfl, rfl, Wire.named_covers _⟩

/-- the id and the timestamps are read-only in the table, so a customer owes them -/
theorem Customer.fits : Customer.shape.Fits .customer fun get =>
    (∃ s, get "id" = some (.string s)) ∧
      (∃ s t, get "createdAt" = some (.string s) ∧ DateTime.read s = .ok t) ∧
      ∃ s t, get "updatedAt" = some (.string s) ∧ DateTime.read s = .ok t :=
  (Shape.Fits.pure Customer.mk)
    |>.owing "id" .text
    |>.seq Profile.fits
    |>.owing "createdAt" .dateTime
    |>.owing "updatedAt" .dateTime
    |>.congr fun get => by simp only [Shape.builds_text, Shape.builds_dateTime, true_and, and_true, and_assoc]

theorem Account.fits : Account.shape.Fits .account fun get => ∃ s, get "id" = some (.string s) :=
  (Shape.Fits.pure Account.mk)
    |>.owing "id" .text
    |>.given ⟨_, rfl, rfl, Wire.text_covers_id⟩
    |>.given ⟨_, rfl, rfl, Wire.named_covers _⟩
    |>.given ⟨_, rfl, rfl, Wire.text_covers_text⟩
    |>.given ⟨_, rfl, rfl, Wire.text_covers_text⟩
    |>.given ⟨_, rfl, rfl, Wire.double_covers⟩
    |>.given ⟨_, rfl, rfl, Wire.double_covers⟩
    |>.given ⟨_, rfl, rfl, Wire.double_covers⟩
    |>.given ⟨_, rfl, rfl, Wire.named_covers _⟩
    |>.given ⟨_, rfl, rfl, Wire.date_covers⟩
    |>.given ⟨_, rfl, rfl, Wire.dateTime_covers⟩
    |>.congr fun get => by simp only [Shape.builds_text, true_and]

theorem Card.fits : Card.shape.Fits .card fun get => ∃ s, get "id" = some (.string s) :=
  (Shape.Fits.pure Card.mk)
    |>.owing "id" .text
    |>.given ⟨_, rfl, rfl, Wire.text_covers_id⟩
    |>.given ⟨_, rfl, rfl, Wire.text_covers_id⟩
    |>.given ⟨_, rfl, rfl, Wire.named_covers _⟩
    |>.given ⟨_, rfl, rfl, Wire.text_covers_text⟩
    |>.given ⟨_, rfl, rfl, Wire.date_covers⟩
    |>.given ⟨_, rfl, rfl, Wire.text_covers_text⟩
    |>.given ⟨_, rfl, rfl, Wire.named_covers _⟩
    |>.given ⟨_, rfl, rfl, Wire.double_covers⟩
    |>.given ⟨_, rfl, rfl, Wire.double_covers⟩
    |>.mayBeGiven ⟨_, rfl, rfl, Wire.double_covers⟩
    |>.given ⟨_, rfl, rfl, Wire.date_covers⟩
    |>.congr fun get => by simp only [Shape.builds_text, true_and]

theorem Transaction.fits : Transaction.shape.Fits .transaction fun get => ∃ s, get "id" = some (.string s) :=
  (Shape.Fits.pure Transaction.mk)
    |>.owing "id" .text
    |>.given ⟨_, rfl, rfl, Wire.text_covers_id⟩
    |>.given ⟨_, rfl, rfl, Wire.named_covers _⟩
    |>.given ⟨_, rfl, rfl, Wire.double_covers⟩
    |>.given ⟨_, rfl, rfl, Wire.text_covers_text⟩
    |>.mayBeGiven ⟨_, rfl, rfl, Wire.text_covers_text⟩
    |>.given ⟨_, rfl, rfl, Wire.named_covers _⟩
    |>.given ⟨_, rfl, rfl, Wire.dateTime_covers⟩
    |>.mayBeGiven ⟨_, rfl, rfl, Wire.text_covers_text⟩
    |>.mayBeGiven ⟨_, rfl, rfl, Wire.members_covers⟩
    |>.congr fun get => by simp only [Shape.builds_text, true_and]

theorem LoanPayment.fits : LoanPayment.shape.Fits .loanPayment fun _ => True :=
  (Shape.Fits.pure LoanPayment.mk)
    |>.given ⟨_, rfl, rfl, Wire.date_covers⟩
    |>.given ⟨_, rfl, rfl, Wire.double_covers⟩
    |>.given ⟨_, rfl, rfl, Wire.named_covers _⟩
    |>.mayBeGiven ⟨_, rfl, rfl, Wire.date_covers⟩

theorem Loan.schedule_covers : Loan.schedule.Covers (.array (.object .loanPayment)) :=
  Wire.list_covers <| Wire.record_covers LoanPayment.fits.lawful fun members h =>
    (LoanPayment.fits.builds members h).2 trivial

/-- the table accepts whole numbers beyond 64 signed bits, so a loan owes its term besides the id -/
theorem Loan.fits : Loan.shape.Fits .loan fun get =>
    (∃ s, get "id" = some (.string s)) ∧
      ∃ n, get "term" = some (.number (.whole n)) ∧ n.val ≤ 0x7FFFFFFFFFFFFFFF :=
  (Shape.Fits.pure Loan.mk)
    |>.owing "id" .text
    |>.given ⟨_, rfl, rfl, Wire.text_covers_id⟩
    |>.given ⟨_, rfl, rfl, Wire.named_covers _⟩
    |>.given ⟨_, rfl, rfl, Wire.double_covers⟩
    |>.given ⟨_, rfl, rfl, Wire.text_covers_text⟩
    |>.given ⟨_, rfl, rfl, Wire.double_covers⟩
    |>.owing "term" .int64
    |>.given ⟨_, rfl, rfl, Wire.named_covers _⟩
    |>.given ⟨_, rfl, rfl, Wire.date_covers⟩
    |>.given ⟨_, rfl, rfl, Wire.date_covers⟩
    |>.given ⟨_, rfl, rfl, Wire.double_covers⟩
    |>.given ⟨_, rfl, rfl, Loan.schedule_covers⟩
    |>.congr fun get => by simp only [Shape.builds_text, Shape.builds_int64, true_and]

/-! ## The two readers agree -/

namespace Json

/-- the value under a name, if the document is an object that has one -/
def at? : Json → String → Option Json
  | .object members, name => member? name members
  | _, _ => none

/-- there is a text under a name -/
def HasText (v : Json) (name : String) : Prop :=
  ∃ s, v.at? name = some (.string s)

/-- there is a text under a name that can be read as a day and time -/
def HasDateTime (v : Json) (name : String) : Prop :=
  ∃ s t, v.at? name = some (.string s) ∧ DateTime.read s = .ok t

/-- there is a whole number under a name that is at most the greatest signed 64-bit integer -/
def HasInt64 (v : Json) (name : String) : Prop :=
  ∃ n, v.at? name = some (.number (.whole n)) ∧ n.val ≤ 0x7FFFFFFFFFFFFFFF

end Json

namespace Entity

variable {α : Type} [Entity α]

/-- a document is decoded when its table accepts it and the record can be built from its members -/
theorem decode_eq_ok_iff (hs : (shape : Shape α).Lawful) (v : Json) (a : α) :
    decode α v = .ok a ↔ (table α).validate v = .ok () ∧ (shape : Shape α).build v.at? = .ok a := by
  by_cases hv : (table α).issues v = []
  · obtain ⟨members, rfl, -⟩ := ((table α).issues_eq_nil_iff v).1 hv
    have hval : (table α).validate (.object members) = .ok () := ((table α).validate_eq_ok_iff _).2 hv
    have hread := Shape.read_object_eq_ok_iff hs members a
    simp only [decode, hval, true_and]
    exact (Wire.mapError_eq_ok_iff _ _ a).trans hread
  · rw [decode_of_issues α v hv, (table α).validate_eq_ok_iff]
    exact ⟨fun h => absurd h (by simp), fun h => absurd h.1 hv⟩

theorem decode_iff {owed : (String → Option Json) → Prop} (h : (shape : Shape α).Fits (table α) owed) (v : Json) :
    (∃ a, decode α v = .ok a) ↔ (table α).validate v = .ok () ∧ owed v.at? := by
  simp only [decode_eq_ok_iff h.lawful, exists_and_left]
  refine and_congr_right fun hv => ?_
  have hissues := ((table α).validate_eq_ok_iff v).1 hv
  obtain ⟨members, rfl, -⟩ := ((table α).issues_eq_nil_iff v).1 hissues
  exact h.builds members hissues

/-- decoding repeats the table's problems, succeeds, or tells one problem with the body as a whole -/
theorem decode_outcome (v : Json) :
    (∃ r, (table α).validate v = .error r ∧ decode α v = .error r) ∨
      ((table α).validate v = .ok () ∧ ∃ a, decode α v = .ok a) ∨
      ((table α).validate v = .ok () ∧ ∃ i : Issue, decode α v = .error ⟨[i]⟩ ∧ i.loc = ["body"] ∧ i.kind = .json) := by
  simp only [decode]
  cases (table α).validate v with
  | error r => exact .inl ⟨r, rfl, rfl⟩
  | ok u =>
    right
    cases (shape : Shape α).read v with
    | ok a => exact .inl ⟨rfl, a, rfl⟩
    | error m => exact .inr ⟨rfl, .here .json m.message, rfl, rfl, rfl⟩

end Entity

/-- **The typed reader and the table agree.** A profile, an address or an instalment is decoded from exactly the
documents that its table accepts; the other records also need what the table leaves to the service, and a loan a term
within 64 signed bits.  Whatever the record, a refused document is refused with the table's problems, and an accepted
one that is not decoded with one problem about the body. -/
theorem decode_iff_validate :
    (∀ v, (∃ p, Entity.decode Profile v = .ok p) ↔ Table.customer.validate v = .ok ()) ∧
    (∀ v, (∃ a, Entity.decode Address v = .ok a) ↔ Table.address.validate v = .ok ()) ∧
    (∀ v, (∃ p, Entity.decode LoanPayment v = .ok p) ↔ Table.loanPayment.validate v = .ok ()) ∧
    (∀ v, (∃ a, Entity.decode Account v = .ok a) ↔ Table.account.validate v = .ok () ∧ v.HasText "id") ∧
    (∀ v, (∃ c, Entity.decode Card v = .ok c) ↔ Table.card.validate v = .ok () ∧ v.HasText "id") ∧
    (∀ v, (∃ t, Entity.decode Transaction v = .ok t) ↔ Table.transaction.validate v = .ok () ∧ v.HasText "id") ∧
    (∀ v, (∃ c, Entity.decode Customer v = .ok c) ↔
      Table.customer.validate v = .ok () ∧ v.HasText "id" ∧ v.HasDateTime "createdAt" ∧ v.HasDateTime "updatedAt") ∧
    (∀ v, (∃ l, Entity.decode Loan v = .ok l) ↔
      Table.loan.validate v = .ok () ∧ v.HasText "id" ∧ v.HasInt64 "term") ∧
    ∀ (α : Type) [Entity α] (v : Json),
      (∃ r, (Entity.table α).validate v = .error r ∧ Entity.decode α v = .error r) ∨
      ((Entity.table α).validate v = .ok () ∧ ∃ a, Entity.decode α v = .ok a) ∨
      ((Entity.table α).validate v = .ok () ∧
        ∃ i : Issue, Entity.decode α v = .error ⟨[i]⟩ ∧ i.loc = ["body"] ∧ i.kind = .json) := by
  refine ⟨fun v => ?_, fun v => ?_, fun v => ?_, Entity.decode_iff Account.fits, Entity.decode_iff Card.fits,
    Entity.decode_iff Transaction.fits, Entity.decode_iff Customer.fits, Entity.decode_iff Loan.fits,
    fun α _ v => Entity.decode_outcome v⟩
  · exact (Entity.decode_iff Profile.fits v).trans (iff_of_eq (and_true _))
  · exact (Entity.decode_iff Address.fits v).trans (iff_of_eq (and_true _))
  · exact (Entity.decode_iff LoanPayment.fits v).trans (iff_of_eq (and_true _))

end MockBank
