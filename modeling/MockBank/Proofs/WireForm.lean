/-
Records written into documents and read back.  What is written for a record is a document that its table accepts and
that is decoded as the record, apart from points of time in a leap second inside a minute; every record that is decoded
is one of which this holds, and it has no such point.

- `Wire.WrittenAs`: a value inside a record is accepted by the type of its field and read back, perhaps as another
  value; `Wire.Written`: as it was.
- `Shape.Ensures`: what holds of every record that is built from members, with a rule for each part of a shape.
- `Customer.told`, `Account.told`, `Transaction.told`: a record with its points of time as they are told.
- `Address.accepted`, ..., `Loan.accepted`: the table of a record accepts what is written for it.
- `Address.Valid`, `Profile.Valid`, `Customer.Valid`: what a table asks of a record beyond the types of its members.
- `records_are_faithful`: for all eight records, writing and decoding invert each other that far.
- `leap_second_and_text_are_retold`: an account and a payment that do not come back as they were, the one in its
  document, the other in the text of its document.
-/
import MockBank.Json.Reader
import MockBank.Proofs.Calendar
import MockBank.Proofs.Decoding

namespace MockBank

/-! ## Values inside records -/

/-- no type accepts null -/
theorem FieldType.issues_null_ne_nil (ty : FieldType) : ty.issues .null ≠ [] := by
  cases ty with
  | object t => rw [issues_table, t.issues_of_not_object .null (by simp)]; exact List.cons_ne_nil _ _
  | _ => exact List.cons_ne_nil _ _

namespace Wire

variable {α : Type}

/-- a value is written in a form that a type accepts and that is read back, perhaps as another value -/
structure WrittenAs (w : Wire α) (ty : FieldType) (a told : α) : Prop where
  accepted : ty.issues (w.write a) = []
  read : w.read (w.write a) = .ok told

/-- a value is written in a form that a type accepts and that is read back as the value -/
abbrev Written (w : Wire α) (ty : FieldType) (a : α) : Prop :=
  w.WrittenAs ty a a

theorem written_text (s : String) : text.Written .text s :=
  ⟨rfl, rfl⟩

theorem written_id (s : String) : text.Written .id s :=
  ⟨rfl, rfl⟩

theorem written_email {s : String} (h : Email.isDeliverable s = true) : text.Written .email s :=
  ⟨(FieldType.issues_email_eq_nil_iff _).2 ⟨s, rfl, h⟩, rfl⟩

theorem written_double (x : Binary64) : double.Written .number x :=
  ⟨rfl, rfl⟩

theorem written_int64 (n : Int64) : int64.Written .integer n := by
  refine ⟨rfl, ?_⟩
  have hlt := n.toInt_lt
  simp only [int64, Json.Whole.ofInt64]
  rw [if_pos (by omega), Int64.ofInt_toInt]

theorem written_date (d : Date) : date.Written .date d := by
  have hread := d.read_text
  exact ⟨(FieldType.issues_date_eq_nil_iff _).2 ⟨d.text, rfl, by rw [hread]; rfl⟩,
    (date_read_eq_ok_iff _ d).2 ⟨d.text, rfl, hread⟩⟩

theorem written_dateTime (t : DateTime) : dateTime.WrittenAs .dateTime t t.told := by
  have hread := t.read_text
  exact ⟨(FieldType.issues_dateTime_eq_nil_iff _).2 ⟨t.text, rfl, by rw [hread]; rfl⟩,
    (dateTime_read_eq_ok_iff _ t.told).2 ⟨t.text, rfl, hread⟩⟩

theorem written_named {α : Type} [Named α] (a : α) : (named α).Written (.named α) a :=
  ⟨(FieldType.issues_choice_eq_nil_iff _ _).2 ⟨Named.name a, rfl, Named.name_mem_names a⟩,
    by simp [named, Named.ofName?_name]⟩

theorem written_members (m : List (String × Json)) : members.Written .map m :=
  ⟨rfl, rfl⟩

theorem written_record {write : α → List (String × Json)} {shape : Shape α} {t : Table} {a : α} (hs : shape.Lawful)
    (haccepted : t.issues (.object (write a)) = [])
    (hbuilt : shape.build (fun name => Json.member? name (write a)) = .ok a) :
    (record write shape).Written (.object t) a :=
  ⟨haccepted, (Shape.read_object_eq_ok_iff hs _ a).2 hbuilt⟩

theorem WrittenAs.ne_null {w : Wire α} {ty : FieldType} {a told : α} (h : w.WrittenAs ty a told) : w.write a ≠ .null :=
  fun e => ty.issues_null_ne_nil (e ▸ h.accepted)

/-- a list is written item by item -/
theorem written_list {w : Wire α} {item : FieldType} {l : List α} (h : ∀ a ∈ l, w.Written item a) :
    w.list.Written (.array item) l := by
  constructor
  · refine (item.issues_array_eq_nil_iff _).2 ⟨l.map w.write, rfl, ?_⟩
    rw [List.forall_mem_map]
    exact fun a ha => ⟨(h a ha).ne_null, (h a ha).accepted⟩
  · show (l.map w.write).mapM w.read = .ok l
    induction l with
    | nil => rfl
    | cons a rest ih =>
      have hrest := ih fun b hb => h b (List.mem_cons_of_mem a hb)
      rw [List.map_cons, List.mapM_cons, (h a List.mem_cons_self).read, hrest]
      rfl

theorem optional_read_of_ne_null (w : Wire α) {v : Json} (h : v ≠ .null) :
    w.optional.read v = (w.read v).map some := by
  cases v with
  | null => exact absurd rfl h
  | _ => rfl

/-- none is written as null, and every other value is not -/
theorem optional_read_write {w : Wire α} {ty : FieldType} {o : Option α} (h : ∀ a ∈ o, w.Written ty a) :
    w.optional.read (w.optional.write o) = .ok o := by
  cases o with
  | none => rfl
  | some a =>
    have ha := h a rfl
    show w.optional.read (w.write a) = .ok (some a)
    rw [w.optional_read_of_ne_null ha.ne_null, ha.read]
    rfl

end Wire

/-! ## Members of records -/

namespace TableField

variable {α : Type} {w : Wire α} {ty : FieldType}

/-- a member that must be there has no problem when it is written -/
theorem issues_required_written {name : String} {a told : α} (h : w.WrittenAs ty a told) {found : Option Json}
    (hfound : found = some (w.write a)) : (required name ty).issues found = [] := by
  refine ((required name ty).issues_eq_nil_iff _).2 (.inr (.inr ⟨_, hfound, h.ne_null, h.accepted, ?_⟩))
  cases w.write a <;> rfl

/-- a member that may be null has no problem when it is written -/
theorem issues_optional_written {name : String} {o : Option α} (h : ∀ a ∈ o, w.Written ty a) {found : Option Json}
    (hfound : found = some (w.optional.write o)) : (optional name ty).issues found = [] := by
  refine ((optional name ty).issues_eq_nil_iff _).2 (.inr ?_)
  cases o with
  | none => exact .inl ⟨rfl, .inr hfound⟩
  | some a =>
    refine .inr ⟨w.write a, hfound, (h a rfl).ne_null, (h a rfl).accepted, ?_⟩
    cases w.write a <;> rfl

/-- a text that must be there and is bounded on both sides -/
theorem issues_length_eq_nil_iff (name : String) (min max : UInt64) (s : String) :
    ((required name .text).length min max).issues (some (.string s)) = [] ↔
      min.toNat ≤ s.length ∧ s.length ≤ max.toNat := by
  rw [issues_some _ _ (by simp [required, length]) (by simp)]
  have htype : ((required name .text).length min max).type.issues (.string s) = [] := rfl
  rw [htype, List.nil_append]
  simp [required, length, lengthIssues]

/-- the value of a member that has no problem is one of its type -/
theorem type_issues_eq_nil {f : TableField} {v : Json} (h : f.issues (some v) = []) (hf : f.presence = .required) :
    f.type.issues v = [] := by
  rcases (f.issues_eq_nil_iff _).1 h with hro | ⟨hopt, -⟩ | ⟨w, hw, -, hty, -⟩
  · exact absurd (hf.symm.trans hro) (by decide)
  · exact absurd (hf.symm.trans hopt) (by decide)
  · obtain rfl := Option.some.inj hw
    exact hty

end TableField

namespace Shape

variable {α β : Type} {f : Shape (α → β)} {get : String → Option Json}

/-- a shape builds this record from these members -/
def Yields (s : Shape α) (get : String → Option Json) (a : α) : Prop :=
  s.build get = .ok a

theorem yields_text_iff (name : String) (get : String → Option Json) (s : String) :
    (Shape.field name Wire.text).Yields get s ↔ get name = some (.string s) := by
  rw [Yields, build_field_eq_ok_iff]
  constructor
  · rintro ⟨v, hv, hs⟩
    rwa [(Wire.text_read_eq_ok_iff v s).1 hs] at hv
  · exact fun h => ⟨_, h, rfl⟩

theorem Yields.pure (a : α) (get : String → Option Json) : (Shape.pure a).Yields get a := rfl

theorem Yields.seq {s : Shape α} {g : α → β} {a : α} (hf : f.Yields get g) (hs : s.Yields get a) :
    (f.seq s).Yields get (g a) :=
  (build_seq_eq_ok_iff f s get (g a)).2 ⟨g, a, hf, hs, rfl⟩

/-- a member that is written is read -/
theorem Yields.field {g : α → β} {a told : α} {name : String} {w : Wire α} {ty : FieldType} (hf : f.Yields get g)
    (h : w.WrittenAs ty a told) (hget : get name = some (w.write a)) : (f.seq (.field name w)).Yields get (g told) :=
  hf.seq ((build_field_eq_ok_iff name w get told).2 ⟨_, hget, h.read⟩)

/-- every value that is built, from whatever members, satisfies a condition -/
def Ensures (s : Shape α) (P : α → Prop) : Prop :=
  ∀ get a, s.build get = .ok a → P a

theorem ensures_pure {a : α} {P : α → Prop} (h : P a) : (Shape.pure a).Ensures P := by
  intro get b hb
  rwa [← Except.ok.inj hb]

theorem Ensures.seq {s : Shape α} {Q : α → Prop} {P : β → Prop} (hf : f.Ensures fun g => ∀ a, Q a → P (g a))
    (hs : s.Ensures Q) : (f.seq s).Ensures P := by
  intro get b hb
  obtain ⟨g, a, hg, ha, rfl⟩ := (build_seq_eq_ok_iff f s get b).1 hb
  exact hf get g hg a (hs get a ha)

/-- a member that does not matter -/
theorem Ensures.skip {s : Shape α} {P : β → Prop} (hf : f.Ensures fun g => ∀ a, P (g a)) : (f.seq s).Ensures P :=
  .seq (fun get g hg a _ => hf get g hg a) fun _ _ _ => trivial

/-- a point of time that is read is in a leap second only at the end of a minute -/
theorem ensures_regular (name : String) : (Shape.field name Wire.dateTime).Ensures DateTime.Regular := by
  intro get t h
  obtain ⟨v, -, hread⟩ := (build_field_eq_ok_iff name Wire.dateTime get t).1 h
  obtain ⟨s, -, hs⟩ := (Wire.dateTime_read_eq_ok_iff v t).1 hread
  exact DateTime.regular_of_read hs

/-- a member that may be null is read, null or not -/
theorem Yields.optional {f : Shape (Option α → β)} {g : Option α → β} {o : Option α} {name : String} {w : Wire α}
    {ty : FieldType} (hf : f.Yields get g) (h : ∀ a ∈ o, w.Written ty a)
    (hget : get name = some (w.optional.write o)) : (f.seq (.optional name w)).Yields get (g o) := by
  refine hf.seq ?_
  simp only [Yields, Shape.optional, hget, Wire.optional_read_write h]

end Shape

/-! ## Addresses, profiles and customers -/

namespace Address

open Wire TableField

/-- an address is built from what stands under the names of its members -/
theorem build_eq_ok_iff (get : String → Option Json) (a : Address) :
    shape.build get = .ok a ↔
      (Shape.field "street" Wire.text).Yields get a.street ∧ (Shape.field "city" Wire.text).Yields get a.city ∧
      (Shape.optional "state" Wire.text).Yields get a.state ∧ (Shape.field "country" Wire.text).Yields get a.country ∧
      (Shape.field "postalCode" Wire.text).Yields get a.postalCode := by
  simp only [shape, Shape.build_seq_eq_ok_iff]
  constructor
  · rintro ⟨_, _, ⟨_, _, ⟨_, _, ⟨_, _, ⟨_, _, hpure, h1, rfl⟩, h2, rfl⟩, h3, rfl⟩, h4, rfl⟩, h5, rfl⟩
    obtain rfl := Except.ok.inj hpure
    exact ⟨h1, h2, h3, h4, h5⟩
  · rintro ⟨h1, h2, h3, h4, h5⟩
    exact ⟨_, _, ⟨_, _, ⟨_, _, ⟨_, _, ⟨_, _, rfl, h1, rfl⟩, h2, rfl⟩, h3, rfl⟩, h4, rfl⟩, h5, rfl⟩

/-- the country has two characters -/
def Valid (a : Address) : Prop :=
  a.country.length = 2

theorem accepted {a : Address} (h : a.Valid) : Table.address.issues (.object a.members) = [] := by
  rw [Table.issues_object_eq_nil_iff]
  simp only [Table.address, List.forall_mem_cons]
  exact ⟨issues_required_written (written_text a.street) rfl, issues_required_written (written_text a.city) rfl,
    issues_optional_written (fun s _ => written_text s) rfl,
    (issues_length_eq_nil_iff "country" 2 2 a.country).2 ⟨Nat.le_of_eq h.symm, Nat.le_of_eq h⟩,
    issues_required_written (written_text a.postalCode) rfl, List.forall_mem_nil _⟩

theorem yields (a : Address) : shape.Yields (fun name => Json.member? name a.members) a :=
  (Shape.Yields.pure Address.mk _)
    |>.field (written_text a.street) rfl
    |>.field (written_text a.city) rfl
    |>.optional (fun s _ => written_text s) rfl
    |>.field (written_text a.country) rfl
    |>.field (written_text a.postalCode) rfl

theorem written {a : Address} (h : a.Valid) : (Wire.record members shape).Written (.object .address) a :=
  written_record fits.lawful (accepted h) a.yields

/-- an address that is built from accepted members has a country of two characters -/
theorem valid_of_build {members : List (String × Json)} {a : Address}
    (hissues : Table.address.issues (.object members) = [])
    (hbuild : shape.build (fun name => Json.member? name members) = .ok a) : a.Valid := by
  obtain ⟨-, -, -, hcountry, -⟩ := (build_eq_ok_iff _ a).1 hbuild
  have hget := (Shape.yields_text_iff _ _ _).1 hcountry
  have hfield : ((required "country" .text).length 2 2).issues (Json.member? "country" members) = [] :=
    Table.issues_field hissues rfl
  rw [hget] at hfield
  obtain ⟨hmin, hmax⟩ := (issues_length_eq_nil_iff "country" 2 2 a.country).1 hfield
  exact Nat.le_antisymm hmax hmin

end Address

namespace Profile

open Wire TableField

/-- a profile is built from what stands under the names of its members -/
theorem build_eq_ok_iff (get : String → Option Json) (p : Profile) :
    shape.build get = .ok p ↔
      (Shape.field "customerType" (.named CustomerType)).Yields get p.customerType ∧
      (Shape.field "firstName" Wire.text).Yields get p.firstName ∧
      (Shape.field "lastName" Wire.text).Yields get p.lastName ∧
      (Shape.field "email" Wire.text).Yields get p.email ∧
      (Shape.optional "phone" Wire.text).Yields get p.phone ∧
      (Shape.optional "dateOfBirth" Wire.date).Yields get p.dateOfBirth ∧
      (Shape.field "address" (.record Address.members Address.shape)).Yields get p.address ∧
      (Shape.field "kycStatus" (.named KycStatus)).Yields get p.kycStatus ∧
      (Shape.field "riskProfile" (.named RiskProfile)).Yields get p.riskProfile ∧
      (Shape.field "status" (.named CustomerStatus)).Yields get p.status := by
  simp only [shape, Shape.build_seq_eq_ok_iff]
  constructor
  · rintro ⟨_, _, ⟨_, _, ⟨_, _, ⟨_, _, ⟨_, _, ⟨_, _, ⟨_, _, ⟨_, _, ⟨_, _, ⟨_, _, hpure, h1, rfl⟩, h2, rfl⟩, h3, rfl⟩,
      h4, rfl⟩, h5, rfl⟩, h6, rfl⟩, h7, rfl⟩, h8, rfl⟩, h9, rfl⟩, h10, rfl⟩
    obtain rfl := Except.ok.inj hpure
    exact ⟨h1, h2, h3, h4, h5, h6, h7, h8, h9, h10⟩
  · rintro ⟨h1, h2, h3, h4, h5, h6, h7, h8, h9, h10⟩
    exact ⟨_, _, ⟨_, _, ⟨_, _, ⟨_, _, ⟨_, _, ⟨_, _, ⟨_, _, ⟨_, _, ⟨_, _, ⟨_, _, rfl, h1, rfl⟩, h2, rfl⟩, h3, rfl⟩,
      h4, rfl⟩, h5, rfl⟩, h6, rfl⟩, h7, rfl⟩, h8, rfl⟩, h9, rfl⟩, h10, rfl⟩

/-- mail can be sent, and the address is valid -/
def Valid (p : Profile) : Prop :=
  Email.isDeliverable p.email = true ∧ p.address.Valid

/-- the members of a profile are among these -/
def Within (p : Profile) (members : List (String × Json)) : Prop :=
  ∀ name v, Json.member? name p.members = some v → Json.member? name members = some v

/-- the table of customers accepts a profile, whatever stands under other names -/
theorem accepted {p : Profile} (hp : p.Valid) {members : List (String × Json)} (h : p.Within members) :
    Table.customer.issues (.object members) = [] := by
  rw [Table.issues_object_eq_nil_iff]
  simp only [Table.customer, List.forall_mem_cons]
  exact ⟨rfl, issues_required_written (written_named p.customerType) (h _ _ rfl),
    issues_required_written (written_text p.firstName) (h _ _ rfl),
    issues_required_written (written_text p.lastName) (h _ _ rfl),
    issues_required_written (written_email hp.1) (h _ _ rfl),
    issues_optional_written (fun s _ => written_text s) (h _ _ rfl),
    issues_optional_written (fun d _ => written_date d) (h _ _ rfl),
    issues_required_written (Address.written hp.2) (h _ _ rfl),
    issues_required_written (written_named p.kycStatus) (h _ _ rfl),
    issues_required_written (written_named p.riskProfile) (h _ _ rfl),
    issues_required_written (written_named p.status) (h _ _ rfl), rfl, rfl, List.forall_mem_nil _⟩

/-- a valid profile is built from its members, whatever stands under other names -/
theorem yields {p : Profile} (hp : p.Valid) {members : List (String × Json)} (h : p.Within members) :
    shape.Yields (fun name => Json.member? name members) p :=
  (Shape.Yields.pure Profile.mk _)
    |>.field (written_named p.customerType) (h _ _ rfl)
    |>.field (written_text p.firstName) (h _ _ rfl)
    |>.field (written_text p.lastName) (h _ _ rfl)
    |>.field (written_email hp.1) (h _ _ rfl)
    |>.optional (fun s _ => written_text s) (h _ _ rfl)
    |>.optional (fun d _ => written_date d) (h _ _ rfl)
    |>.field (Address.written hp.2) (h _ _ rfl)
    |>.field (written_named p.kycStatus) (h _ _ rfl)
    |>.field (written_named p.riskProfile) (h _ _ rfl)
    |>.field (written_named p.status) (h _ _ rfl)

/-- a profile that is built from accepted members is valid -/
theorem valid_of_build {members : List (String × Json)} {p : Profile}
    (hissues : Table.customer.issues (.object members) = [])
    (hbuild : shape.build (fun name => Json.member? name members) = .ok p) : p.Valid := by
  obtain ⟨-, -, -, hemail, -, -, haddress, -, -, -⟩ := (build_eq_ok_iff _ p).1 hbuild
  constructor
  · have hget := (Shape.yields_text_iff _ _ _).1 hemail
    have hfield : (required "email" .email).issues (Json.member? "email" members) = [] :=
      Table.issues_field hissues rfl
    rw [hget] at hfield
    obtain ⟨s, hs, hgood⟩ := (FieldType.issues_email_eq_nil_iff _).1 (type_issues_eq_nil hfield rfl)
    obtain rfl := Json.string.inj hs
    exact hgood
  · obtain ⟨v, hget, hread⟩ := (Shape.build_field_eq_ok_iff _ _ _ _).1 haddress
    have hfield : (required "address" (.object .address)).issues (Json.member? "address" members) = [] :=
      Table.issues_field hissues rfl
    rw [hget] at hfield
    have hty : Table.address.issues v = [] := type_issues_eq_nil hfield rfl
    obtain ⟨inner, rfl, -⟩ := (Table.address.issues_eq_nil_iff v).1 hty
    exact Address.valid_of_build hty ((Shape.read_object_eq_ok_iff Address.fits.lawful inner _).1 hread)

end Profile

namespace Customer

/-- the profile is valid -/
def Valid (c : Customer) : Prop :=
  c.profile.Valid

/-- the members of a customer are the id, those of the profile, and the timestamps -/
theorem profile_within (c : Customer) : c.profile.Within c.members := by
  intro name v h
  by_cases hid : "id" = name
  · subst hid
    exact absurd h (by simp [Profile.members, Json.member?])
  · simp only [members, Json.member?, if_neg hid, Json.member?_append, h, Option.some_or]

theorem accepted {c : Customer} (h : c.Valid) : Table.customer.issues (.object c.members) = [] :=
  Profile.accepted h c.profile_within

/-- a customer as its written form tells it -/
def told (c : Customer) : Customer :=
  { c with createdAt := c.createdAt.told, updatedAt := c.updatedAt.told }

theorem told_eq_iff (c : Customer) : c.told = c ↔ c.createdAt.Regular ∧ c.updatedAt.Regular := by
  rw [← c.createdAt.told_eq_iff, ← c.updatedAt.told_eq_iff]
  refine ⟨fun h => ⟨congrArg createdAt h, congrArg updatedAt h⟩, ?_⟩
  rintro ⟨hcreated, hupdated⟩
  rw [told, hcreated, hupdated]

theorem yields {c : Customer} (h : c.Valid) : shape.Yields (fun name => Json.member? name c.members) c.told :=
  (Shape.Yields.pure Customer.mk _)
    |>.field (Wire.written_id c.id) rfl
    |>.seq (Profile.yields h c.profile_within)
    |>.field (Wire.written_dateTime c.createdAt) rfl
    |>.field (Wire.written_dateTime c.updatedAt) rfl

theorem valid_of_build {members : List (String × Json)} {c : Customer}
    (hissues : Table.customer.issues (.object members) = [])
    (hbuild : shape.build (fun name => Json.member? name members) = .ok c) : c.Valid ∧ c.told = c := by
  simp only [shape, Shape.build_seq_eq_ok_iff] at hbuild
  obtain ⟨_, _, ⟨_, _, ⟨_, _, ⟨_, _, hpure, -, rfl⟩, hprofile, rfl⟩, hcreated, rfl⟩, hupdated, rfl⟩ := hbuild
  obtain rfl := Except.ok.inj hpure
  exact ⟨Profile.valid_of_build hissues hprofile,
    (told_eq_iff _).2 ⟨Shape.ensures_regular _ _ _ hcreated, Shape.ensures_regular _ _ _ hupdated⟩⟩

end Customer

/-! ## Accounts, cards, transactions and loans -/

open Wire TableField

theorem Account.accepted (a : Account) : Table.account.issues (.object a.members) = [] := by
  rw [Table.issues_object_eq_nil_iff]
  simp only [Table.account, List.forall_mem_cons]
  exact ⟨rfl, issues_required_written (written_id a.customerId) rfl,
    issues_required_written (written_named a.accountType) rfl,
    issues_required_written (written_text a.accountNumber) rfl,
    issues_required_written (written_text a.currency) rfl, issues_required_written (written_double a.balance) rfl,
    issues_required_written (written_double a.availableBalance) rfl,
    issues_required_written (written_double a.interestRate) rfl, issues_required_written (written_named a.status) rfl,
    issues_required_written (written_date a.openedDate) rfl,
    issues_required_written (written_dateTime a.lastActivityDate) rfl, List.forall_mem_nil _⟩

/-- an account as its written form tells it -/
def Account.told (a : Account) : Account :=
  { a with lastActivityDate := a.lastActivityDate.told }

theorem Account.told_eq_iff (a : Account) : a.told = a ↔ a.lastActivityDate.Regular := by
  rw [← a.lastActivityDate.told_eq_iff]
  refine ⟨fun h => congrArg lastActivityDate h, fun h => ?_⟩
  rw [told, h]

theorem Account.yields (a : Account) : shape.Yields (fun name => Json.member? name a.members) a.told :=
  (Shape.Yields.pure Account.mk _)
    |>.field (written_id a.id) rfl
    |>.field (written_id a.customerId) rfl
    |>.field (written_named a.accountType) rfl
    |>.field (written_text a.accountNumber) rfl
    |>.field (written_text a.currency) rfl
    |>.field (written_double a.balance) rfl
    |>.field (written_double a.availableBalance) rfl
    |>.field (written_double a.interestRate) rfl
    |>.field (written_named a.status) rfl
    |>.field (written_date a.openedDate) rfl
    |>.field (written_dateTime a.lastActivityDate) rfl

/-- an account that is read is told as it is -/
theorem Account.ensures_told : shape.Ensures fun a : Account => a.told = a := by
  refine .seq ?_ (Shape.ensures_regular _)
  refine .skip (.skip (.skip (.skip (.skip (.skip (.skip (.skip (.skip (.skip (Shape.ensures_pure ?_))))))))))
  intros
  exact (told_eq_iff _).2 ‹DateTime.Regular _›

theorem Card.accepted (c : Card) : Table.card.issues (.object c.members) = [] := by
  rw [Table.issues_object_eq_nil_iff]
  simp only [Table.card, List.forall_mem_cons]
  exact ⟨rfl, issues_required_written (written_id c.customerId) rfl,
    issues_required_written (written_id c.accountId) rfl,
    issues_required_written (written_named c.cardType) rfl, issues_required_written (written_text c.cardNumber) rfl,
    issues_required_written (written_date c.expiryDate) rfl, issues_required_written (written_text c.cvv) rfl,
    issues_required_written (written_named c.status) rfl, issues_required_written (written_double c.dailyLimit) rfl,
    issues_required_written (written_double c.monthlyLimit) rfl,
    issues_optional_written (fun x _ => written_double x) rfl,
    issues_required_written (written_date c.issuedDate) rfl, List.forall_mem_nil _⟩

theorem Card.yields (c : Card) : shape.Yields (fun name => Json.member? name c.members) c :=
  (Shape.Yields.pure Card.mk _)
    |>.field (written_id c.id) rfl
    |>.field (written_id c.customerId) rfl
    |>.field (written_id c.accountId) rfl
    |>.field (written_named c.cardType) rfl
    |>.field (written_text c.cardNumber) rfl
    |>.field (written_date c.expiryDate) rfl
    |>.field (written_text c.cvv) rfl
    |>.field (written_named c.status) rfl
    |>.field (written_double c.dailyLimit) rfl
    |>.field (written_double c.monthlyLimit) rfl
    |>.optional (fun x _ => written_double x) rfl
    |>.field (written_date c.issuedDate) rfl

theorem Transaction.accepted (t : Transaction) : Table.transaction.issues (.object t.members) = [] := by
  rw [Table.issues_object_eq_nil_iff]
  simp only [Table.transaction, List.forall_mem_cons]
  exact ⟨rfl, issues_required_written (written_id t.accountId) rfl, issues_required_written (written_named t.type) rfl,
    issues_required_written (written_double t.amount) rfl, issues_required_written (written_text t.currency) rfl,
    issues_optional_written (fun s _ => written_text s) rfl, issues_required_written (written_named t.status) rfl,
    issues_required_written (written_dateTime t.timestamp) rfl, issues_optional_written (fun s _ => written_text s) rfl,
    issues_optional_written (fun m _ => written_members m) rfl, List.forall_mem_nil _⟩

/-- a movement of funds as its written form tells it -/
def Transaction.told (t : Transaction) : Transaction :=
  { t with timestamp := t.timestamp.told }

theorem Transaction.told_eq_iff (t : Transaction) : t.told = t ↔ t.timestamp.Regular := by
  rw [← t.timestamp.told_eq_iff]
  refine ⟨fun h => congrArg timestamp h, fun h => ?_⟩
  rw [told, h]

theorem Transaction.yields (t : Transaction) : shape.Yields (fun name => Json.member? name t.members) t.told :=
  (Shape.Yields.pure Transaction.mk _)
    |>.field (written_id t.id) rfl
    |>.field (written_id t.accountId) rfl
    |>.field (written_named t.type) rfl
    |>.field (written_double t.amount) rfl
    |>.field (written_text t.currency) rfl
    |>.optional (fun s _ => written_text s) rfl
    |>.field (written_named t.status) rfl
    |>.field (written_dateTime t.timestamp) rfl
    |>.optional (fun s _ => written_text s) rfl
    |>.optional (fun m _ => written_members m) rfl

/-- a movement that is read is told as it is -/
theorem Transaction.ensures_told : shape.Ensures fun t : Transaction => t.told = t := by
  refine .skip (.skip (.seq ?_ (Shape.ensures_regular _)))
  refine .skip (.skip (.skip (.skip (.skip (.skip (.skip (Shape.ensures_pure ?_)))))))
  intros
  exact (told_eq_iff _).2 ‹DateTime.Regular _›

theorem LoanPayment.accepted (p : LoanPayment) : Table.loanPayment.issues (.object p.members) = [] := by
  rw [Table.issues_object_eq_nil_iff]
  simp only [Table.loanPayment, List.forall_mem_cons]
  exact ⟨issues_required_written (written_date p.dueDate) rfl, issues_required_written (written_double p.amount) rfl,
    issues_required_written (written_named p.status) rfl, issues_optional_written (fun d _ => written_date d) rfl,
    List.forall_mem_nil _⟩

theorem LoanPayment.yields (p : LoanPayment) : shape.Yields (fun name => Json.member? name p.members) p :=
  (Shape.Yields.pure LoanPayment.mk _)
    |>.field (written_date p.dueDate) rfl
    |>.field (written_double p.amount) rfl
    |>.field (written_named p.status) rfl
    |>.optional (fun d _ => written_date d) rfl

theorem Loan.schedule_written (l : List LoanPayment) : schedule.Written (.array (.object .loanPayment)) l :=
  written_list fun p _ => written_record LoanPayment.fits.lawful p.accepted p.yields

theorem Loan.accepted (l : Loan) : Table.loan.issues (.object l.members) = [] := by
  rw [Table.issues_object_eq_nil_iff]
  simp only [Table.loan, List.forall_mem_cons]
  exact ⟨rfl, issues_required_written (written_id l.customerId) rfl, issues_required_written (written_named l.type) rfl,
    issues_required_written (written_double l.amount) rfl, issues_required_written (written_text l.currency) rfl,
    issues_required_written (written_double l.interestRate) rfl, issues_required_written (written_int64 l.term) rfl,
    issues_required_written (written_named l.status) rfl, issues_required_written (written_date l.startDate) rfl,
    issues_required_written (written_date l.endDate) rfl,
    issues_required_written (written_double l.remainingBalance) rfl,
    issues_required_written (schedule_written l.paymentSchedule) rfl, List.forall_mem_nil _⟩

theorem Loan.yields (l : Loan) : shape.Yields (fun name => Json.member? name l.members) l :=
  (Shape.Yields.pure Loan.mk _)
    |>.field (written_id l.id) rfl
    |>.field (written_id l.customerId) rfl
    |>.field (written_named l.type) rfl
    |>.field (written_double l.amount) rfl
    |>.field (written_text l.currency) rfl
    |>.field (written_double l.interestRate) rfl
    |>.field (written_int64 l.term) rfl
    |>.field (written_named l.status) rfl
    |>.field (written_date l.startDate) rfl
    |>.field (written_date l.endDate) rfl
    |>.field (written_double l.remainingBalance) rfl
    |>.field (schedule_written l.paymentSchedule) rfl

/-! ## Writing and decoding -/

namespace Entity

variable {α : Type} [Entity α]

/-- a kind of record and its wire form agree: what is written names the members in the order of the table, is
accepted, and is decoded as the record is told, if the record is valid; and every decoded record is valid and told as it
is, so it is decoded again from what is written for it -/
structure Faithful (α : Type) [Entity α] (valid : α → Prop) (told : α → α) (names : List String) : Prop where
  names : ∀ a : α, (members a).map Prod.fst = names
  accepted : ∀ a : α, valid a → (table α).validate (toJson a) = .ok ()
  decoded : ∀ a : α, valid a → decode α (toJson a) = .ok (told a)
  valid : ∀ (v : Json) (a : α), decode α v = .ok a → valid a ∧ told a = a
  again : ∀ (v : Json) (a : α), decode α v = .ok a → decode α (toJson a) = .ok a

/-- a record that is accepted and from whose members one is built is decoded as that one -/
theorem decode_toJson {a told : α} (hs : (shape : Shape α).Lawful)
    (haccepted : (table α).issues (.object (members a)) = [])
    (hyields : (shape : Shape α).Yields (fun name => Json.member? name (members a)) told) :
    decode α (toJson a) = .ok told :=
  (decode_eq_ok_iff hs _ told).2 ⟨((table α).validate_eq_ok_iff _).2 haccepted, hyields⟩

theorem faithful {valid : α → Prop} {told : α → α} {names : List String} (hs : (shape : Shape α).Lawful)
    (hnames : ∀ a : α, (members a).map Prod.fst = names)
    (haccepted : ∀ a : α, valid a → (table α).issues (.object (members a)) = [])
    (hyields : ∀ a : α, valid a → (shape : Shape α).Yields (fun name => Json.member? name (members a)) (told a))
    (hvalid : ∀ (ms : List (String × Json)) (a : α), (table α).issues (.object ms) = [] →
      (shape : Shape α).build (fun name => Json.member? name ms) = .ok a → valid a ∧ told a = a) :
    Faithful α valid told names := by
  have decoded : ∀ a : α, valid a → decode α (toJson a) = .ok (told a) :=
    fun a ha => decode_toJson hs (haccepted a ha) (hyields a ha)
  have valid_of_decode : ∀ (v : Json) (a : α), decode α v = .ok a → valid a ∧ told a = a := by
    intro v a h
    obtain ⟨hvalidate, hbuild⟩ := (decode_eq_ok_iff hs v a).1 h
    have hissues := ((table α).validate_eq_ok_iff v).1 hvalidate
    obtain ⟨ms, rfl, -⟩ := ((table α).issues_eq_nil_iff v).1 hissues
    exact hvalid ms a hissues hbuild
  refine ⟨hnames, fun a ha => ((table α).validate_eq_ok_iff _).2 (haccepted a ha), decoded, valid_of_decode, ?_⟩
  intro v a h
  obtain ⟨hvalid, htold⟩ := valid_of_decode v a h
  exact (decoded a hvalid).trans (congrArg Except.ok htold)

end Entity

/-- the names of the fields of a table in order -/
def Table.fieldNames (t : Table) : List String :=
  t.fields.map TableField.name

/-- the names of the fields of a table that a client may give, in order -/
def Table.writableNames (t : Table) : List String :=
  (t.fields.filter fun f => f.presence ≠ .readOnly).map TableField.name

/-- **Records survive the way through their wire form.** What is written for a record has the members of its table in
order, is accepted by the table and is decoded as the record.  This needs a country of two characters for an address,
and mail that can be delivered besides for a profile and a customer.  Points of time come back as they are told:
exactly, unless they are in a leap second inside a minute.  Every decoded record has a country and mail as they must be,
and is told exactly, so that decoding, writing and decoding again changes nothing. -/
theorem records_are_faithful :
    Entity.Faithful Address Address.Valid id Table.address.fieldNames ∧
    Entity.Faithful Profile Profile.Valid id Table.customer.writableNames ∧
    Entity.Faithful Customer Customer.Valid Customer.told Table.customer.fieldNames ∧
    Entity.Faithful Account (fun _ => True) Account.told Table.account.fieldNames ∧
    Entity.Faithful Card (fun _ => True) id Table.card.fieldNames ∧
    Entity.Faithful Transaction (fun _ => True) Transaction.told Table.transaction.fieldNames ∧
    Entity.Faithful LoanPayment (fun _ => True) id Table.loanPayment.fieldNames ∧
    Entity.Faithful Loan (fun _ => True) id Table.loan.fieldNames ∧
    (∀ c : Customer, c.told = c ↔ c.createdAt.Regular ∧ c.updatedAt.Regular) ∧
    (∀ a : Account, a.told = a ↔ a.lastActivityDate.Regular) ∧
    ∀ t : Transaction, t.told = t ↔ t.timestamp.Regular := by
  refine ⟨?_, ?_, ?_, ?_, ?_, ?_, ?_, ?_, Customer.told_eq_iff, Account.told_eq_iff, Transaction.told_eq_iff⟩
  · exact Entity.faithful Address.fits.lawful (fun _ => rfl) (fun _ h => Address.accepted h) (fun a _ => a.yields)
      fun _ _ hissues hbuild => ⟨Address.valid_of_build hissues hbuild, rfl⟩
  · exact Entity.faithful Profile.fits.lawful (fun _ => rfl) (fun _ h => Profile.accepted h fun _ _ => id)
      (fun _ h => Profile.yields h fun _ _ => id) fun _ _ hissues hbuild => ⟨Profile.valid_of_build hissues hbuild, rfl⟩
  · exact Entity.faithful Customer.fits.lawful (fun _ => rfl) (fun _ h => Customer.accepted h)
      (fun _ h => Customer.yields h) fun _ _ => Customer.valid_of_build
  · exact Entity.faithful Account.fits.lawful (fun _ => rfl) (fun a _ => a.accepted) (fun a _ => a.yields)
      fun _ _ _ hbuild => ⟨trivial, Account.ensures_told _ _ hbuild⟩
  · exact Entity.faithful Card.fits.lawful (fun _ => rfl) (fun c _ => c.accepted) (fun c _ => c.yields)
      fun _ _ _ _ => ⟨trivial, rfl⟩
  · exact Entity.faithful Transaction.fits.lawful (fun _ => rfl) (fun t _ => t.accepted) (fun t _ => t.yields)
      fun _ _ _ hbuild => ⟨trivial, Transaction.ensures_told _ _ hbuild⟩
  · exact Entity.faithful LoanPayment.fits.lawful (fun _ => rfl) (fun p _ => p.accepted) (fun p _ => p.yields)
      fun _ _ _ _ => ⟨trivial, rfl⟩
  · exact Entity.faithful Loan.fits.lawful (fun _ => rfl) (fun l _ => l.accepted) (fun l _ => l.yields)
      fun _ _ _ _ => ⟨trivial, rfl⟩

/-- a customer born before year zero and entered in a leap second of a year of five digits is decoded as it is -/
theorem records_are_faithful_distant :
    ∃ c : Customer, c.Valid ∧ c.profile.dateOfBirth.map Date.year = some (-44) ∧ c.createdAt.date.year = 12024 ∧
      c.createdAt.second = 59 ∧ c.createdAt.nanosecond = 1123456789 ∧
      Entity.decode Customer (Entity.toJson c) = .ok c := by
  have hbirth : Date.Exists (-44) 3 15 := by decide
  have hentry : Date.Exists 12024 2 29 := by decide
  have hemail : Email.isDeliverable "ada@example.com" = true := by decide
  have hcountry : "GB".length = 2 := by decide
  refine ⟨{
    id := "c-1"
    profile := {
      customerType := .personal
      firstName := "Ada"
      lastName := "Lovelace"
      email := "ada@example.com"
      phone := none
      dateOfBirth := some ⟨-44, 3, 15, hbirth⟩
      address := ⟨"12 St James's Square", "London", none, "GB", "SW1Y 4JH"⟩
      kycStatus := .pending
      riskProfile := .medium
      status := .active }
    createdAt := ⟨⟨12024, 2, 29, hentry⟩, 23, 59, 59, 1123456789, by decide, by decide, by decide, by decide⟩
    updatedAt := Date.at ⟨12024, 2, 29, hentry⟩ 23 59 }, ?_, rfl, rfl, rfl, rfl, ?_⟩
  · exact ⟨hemail, hcountry⟩
  · obtain ⟨-, -, hfaithful, -, -, -, -, -, htold, -⟩ := records_are_faithful
    refine (hfaithful.decoded _ ?_).trans (congrArg Except.ok ((htold _).2 ⟨.inr rfl, DateTime.regular_at _ _ _⟩))
    exact ⟨hemail, hcountry⟩

theorem firstOfMonth_exists : Date.Exists 2024 1 1 := by
  decide

/-- an account that was last used in the leap second after the thirtieth second of a minute -/
def leapAccount : Account where
  id := "a-1"
  customerId := "c-1"
  accountType := .checking
  accountNumber := "4000000000000002"
  currency := "USD"
  balance := .ofNat false 100
  availableBalance := .ofNat false 100
  interestRate := .ofNat false 1
  status := .active
  openedDate := ⟨2024, 1, 1, firstOfMonth_exists⟩
  lastActivityDate :=
    { Date.start ⟨2024, 1, 1, firstOfMonth_exists⟩ with
      second := 30
      nanosecond := 1500000000
      second_lt := by decide
      nanosecond_lt := by decide }

/-- a payment of 91.63453718085519 -/
def oddPayment : Transaction where
  id := "t-1"
  accountId := "a-1"
  type := .payment
  amount := ⟨false, 4636148624241588127, by decide⟩
  currency := "USD"
  description := none
  status := .completed
  timestamp := Date.start ⟨2024, 1, 1, firstOfMonth_exists⟩
  referenceId := none
  metadata := none

/-- an account used in a leap second inside a minute is decoded from what is written for it as one used in the second
after; and from the text of a document an amount may come back as its neighbour -/
theorem leap_second_and_text_are_retold :
    (Table.account.validate (Entity.toJson leapAccount) = .ok () ∧
      Entity.decode Account (Entity.toJson leapAccount) = .ok leapAccount.told ∧
      leapAccount.told.lastActivityDate.second = 31 ∧ leapAccount.told.lastActivityDate.nanosecond = 500000000 ∧
      Entity.decode Account (Entity.toJson leapAccount) ≠ .ok leapAccount) ∧
    ∃ v t, Json.read (Json.render (Entity.toJson oddPayment)).toUTF8.toList = .ok v ∧
      Entity.decode Transaction v = .ok t ∧ t ≠ oddPayment := by
  have hdecoded := Entity.decode_toJson Account.fits.lawful leapAccount.accepted leapAccount.yields
  refine ⟨⟨(Table.account.validate_eq_ok_iff _).2 leapAccount.accepted, hdecoded, by decide, by decide, ?_⟩, ?_⟩
  · rw [hdecoded]
    intro hsame
    have hregular := leapAccount.told_eq_iff.1 (Except.ok.inj hsame)
    exact absurd hregular (by decide)
  · have hdecode : ((Json.read (Json.render (Entity.toJson oddPayment)).toUTF8.toList).toOption.any fun v =>
        (Entity.decode Transaction v).toOption.any fun t => t.amount.rank ≠ oddPayment.amount.rank) = true := by
      decide +kernel
    cases hread : Json.read (Json.render (Entity.toJson oddPayment)).toUTF8.toList with
    | error e =>
      rw [hread] at hdecode
      exact absurd hdecode nofun
    | ok v =>
      rw [hread] at hdecode
      cases ht : Entity.decode Transaction v with
      | error e => simp [Except.toOption, ht] at hdecode
      | ok t =>
        refine ⟨v, t, rfl, ht, ?_⟩
        rintro rfl
        simp [Except.toOption, ht] at hdecode

end MockBank
