/-
What becomes of a customer that is added.  The answer says what the body said, under an id of its own; from then on the
customer is listed at one position and shown whenever it is asked for, whatever else is asked of the bank.

- `Wire.Keeps`, `Shape.Yields.written`: which values are written as they were read, so a member is the one of the body.
- `Customer.mirrors`: a customer made of a profile that is decoded from a document says what the document says.
- `Api.respond_relates`, `Api.run_relates`: a request does to a bank what adding a customer does, or nothing; what each
  request preserves is preserved by a run.  So requests lead from reachable banks to reachable banks.
- `Bank.Reachable.keeps`, `Bank.Reachable.keeps_run`: a reachable bank shows and lists what it holds, and goes on to.
- `created_customer_is_kept`: the answer, the bank after any later requests, and the answer sent as a body again.
-/
import MockBank.Proofs.Requests
import MockBank.Proofs.Routes
import MockBank.Proofs.WireForm

namespace MockBank

/-! ## Members that are written as they were read -/

namespace Wire

variable {α : Type}

/-- what is read is written as it stood -/
def Keeps (w : Wire α) : Prop :=
  ∀ v a, w.read v = .ok a → w.write a = v

theorem text_keeps : text.Keeps := by
  intro v s h
  exact ((text_read_eq_ok_iff v s).1 h).symm

theorem named_keeps (α : Type) [Named α] : (named α).Keeps := by
  intro v a h
  cases v with
  | string s =>
    cases hname : (Named.ofName? s : Option α) with
    | none => simp [named, hname] at h
    | some b =>
      simp only [named, hname] at h
      obtain rfl := Except.ok.inj h
      have hs : Named.name b = s := by simpa using List.find?_some hname
      exact congrArg Json.string hs
  | _ => simp [named] at h

end Wire

namespace Shape

variable {α : Type} {w : Wire α} {name : String} {get : String → Option Json}

/-- a member that must be there is written as it stood -/
theorem Yields.written {a : α} (h : (Shape.field name w).Yields get a) (hw : w.Keeps) :
    w.write a = (get name).getD .null := by
  obtain ⟨v, hv, ha⟩ := (build_field_eq_ok_iff name w get a).1 h
  rw [hv, hw v a ha]
  rfl

/-- a member that may be absent or null is one of the two, or is read -/
theorem Yields.optional_cases {o : Option α} (h : (Shape.optional name w).Yields get o) :
    (o = none ∧ (get name).getD .null = .null) ∨ ∃ v a, get name = some v ∧ w.read v = .ok a ∧ o = some a := by
  cases hget : get name with
  | none =>
    simp only [Yields, Shape.optional, hget] at h
    exact .inl ⟨(Except.ok.inj h).symm, rfl⟩
  | some v =>
    simp only [Yields, Shape.optional, hget] at h
    by_cases hnull : v = .null
    · subst hnull
      exact .inl ⟨(Except.ok.inj h).symm, rfl⟩
    · rw [w.optional_read_of_ne_null hnull] at h
      cases hread : w.read v with
      | error e => simp [hread, Except.map] at h
      | ok a =>
        rw [hread] at h
        exact .inr ⟨v, a, rfl, hread, (Except.ok.inj h).symm⟩

/-- such a member is written as it stood, and as null if it was absent -/
theorem Yields.written_optional {o : Option α} (h : (Shape.optional name w).Yields get o) (hw : w.Keeps) :
    w.optional.write o = (get name).getD .null := by
  rcases h.optional_cases with ⟨rfl, hnull⟩ | ⟨v, a, hv, ha, rfl⟩
  · exact hnull.symm
  · rw [hv]
    exact hw v a ha

end Shape

/-! ## What the answer says -/

open Wire in
/-- an address that is built from the members of a document has their values -/
theorem Address.written_of_build {get : String → Option Json} {a : Address} (h : shape.build get = .ok a) :
    ∀ name ∈ Table.address.fieldNames, Json.member? name a.members = some ((get name).getD .null) := by
  obtain ⟨hstreet, hcity, hstate, hcountry, hcode⟩ := (build_eq_ok_iff get a).1 h
  have hnames : Table.address.fieldNames = ["street", "city", "state", "country", "postalCode"] := rfl
  rw [hnames]
  simp only [List.forall_mem_cons]
  exact ⟨congrArg some (hstreet.written text_keeps), congrArg some (hcity.written text_keeps),
    congrArg some (hstate.written_optional text_keeps), congrArg some (hcountry.written text_keeps),
    congrArg some (hcode.written text_keeps), List.forall_mem_nil _⟩

/-- a customer says what a document says of it: it has the members of the table in order; a value that is neither the
address nor the day of birth is that of the document, or null; so are the values of the address; and the day of birth is
null or the day that the document's text denotes -/
structure Customer.Mirrors (c : Customer) (v : Json) : Prop where
  names : (Entity.members c).map Prod.fst = Table.customer.fieldNames
  scalar : ∀ name ∈ Table.customer.writableNames, name ≠ "address" → name ≠ "dateOfBirth" →
    (Entity.toJson c).at? name = some ((v.at? name).getD .null)
  address : ∃ members sent, (Entity.toJson c).at? "address" = some (.object members) ∧ v.at? "address" = some sent ∧
    members.map Prod.fst = Table.address.fieldNames ∧
    ∀ name ∈ Table.address.fieldNames, Json.member? name members = some ((sent.at? name).getD .null)
  birth : ((v.at? "dateOfBirth").getD .null = .null ∧ (Entity.toJson c).at? "dateOfBirth" = some .null) ∨
    ∃ s d, v.at? "dateOfBirth" = some (.string s) ∧ Date.read s = .ok d ∧
      (Entity.toJson c).at? "dateOfBirth" = some (.string d.text)

open Wire in
/-- **A customer says what the document says that its profile is decoded from.** -/
theorem Customer.mirrors {v : Json} {p : Profile} (h : Entity.decode Profile v = .ok p) (id : String) (now : DateTime) :
    (p.toCustomer id now).Mirrors v := by
  obtain ⟨-, hbuild⟩ := (Entity.decode_eq_ok_iff Profile.fits.lawful v p).1 h
  obtain ⟨htype, hfirst, hlast, hemail, hphone, hbirth, haddress, hkyc, hrisk, hstatus⟩ :=
    (Profile.build_eq_ok_iff v.at? p).1 hbuild
  refine ⟨rfl, ?_, ?_, ?_⟩
  · have hnames : Table.customer.writableNames = ["customerType", "firstName", "lastName", "email", "phone",
        "dateOfBirth", "address", "kycStatus", "riskProfile", "status"] := rfl
    rw [hnames]
    simp only [List.forall_mem_cons]
    exact ⟨fun _ _ => congrArg some (htype.written (named_keeps _)),
      fun _ _ => congrArg some (hfirst.written text_keeps),
      fun _ _ => congrArg some (hlast.written text_keeps), fun _ _ => congrArg some (hemail.written text_keeps),
      fun _ _ => congrArg some (hphone.written_optional text_keeps), fun _ hne => absurd rfl hne,
      fun hne _ => absurd rfl hne, fun _ _ => congrArg some (hkyc.written (named_keeps _)),
      fun _ _ => congrArg some (hrisk.written (named_keeps _)),
      fun _ _ => congrArg some (hstatus.written (named_keeps _)), List.forall_mem_nil _⟩
  · obtain ⟨sent, hsent, hread⟩ := (Shape.build_field_eq_ok_iff _ _ _ _).1 haddress
    have hobject : ∃ members, sent = .object members := by
      cases sent with
      | object members => exact ⟨members, rfl⟩
      | _ => exact absurd hread nofun
    obtain ⟨members, rfl⟩ := hobject
    have hinner := (Shape.read_object_eq_ok_iff Address.fits.lawful members p.address).1 hread
    exact ⟨p.address.members, .object members, rfl, hsent, rfl, Address.written_of_build hinner⟩
  · rcases hbirth.optional_cases with ⟨hnone, hnull⟩ | ⟨day, d, hday, hread, hsome⟩
    · refine .inl ⟨hnull, congrArg some ?_⟩
      show Wire.date.optional.write p.dateOfBirth = .null
      rw [hnone]
      rfl
    · obtain ⟨s, rfl, hd⟩ := (date_read_eq_ok_iff day d).1 hread
      refine .inr ⟨s, d, hday, hd, congrArg some ?_⟩
      show Wire.date.optional.write p.dateOfBirth = .string d.text
      rw [hsome]
      rfl

/-- a profile that is decoded is valid -/
theorem Profile.valid_of_decode {v : Json} {p : Profile} (h : Entity.decode Profile v = .ok p) : p.Valid := by
  obtain ⟨hvalidate, hbuild⟩ := (Entity.decode_eq_ok_iff Profile.fits.lawful v p).1 h
  have hissues : Table.customer.issues v = [] := (Table.customer.validate_eq_ok_iff v).1 hvalidate
  obtain ⟨members, rfl, -⟩ := (Table.customer.issues_eq_nil_iff v).1 hissues
  exact Profile.valid_of_build hissues hbuild

/-- what is written for a customer is decoded as its profile; the id and the timestamps are passed over -/
theorem Customer.decode_profile {c : Customer} (h : c.Valid) : Entity.decode Profile (Entity.toJson c) = .ok c.profile :=
  (Entity.decode_eq_ok_iff Profile.fits.lawful _ _).2
    ⟨(Table.customer.validate_eq_ok_iff _).2 (Customer.accepted h), Profile.yields h c.profile_within⟩

/-! ## Banks under requests -/

namespace Api

/-- the answer to a request to show something -/
theorem respond_of_get (b : Bank) {g : Arrival} {e : Endpoint} (hmethod : g.request.method = .get)
    (hpath : Endpoint.ofPath? g.request.path = some e) :
    respond b g = some ((view b g.request e).withHeaders (Cors.headers g.request), b) := by
  rw [respond, route]
  simp only [hmethod, hpath]
  rfl

/-- **What each request preserves is preserved by a run.** -/
theorem run_relates {R : Bank → Bank → Prop} (refl : ∀ b, R b b) (trans : ∀ {b b' b''}, R b b' → R b' b'' → R b b'')
    (step : ∀ {b a r b'}, respond b a = some (r, b') → R b b') {b b' : Bank} {as : List Arrival} {rs : List Response}
    (h : run b as = some (rs, b')) : R b b' := by
  induction as generalizing b rs with
  | nil =>
    obtain ⟨-, rfl⟩ := Prod.mk.inj (Option.some.inj h)
    exact refl b
  | cons a as ih =>
    obtain ⟨r, b1, rest, hr, hrest, rfl⟩ := (run_cons b a as rs b').1 h
    exact trans (step hr) (ih hrest)

/-- **A request relates the bank before it to the one after it as adding a customer does**, one with a valid profile, or
leaves the bank as it is. -/
theorem respond_relates {R : Bank → Bank → Prop} (refl : ∀ b, R b b)
    (added : ∀ {b b' ids left now} {p : Profile} {c : Customer}, p.Valid →
      Shelf.customers.insert? b ids (fun id => p.toCustomer id now) = some (c, b', left) → R b b')
    {b b' : Bank} {a : Arrival} {r : Response} (h : respond b a = some (r, b')) : R b b' := by
  cases (respond_eq_some_iff b a r b').1 h with
  | other _ _ _ => exact refl b
  | refused _ _ _ => exact refl b
  | created p _ _ _ _ read inserted =>
    obtain ⟨v, -, hp⟩ := (readProfile_eq_ok_iff _ p).1 read
    exact added (Profile.valid_of_decode hp) inserted

/-- a bank grows when it answers -/
theorem respond_grows {b b' : Bank} {a : Arrival} {r : Response} (h : respond b a = some (r, b')) : b.Grows b' :=
  respond_relates Bank.Grows.refl (fun _ inserted => Shelf.grows inserted) h

/-- a property that each answer leaves to the bank is left to it by a run -/
theorem run_preserves {P : Bank → Prop} (step : ∀ {b a r b'}, P b → respond b a = some (r, b') → P b')
    {b b' : Bank} {as : List Arrival} {rs : List Response} (hb : P b) (h : run b as = some (rs, b')) : P b' :=
  run_relates (R := fun b b' => P b → P b') (fun _ hb => hb) (fun h h' hb => h' (h hb)) (fun h hb => step hb h) h hb

/-- a request to add a customer whose body becomes a profile is answered with the customer -/
theorem exists_created {b : Bank} {a : Arrival} {p : Profile} (hcreates : a.request.Creates)
    (hp : readProfile a.request = .ok p) (hunused : ∃ id ∈ a.ids, b.customers.index.contains id = false) :
    ∃ r b' c left, respond b a = some (r, b') ∧ r.status = 200 ∧ r.body = .json (Entity.toJson c) ∧
      Shelf.customers.insert? b a.ids (fun id => p.toCustomer id a.now) = some (c, b', left) := by
  obtain ⟨r, b', hr⟩ := exists_respond hunused
  cases (respond_eq_some_iff b a r b').1 hr with
  | other _ not_creates _ => exact absurd hcreates not_creates
  | refused e _ unread => exact absurd (hp.symm.trans unread) nofun
  | created q c _ left _ read added =>
    obtain rfl := Except.ok.inj (hp.symm.trans read)
    exact ⟨_, b', c, left, hr, rfl, rfl, added⟩

/-- what is added when a profile becomes a customer -/
theorem customer_of_insert? {b b' : Bank} {ids left : List String} {now : DateTime} {p : Profile} {c : Customer}
    (h : Shelf.customers.insert? b ids (fun id => p.toCustomer id now) = some (c, b', left)) :
    c.id ∈ ids ∧ b.customers.index.contains c.id = false ∧ c = p.toCustomer c.id now ∧
      b'.customers.toList = b.customers.toList ++ [c] := by
  obtain ⟨customers, hadded, rfl⟩ := Shelf.insert?_eq_some h
  obtain ⟨skipped, id, hids, -, hid, hc, hcustomers⟩ := (Collection.insert?_eq_some_iff _ _ _ _).1 hadded
  obtain rfl : c = p.toCustomer id now := hc
  have hmem : id ∈ ids := by
    rw [show ids = skipped ++ id :: left from hids]
    exact List.mem_append_right _ List.mem_cons_self
  refine ⟨hmem, hid, rfl, ?_⟩
  show customers.toList = _
  rw [show customers = _ from hcustomers]
  exact Collection.toList_add b.customers _

end Api

namespace Bank

/-- **Requests lead from reachable banks to reachable banks.** -/
theorem Reachable.respond {b b' : Bank} {a : Arrival} {r : Response} (hb : b.Reachable)
    (h : Api.respond b a = some (r, b')) : b'.Reachable :=
  Api.respond_relates (R := fun b b' => b.Reachable → b'.Reachable) (fun _ hb => hb)
    (fun _ inserted hb => .insert .customers hb (fun _ => rfl) inserted) h hb

theorem Reachable.run {b b' : Bank} {as : List Arrival} {rs : List Response} (hb : b.Reachable)
    (h : Api.run b as = some (rs, b')) : b'.Reachable :=
  Api.run_preserves Reachable.respond hb h

end Bank

/-- asks to be shown the customer of an id; the path ends in the id, percent-encoded or not -/
def Request.AsksFor (r : Request) (id : String) : Prop :=
  r.method = .get ∧ ∃ segment, r.path = "/api/customers/".toList ++ segment ∧ segment ≠ [] ∧ '/' ∉ segment ∧
    Endpoint.segmentText? segment = some id

/-- a bank lists a customer once, at a position, under an id that no other customer has, and shows it whenever it is
asked for it -/
structure Bank.Keeps (b : Bank) (c : Customer) (position : Nat) : Prop where
  listed : ∀ i, b.customers.toList[i]? = some c ↔ i = position
  alone : ∀ d ∈ b.customers.toList, d.id = c.id → d = c
  shown : ∀ g : Arrival, g.request.AsksFor c.id →
    ∃ r, Api.respond b g = some (r, b) ∧ r.status = 200 ∧ r.body = .json (Entity.toJson c)

/-- **A reachable bank shows and lists what it holds.** -/
theorem Bank.Reachable.keeps {b : Bank} (hb : b.Reachable) {c : Customer} {position : Nat}
    (h : b.customers.toList[position]? = some c) : b.Keeps c position := by
  have hindexed : b.customers.Indexed := hb.indexed Customer .customers
  refine ⟨?_, ?_, ?_⟩
  · intro i
    constructor
    · exact fun hi => hindexed.position_unique hi h rfl
    · rintro rfl
      exact h
  · intro d hd hid
    obtain ⟨i, hi⟩ := List.getElem?_of_mem hd
    obtain rfl := hindexed.position_unique hi h hid
    exact Option.some.inj (hi.symm.trans h)
  · rintro g ⟨hmethod, segment, hpath, hne, hslash, htext⟩
    have hget : b.customers.get? c.id = some c :=
      (hindexed.get?_eq_some_iff c.id c).2 ⟨List.mem_of_getElem? h, rfl⟩
    have hview : Api.view b g.request (.customer segment) = .json 200 (Entity.toJson c) := by
      simp only [Api.view, Api.withSegment, htext, Api.showCustomer, hget, Api.answer]
    have hendpoint : Endpoint.ofPath? g.request.path = some (.customer segment) := by
      rw [hpath]
      exact Endpoint.ofPath?_customer hne hslash
    refine ⟨_, Api.respond_of_get b hmethod hendpoint, ?_, ?_⟩
    · rw [hview]
      rfl
    · rw [hview]
      rfl

/-- so does any bank that requests lead to from there -/
theorem Bank.Reachable.keeps_run {b b' : Bank} (hb : b.Reachable) {c : Customer} {position : Nat}
    (h : b.customers.toList[position]? = some c) {as : List Arrival} {rs : List Response}
    (hrun : Api.run b as = some (rs, b')) : b'.Keeps c position := by
  obtain ⟨more, hmore⟩ := Api.run_relates Bank.Grows.refl Bank.Grows.trans Api.respond_grows hrun Customer .customers
  refine (hb.run hrun).keeps ?_
  rw [show b'.customers.toList = b.customers.toList ++ more from hmore.symm,
    List.getElem?_append_left (List.getElem?_eq_some_iff.1 h).1]
  exact h

/-- **A customer that is added is kept.**  The body is a document that the table of customers accepts, and a candidate
id is not in use.  Then the answer is a customer with a candidate id that no customer has, with the time of the
request in both timestamps, and with what the document says.  After any later requests the bank keeps the customer at
the position behind those that were there.  Sent as a body, the customer is accepted wherever an id is left, and
becomes a customer that differs in the id and the timestamps only. -/
theorem created_customer_is_kept {b : Bank} (hb : b.Reachable) {a : Arrival} {v : Json} (hcreates : a.request.Creates)
    (hread : JsonBody.read a.request = .ok v) (haccepted : Table.customer.validate v = .ok ())
    (hunused : ∃ id ∈ a.ids, b.customers.index.contains id = false) :
    ∃ (r : Response) (b' : Bank) (c : Customer), Api.respond b a = some (r, b') ∧ r.status = 200 ∧
      r.body = .json (Entity.toJson c) ∧ c.id ∈ a.ids ∧ (∀ d ∈ b.customers.toList, d.id ≠ c.id) ∧
      c.createdAt = a.now ∧ c.updatedAt = a.now ∧ c.Mirrors v ∧
      (∀ (later : List Arrival) (rs : List Response) (b'' : Bank), Api.run b' later = some (rs, b'') →
        b''.Keeps c b.customers.size) ∧
      ∀ (other : Bank) (again : Arrival), again.request.Creates → JsonBody.read again.request = .ok (Entity.toJson c) →
        (∃ id ∈ again.ids, other.customers.index.contains id = false) →
        ∃ (r : Response) (other' : Bank) (d : Customer), Api.respond other again = some (r, other') ∧ r.status = 200 ∧
          r.body = .json (Entity.toJson d) ∧
          d = { c with id := d.id, createdAt := again.now, updatedAt := again.now } := by
  obtain ⟨p, hp⟩ := (Entity.decode_iff Profile.fits v).2 ⟨haccepted, trivial⟩
  have hprofile : Api.readProfile a.request = .ok p := (Api.readProfile_eq_ok_iff _ p).2 ⟨v, hread, hp⟩
  obtain ⟨r, b', c, left, hr, hstatus, hbody, hadded⟩ := Api.exists_created hcreates hprofile hunused
  obtain ⟨hid, hnew, hc, hlist⟩ := Api.customer_of_insert? hadded
  have hindexed : b.customers.Indexed := hb.indexed Customer .customers
  refine ⟨r, b', c, hr, hstatus, hbody, hid, ?_, ?_, ?_, ?_, ?_, ?_⟩
  · intro d hd hsame
    have hused := (hindexed.contains_iff c.id).2 ⟨d, hd, hsame⟩
    rw [hnew] at hused
    exact absurd hused Bool.false_ne_true
  · rw [hc]
    rfl
  · rw [hc]
    rfl
  · rw [hc]
    exact Customer.mirrors hp c.id a.now
  · intro later rs b'' hlater
    have hplace : b'.customers.toList[b.customers.size]? = some c := by
      rw [hlist, Collection.size_eq_length_toList]
      exact List.getElem?_concat_length
    exact (hb.respond hr).keeps_run hplace hlater
  · intro other again hcreates' hread' hunused'
    have hvalid : c.Valid := by
      rw [hc]
      exact Profile.valid_of_decode hp
    have hprofile' : Api.readProfile again.request = .ok c.profile :=
      (Api.readProfile_eq_ok_iff _ _).2 ⟨_, hread', Customer.decode_profile hvalid⟩
    obtain ⟨r', other', d, left', hr', hstatus', hbody', hadded'⟩ := Api.exists_created hcreates' hprofile' hunused'
    exact ⟨r', other', d, hr', hstatus', hbody', (Api.customer_of_insert? hadded').2.2.1⟩

/-- a request to be shown what a target names -/
def viewing (target : String) : Arrival :=
  ⟨⟨.get, target, [], []⟩, [], (creation sentCustomer []).now⟩

theorem viewing_asksFor : (viewing "/api/customers/c-1").request.AsksFor "c-1" := by
  have hall : ("c-1".toList.all fun c => decide (c.toNat < 0x80 ∧ c ≠ '%')) = true := by decide +kernel
  have hplain : ∀ c ∈ "c-1".toList, c.toNat < 0x80 ∧ c ≠ '%' :=
    fun c hc => of_decide_eq_true (List.all_eq_true.1 hall c hc)
  exact ⟨rfl, "c-1".toList, by decide +kernel, by decide, by decide, Endpoint.segmentText?_of_plain hplain⟩

/-- a customer that is added to an empty bank is shown under its id -/
theorem created_customer_is_kept_sent :
    ∃ (r s : Response) (b : Bank) (c : Customer), Api.respond .empty (creation sentCustomer ["c-1"]) = some (r, b) ∧
      r.body = .json (Entity.toJson c) ∧ c.id = "c-1" ∧
      Api.respond b (viewing "/api/customers/c-1") = some (s, b) ∧ s.body = r.body := by
  obtain ⟨v, hv, haccepted⟩ := (Api.readProfile_reads_iff _).1 (Wire.exists_of_isOk creation_accepted)
  obtain ⟨r, b, c, hr, -, hbody, hid, -, -, -, -, hkept, -⟩ :=
    created_customer_is_kept .empty creation_creates hv haccepted (Collection.exists_unused_of_empty "c-1")
  obtain ⟨s, hs, -, hshown⟩ := (hkept [] [] b rfl).shown (viewing "/api/customers/c-1") (by
    rw [List.mem_singleton.1 hid]
    exact viewing_asksFor)
  exact ⟨r, s, b, c, hr, hbody, List.mem_singleton.1 hid, hs, hshown.trans hbody.symm⟩

end MockBank
