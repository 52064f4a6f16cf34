/-
Requests one after another.  The bank is a list of customers to which requests append, next to four collections that no
request touches; what is refused leaves no trace.

- `JsonBody.read_eq_ok_iff`, `Api.readProfile_reads_iff`: which bodies become a profile.
- `Api.readProfile_refuses`: any other body is refused with problems of which each is one with the body.
- `Api.Outcome`: all that a request can do, one case each; `Api.respond_eq_some_iff` says that these are all cases and
  `Api.respond_eq_none_iff` when there is no answer.
- `Bank.Extended`: customers are appended and nothing else happens; one request does so (`Api.respond_extends`), and by
  induction a run of any length (`Api.run_extends`).
- `run_refines_list`: the whole run against the list of the customers that it answered.
-/
import MockBank.Api.Handler
import MockBank.Proofs.Decoding
import MockBank.Proofs.Growth
import MockBank.Proofs.Places

namespace MockBank

/-! ## The requests that add a customer -/

namespace Endpoint

/-- only one path leads to the customers as a whole -/
theorem ofPath?_eq_customers_iff (path : List Char) :
    ofPath? path = some .customers ↔ path = "/api/customers".toList := by
  constructor
  · intro h
    unfold ofPath? at h
    split at h
    · rename_i p hp
      have hmem := List.mem_of_find?_eq_some hp
      have hpath : p.1.toList = path := by simpa using List.find?_some hp
      have only : ∀ q ∈ fixedPaths, q.2 = .customers → q.1 = "/api/customers" := by decide
      rw [← hpath, only p hmem (Option.some.inj h)]
    · split at h
      · exact absurd (Option.some.inj h) nofun
      · obtain ⟨id, -, hid⟩ := Option.map_eq_some_iff.1 h
        exact absurd hid nofun
  · rintro rfl
    decide

end Endpoint

namespace Request

/-- asks to add a customer -/
def Creates (r : Request) : Prop :=
  r.method = .post ∧ r.path = "/api/customers".toList

instance (r : Request) : Decidable r.Creates :=
  inferInstanceAs (Decidable (_ ∧ _))

/-- is sent under a media type of documents -/
def HasJsonType (r : Request) : Prop :=
  ((r.header? "content-type").bind MediaType.read?).any MediaType.isJson = true

instance (r : Request) : Decidable r.HasJsonType :=
  inferInstanceAs (Decidable (_ = true))

end Request

/-- a body is read if its media type, its size and its text allow it -/
theorem JsonBody.read_eq_ok_iff (r : Request) (v : Json) :
    JsonBody.read r = .ok v ↔ r.HasJsonType ∧ r.body.length ≤ JsonBody.maxSize ∧ Json.read r.body = .ok v := by
  unfold JsonBody.read Request.HasJsonType
  by_cases htype : ((r.header? "content-type").bind MediaType.read?).any MediaType.isJson = true
  · by_cases hsize : r.body.length ≤ JsonBody.maxSize
    · rw [htype, Bool.not_true, if_neg Bool.false_ne_true, if_neg (Nat.not_lt.2 hsize), Wire.mapError_eq_ok_iff]
      simp [hsize]
    · rw [htype, Bool.not_true, if_neg Bool.false_ne_true, if_pos (Nat.lt_of_not_le hsize)]
      simp [hsize]
  · rw [Bool.not_eq_true] at htype
    simp [htype]

/-- a body that is not read has one problem, with the body as a whole -/
theorem JsonBody.read_eq_error {r : Request} {e : Rejection} (h : JsonBody.read r = .error e) :
    ∃ message, e = Rejection.ofBody message := by
  unfold JsonBody.read at h
  split at h
  · exact ⟨_, (Except.error.inj h).symm⟩
  · split at h
    · exact ⟨_, (Except.error.inj h).symm⟩
    · cases hread : Json.read r.body with
      | ok v =>
        rw [hread] at h
        exact absurd h nofun
      | error cause =>
        rw [hread] at h
        exact ⟨_, (Except.error.inj h).symm⟩

namespace Api

theorem readProfile_eq_ok_iff (r : Request) (p : Profile) :
    readProfile r = .ok p ↔ ∃ v, JsonBody.read r = .ok v ∧ Entity.decode Profile v = .ok p := by
  unfold readProfile
  cases hread : JsonBody.read r with
  | error e => exact iff_of_false nofun nofun
  | ok v => exact (Wire.mapError_eq_ok_iff ApiError.rejected _ p).trans (by simp)

/-- **A body becomes a profile exactly if it is a document that the table of customers accepts.** -/
theorem readProfile_reads_iff (r : Request) :
    (∃ p, readProfile r = .ok p) ↔ ∃ v, JsonBody.read r = .ok v ∧ Table.customer.validate v = .ok () := by
  have decodes : ∀ v, (∃ p, Entity.decode Profile v = .ok p) ↔ Table.customer.validate v = .ok () :=
    fun v => (Entity.decode_iff Profile.fits v).trans (iff_of_eq (and_true _))
  simp only [readProfile_eq_ok_iff, ← decodes]
  constructor
  · rintro ⟨p, v, hv, hp⟩
    exact ⟨v, hv, p, hp⟩
  · rintro ⟨v, hv, p, hp⟩
    exact ⟨p, v, hv, hp⟩

/-- **Any other body is refused with problems, all of them with the body.** -/
theorem readProfile_refuses {r : Request} {e : ApiError} (h : readProfile r = .error e) :
    ∃ issues, e = .rejected ⟨issues⟩ ∧ issues ≠ [] ∧ ∀ i ∈ issues, ∃ path, i.loc = "body" :: path := by
  unfold readProfile at h
  cases hread : JsonBody.read r with
  | error refused =>
    obtain ⟨message, rfl⟩ := JsonBody.read_eq_error hread
    rw [hread] at h
    exact ⟨_, (Except.error.inj h).symm, List.cons_ne_nil _ _, List.forall_mem_singleton.2 ⟨[], rfl⟩⟩
  | ok v =>
    rw [hread] at h
    have hdecode : (Entity.decode Profile v).mapError ApiError.rejected = .error e := h
    by_cases hissues : Table.customer.issues v = []
    · -- what the table accepts is decoded
      obtain ⟨p, hp⟩ := ((Entity.decode_iff Profile.fits v).trans (iff_of_eq (and_true _))).2
        ((Table.customer.validate_eq_ok_iff v).2 hissues)
      rw [hp] at hdecode
      exact absurd hdecode nofun
    · rw [Entity.decode_of_issues Profile v hissues] at hdecode
      refine ⟨Table.customer.issues v, (Except.error.inj hdecode).symm, hissues, ?_⟩
      intro i hi
      refine ⟨i.path.map Json.Segment.text, ?_⟩
      rw [Issue.loc, (FieldType.object .customer).origin_of_mem_issues v i hi]
      rfl

/-! ## All that a request can do -/

/-- what a request does to a bank, with the response to it -/
inductive Outcome (b : Bank) (a : Arrival) : Response → Bank → Prop where
  | other (r : Response) (not_creates : ¬ a.request.Creates) (shown : respond b a = some (r, b)) : Outcome b a r b
  | refused (e : ApiError) (creates : a.request.Creates) (unread : readProfile a.request = .error e) :
      Outcome b a (e.response.withHeaders (Cors.headers a.request)) b
  | created (p : Profile) (c : Customer) (b' : Bank) (left : List String) (creates : a.request.Creates)
      (read : readProfile a.request = .ok p)
      (added : Shelf.customers.insert? b a.ids (fun id => p.toCustomer id a.now) = some (c, b', left)) :
      Outcome b a ((Response.json 200 (Entity.toJson c)).withHeaders (Cors.headers a.request)) b'

/-- a request that adds no customer is answered, and the bank stays as it is -/
theorem respond_of_not_creates (b : Bank) {a : Arrival} (h : ¬ a.request.Creates) : ∃ r, respond b a = some (r, b) := by
  have routed : ∃ r, route b a = some (r, b) := by
    unfold route
    dsimp only
    split
    · exact ⟨_, rfl⟩
    · exact ⟨_, rfl⟩
    · exact ⟨_, rfl⟩
    · exact ⟨_, rfl⟩
    · rename_i hmethod hpath
      exact absurd ⟨hmethod, (Endpoint.ofPath?_eq_customers_iff _).1 hpath⟩ h
    · exact ⟨_, rfl⟩
  obtain ⟨r, hr⟩ := routed
  refine ⟨r.withHeaders (Cors.headers a.request), ?_⟩
  rw [respond, hr]
  rfl

theorem respond_of_creates (b : Bank) {a : Arrival} (h : a.request.Creates) :
    respond b a = (createCustomer b a).map fun p => (p.1.withHeaders (Cors.headers a.request), p.2) := by
  obtain ⟨hmethod, hpath⟩ := h
  have hendpoint := (Endpoint.ofPath?_eq_customers_iff a.request.path).2 hpath
  rw [respond, route]
  simp only [hmethod, hendpoint]

theorem createCustomer_of_error (b : Bank) {a : Arrival} {e : ApiError} (h : readProfile a.request = .error e) :
    createCustomer b a = some (e.response, b) := by
  rw [createCustomer, h]

theorem createCustomer_of_ok (b : Bank) {a : Arrival} {p : Profile} (h : readProfile a.request = .ok p) :
    createCustomer b a = (Shelf.customers.insert? b a.ids (fun id => p.toCustomer id a.now)).map fun x =>
      (.json 200 (Entity.toJson x.1), x.2.1) := by
  rw [createCustomer, h]
  rfl

/-- **All that a request can do.** -/
theorem respond_eq_some_iff (b : Bank) (a : Arrival) (r : Response) (b' : Bank) :
    respond b a = some (r, b') ↔ Outcome b a r b' := by
  constructor
  · intro h
    by_cases hc : a.request.Creates
    · rw [respond_of_creates b hc] at h
      cases hp : readProfile a.request with
      | error e =>
        rw [createCustomer_of_error b hp] at h
        obtain ⟨rfl, rfl⟩ := Prod.mk.inj (Option.some.inj h)
        exact .refused e hc hp
      | ok p =>
        rw [createCustomer_of_ok b hp, Option.map_map, Option.map_eq_some_iff] at h
        obtain ⟨⟨c, b'', left⟩, hadded, hparts⟩ := h
        obtain ⟨rfl, rfl⟩ := Prod.mk.inj hparts
        exact .created p c b'' left hc hp hadded
    · obtain ⟨r', hr'⟩ := respond_of_not_creates b hc
      obtain ⟨rfl, rfl⟩ := Prod.mk.inj (Option.some.inj (h.symm.trans hr'))
      exact .other r hc h
  · intro h
    cases h with
    | other _ _ shown => exact shown
    | refused e creates unread => rw [respond_of_creates b creates, createCustomer_of_error b unread]; rfl
    | created p c b' left creates read added =>
      rw [respond_of_creates b creates, createCustomer_of_ok b read, added]
      rfl

/-- there is no answer only if a customer is to be added and every candidate id is in use -/
theorem respond_eq_none_iff (b : Bank) (a : Arrival) :
    respond b a = none ↔ a.request.Creates ∧ (∃ p, readProfile a.request = .ok p) ∧
      ∀ id ∈ a.ids, b.customers.index.contains id = true := by
  by_cases hc : a.request.Creates
  · rw [respond_of_creates b hc]
    cases hp : readProfile a.request with
    | error e =>
      rw [createCustomer_of_error b hp]
      refine iff_of_false (by simp) ?_
      rintro ⟨-, ⟨p, hread⟩, -⟩
      exact absurd hread (by simp)
    | ok p =>
      rw [createCustomer_of_ok b hp]
      simp only [Option.map_eq_none_iff, Shelf.insert?, Collection.insert?_eq_none_iff, Shelf.read, hc, true_and,
        Except.ok.injEq, exists_eq']
  · obtain ⟨r, hr⟩ := respond_of_not_creates b hc
    rw [hr]
    exact iff_of_false nofun fun h => hc h.1

/-- a request is answered if one of the candidate ids is not in use -/
theorem exists_respond {b : Bank} {a : Arrival} (h : ∃ id ∈ a.ids, b.customers.index.contains id = false) :
    ∃ r b', respond b a = some (r, b') := by
  cases hr : respond b a with
  | some x => exact ⟨x.1, x.2, rfl⟩
  | none =>
    obtain ⟨id, hid, hunused⟩ := h
    have hused := ((respond_eq_none_iff b a).1 hr).2.2 id hid
    rw [hunused] at hused
    exact absurd hused Bool.false_ne_true

/-- only a request that adds a customer, and is answered with 200, changes the bank -/
theorem bank_eq_of_outcome {b b' : Bank} {a : Arrival} {r : Response} (h : Outcome b a r b')
    (hr : ¬ a.request.Creates ∨ r.status ≠ 200) : b' = b := by
  cases h with
  | other _ _ _ => rfl
  | refused _ _ _ => rfl
  | created p c b' left creates _ _ =>
    rcases hr with hr | hr
    · exact absurd creates hr
    · exact absurd rfl hr

end Api

/-! ## Runs -/

/-- customers are appended to a bank, and nothing else happens to it -/
structure Bank.Extended (b b' : Bank) (cs : List Customer) : Prop where
  customers : b'.customers = cs.foldl Collection.add b.customers
  accounts : b'.accounts = b.accounts
  cards : b'.cards = b.cards
  transactions : b'.transactions = b.transactions
  loans : b'.loans = b.loans

namespace Bank.Extended

theorem refl (b : Bank) : b.Extended b [] :=
  ⟨rfl, rfl, rfl, rfl, rfl⟩

theorem trans {b b' b'' : Bank} {cs ds : List Customer} (h : b.Extended b' cs) (h' : b'.Extended b'' ds) :
    b.Extended b'' (cs ++ ds) where
  customers := by rw [h'.customers, h.customers, List.foldl_append]
  accounts := h'.accounts.trans h.accounts
  cards := h'.cards.trans h.cards
  transactions := h'.transactions.trans h.transactions
  loans := h'.loans.trans h.loans

/-- the customers are listed behind those that were there before -/
theorem toList {b b' : Bank} {cs : List Customer} (h : b.Extended b' cs) :
    b'.customers.toList = b.customers.toList ++ cs := by
  have all : ∀ (cs : List Customer) (c : Collection Customer), (cs.foldl Collection.add c).toList = c.toList ++ cs := by
    intro cs
    induction cs with
    | nil => intro c; simp
    | cons d rest ih =>
      intro c
      rw [List.foldl_cons, ih, c.toList_add, List.append_assoc]
      rfl
  rw [h.customers, all]

end Bank.Extended

def Response.document? (r : Response) : Option Json :=
  match r.body with
  | .json v => some v
  | _ => none

namespace Api

/-- the documents that were answered with 200 to requests that add a customer, in order -/
def created (as : List Arrival) (rs : List Response) : List Json :=
  (as.zip rs).filterMap fun p => if p.1.request.Creates ∧ p.2.status = 200 then p.2.document? else none

/-- one request appends the customer that it answers, if it answers one -/
theorem respond_extends {b b' : Bank} {a : Arrival} {r : Response} (h : respond b a = some (r, b')) :
    ∃ cs, b.Extended b' cs ∧ cs.map Entity.toJson = created [a] [r] := by
  cases (respond_eq_some_iff b a r b').1 h with
  | other _ not_creates _ => exact ⟨[], .refl b, by simp [created, not_creates]⟩
  | refused e creates unread =>
    obtain ⟨issues, rfl, -, -⟩ := readProfile_refuses unread
    exact ⟨[], .refl b, by simp [created, ApiError.status]⟩
  | created p c b' left creates _ added =>
    obtain ⟨customers, hadded, rfl⟩ := Shelf.insert?_eq_some added
    obtain ⟨_, id, _, _, _, hrecord, hcollection⟩ := (Collection.insert?_eq_some_iff _ _ _ _).1 hadded
    refine ⟨[c], ⟨?_, rfl, rfl, rfl, rfl⟩, ?_⟩
    · show customers = Collection.add b.customers c
      rw [show c = _ from hrecord]
      exact hcollection
    · simp [created, creates, Response.document?]

theorem run_cons (b : Bank) (a : Arrival) (as : List Arrival) (rs : List Response) (b'' : Bank) :
    run b (a :: as) = some (rs, b'') ↔
      ∃ r b' rest, respond b a = some (r, b') ∧ run b' as = some (rest, b'') ∧ rs = r :: rest := by
  simp only [run, Option.bind_eq_bind, Option.bind_eq_some_iff, Prod.exists, Option.pure_def, Option.some.injEq,
    Prod.mk.injEq]
  constructor
  · rintro ⟨r, b', hr, rest, _, hrest, rfl, rfl⟩
    exact ⟨r, b', rest, hr, hrest, rfl⟩
  · rintro ⟨r, b', rest, hr, hrest, rfl⟩
    exact ⟨r, b', hr, rest, b'', hrest, rfl, rfl⟩

/-- **A run appends the customers that it answers**, whatever else is asked in between. -/
theorem run_extends {b b' : Bank} {as : List Arrival} {rs : List Response} (h : run b as = some (rs, b')) :
    rs.length = as.length ∧ ∃ cs, b.Extended b' cs ∧ cs.map Entity.toJson = created as rs := by
  induction as generalizing b rs with
  | nil =>
    obtain ⟨rfl, rfl⟩ := Prod.mk.inj (Option.some.inj h)
    exact ⟨rfl, [], .refl b, rfl⟩
  | cons a as ih =>
    obtain ⟨r, b1, rest, hr, hrest, rfl⟩ := (run_cons b a as rs b').1 h
    obtain ⟨hlength, later, hlater, hlaterDocs⟩ := ih hrest
    obtain ⟨now, hnow, hnowDocs⟩ := respond_extends hr
    refine ⟨by simp [hlength], now ++ later, hnow.trans hlater, ?_⟩
    have split : created (a :: as) (r :: rest) = created [a] [r] ++ created as rest := by
      rw [created, List.zip_cons_cons, ← List.singleton_append, List.filterMap_append]
      rfl
    rw [List.map_append, hnowDocs, hlaterDocs, split]

/-- **A run is cut short only at a request that adds a customer and finds every candidate id in use.** -/
theorem run_eq_none_iff (b : Bank) (as : List Arrival) :
    run b as = none ↔ ∃ before a after rs b', as = before ++ a :: after ∧ run b before = some (rs, b') ∧
      respond b' a = none := by
  induction as generalizing b with
  | nil => exact iff_of_false nofun fun ⟨before, a, after, _, _, h, _⟩ => by simp at h
  | cons a as ih =>
    cases hr : respond b a with
    | none =>
      have hrun : run b (a :: as) = none := by simp [run, hr]
      exact iff_of_true hrun ⟨[], a, as, [], b, rfl, rfl, hr⟩
    | some x =>
      obtain ⟨r, b1⟩ := x
      have hrun : run b (a :: as) = none ↔ run b1 as = none := by
        cases hrest : run b1 as <;> simp [run, hr, hrest]
      rw [hrun, ih b1]
      constructor
      · rintro ⟨before, x, after, rs, b', rfl, hbefore, hx⟩
        exact ⟨a :: before, x, after, r :: rs, b', rfl, (run_cons _ _ _ _ _).2 ⟨r, b1, rs, hr, hbefore, rfl⟩, hx⟩
      · rintro ⟨before, x, after, rs, b', has, hbefore, hx⟩
        cases before with
        | nil =>
          -- the first request is answered, so it is not the one without an answer
          obtain ⟨rfl, rfl⟩ := List.cons.inj has
          obtain ⟨rfl, rfl⟩ := Prod.mk.inj (Option.some.inj hbefore)
          exact absurd (hr.symm.trans hx) nofun
        | cons y before =>
          obtain ⟨rfl, rfl⟩ := List.cons.inj has
          obtain ⟨r', b2, rest, hr', hrest, rfl⟩ := (run_cons _ _ _ _ _).1 hbefore
          obtain ⟨rfl, rfl⟩ := Prod.mk.inj (Option.some.inj (hr.symm.trans hr'))
          exact ⟨before, x, after, rest, b', rfl, hrest, hx⟩

end Api

/-- **The bank is an append-only list of customers, and what fails changes nothing.** After a run the customers are
those of before and, in order, those that were answered with 200 to requests to add one; the other collections are as
they were.  A run goes through unless it comes to an acceptable customer while every candidate id is in use.  A request
that is answered with another status than 200, or that only asks to be shown something, leaves the bank as it is.  A
request to add a customer, sent as a document of admissible size, is answered with 200 exactly if its text is a document
that the table of customers accepts, and otherwise with 422 and with problems that are all with the body. -/
theorem run_refines_list :
    (∀ (b b' : Bank) (as : List Arrival) (rs : List Response), Api.run b as = some (rs, b') →
      rs.length = as.length ∧ ∃ cs : List Customer, b.Extended b' cs ∧
        b'.customers.toList = b.customers.toList ++ cs ∧ cs.map Entity.toJson = Api.created as rs) ∧
    (∀ (b : Bank) (as : List Arrival), Api.run b as = none ↔
      ∃ before a after rs b', as = before ++ a :: after ∧ Api.run b before = some (rs, b') ∧ a.request.Creates ∧
        (∃ v, JsonBody.read a.request = .ok v ∧ Table.customer.validate v = .ok ()) ∧
        ∀ id ∈ a.ids, b'.customers.index.contains id = true) ∧
    (∀ (b b' : Bank) (a : Arrival) (r : Response), Api.respond b a = some (r, b') →
      r.status ≠ 200 ∨ a.request.method = .get → b' = b) ∧
    ∀ (b b' : Bank) (a : Arrival) (r : Response), Api.respond b a = some (r, b') → a.request.Creates →
      a.request.HasJsonType → a.request.body.length ≤ JsonBody.maxSize →
      (r.status = 200 ↔ ∃ v, Json.read a.request.body = .ok v ∧ Table.customer.validate v = .ok ()) ∧
      (r.status ≠ 200 → r.status = 422 ∧ ∃ issues : List Issue, issues ≠ [] ∧
        r.body = .json (.object [("detail", .array (issues.map Issue.toJson))]) ∧
        ∀ i ∈ issues, ∃ path, i.loc = "body" :: path) := by
  refine ⟨?_, ?_, ?_, ?_⟩
  · intro b b' as rs h
    obtain ⟨hlength, cs, hext, hdocs⟩ := Api.run_extends h
    exact ⟨hlength, cs, hext, hext.toList, hdocs⟩
  · intro b as
    simp only [Api.run_eq_none_iff, Api.respond_eq_none_iff, Api.readProfile_reads_iff]
  · intro b b' a r h hr
    refine Api.bank_eq_of_outcome ((Api.respond_eq_some_iff b a r b').1 h) ?_
    rcases hr with hstatus | hget
    · exact .inr hstatus
    · exact .inl fun hc => absurd (hget.symm.trans hc.1) nofun
  · intro b b' a r h hc htype hsize
    have accepted_iff : (∃ v, Json.read a.request.body = .ok v ∧ Table.customer.validate v = .ok ()) ↔
        ∃ p, Api.readProfile a.request = .ok p := by
      simp only [Api.readProfile_reads_iff, JsonBody.read_eq_ok_iff, htype, hsize, true_and]
    rw [accepted_iff]
    cases (Api.respond_eq_some_iff b a r b').1 h with
    | other _ not_creates _ => exact absurd hc not_creates
    | refused e _ unread =>
      obtain ⟨issues, rfl, hne, hbody⟩ := Api.readProfile_refuses unread
      refine ⟨iff_of_false (by simp [ApiError.status]) ?_, fun _ => ⟨rfl, issues, hne, rfl, hbody⟩⟩
      rintro ⟨p, hp⟩
      exact absurd (unread.symm.trans hp) nofun
    | created p _ _ _ _ read _ => exact ⟨iff_of_true rfl ⟨p, read⟩, fun hne => absurd rfl hne⟩

/-- a customer as a client sends it: with an id of its own, a day written loosely, and the members in another order -/
def sentCustomer : String :=
  "\x7b\"id\":\"mine\",\"lastName\":\"Lovelace\",\"firstName\":\"Ada\",\"email\":\"ada@example.com\"," ++
    "\"dateOfBirth\":\" 1815-12 - 10\",\"address\":\x7b\"country\":\"GB\",\"city\":\"London\"," ++
    "\"street\":\"12 St James's Square\",\"postalCode\":\"SW1Y 4JH\"\x7d,\"customerType\":\"PERSONAL\"," ++
    "\"kycStatus\":\"PENDING\",\"riskProfile\":\"LOW\",\"status\":\"ACTIVE\"\x7d"

theorem leapDay_exists : Date.Exists 2024 2 29 := by
  decide

/-- a text sent to be added as a customer, on a leap day at half past nine -/
def creation (text : String) (ids : List String) : Arrival :=
  ⟨⟨.post, "/api/customers", [("Content-Type", "application/json")], text.toUTF8.toList⟩, ids,
    Date.at ⟨2024, 2, 29, leapDay_exists⟩ 9 30⟩

theorem creation_accepted : (Api.readProfile (creation sentCustomer ["c-1"]).request).isOk = true := by
  decide +kernel

theorem creation_creates : (creation sentCustomer ["c-1"]).request.Creates := by
  decide +kernel

/-- a customer is added to an empty bank, and a body that breaks off adds none -/
theorem run_refines_list_sent :
    ∃ r s b, Api.run .empty [creation sentCustomer ["c-1"], creation "[" []] = some ([r, s], b) ∧
      r.status = 200 ∧ s.status = 422 ∧
      ∃ c : Customer, b.customers.toList = [c] ∧ r.document? = some (Entity.toJson c) := by
  obtain ⟨happends, -, hunchanged, hstatus⟩ := run_refines_list
  -- the first request
  have hunused : ∃ id ∈ ["c-1"], Bank.empty.customers.index.contains id = false :=
    ⟨"c-1", List.mem_singleton.2 rfl, by simp [Bank.empty, Collection.empty]⟩
  obtain ⟨r, b, hr⟩ := Api.exists_respond (a := creation sentCustomer ["c-1"]) hunused
  have haccepted : ∃ v, Json.read (creation sentCustomer ["c-1"]).request.body = .ok v ∧
      Table.customer.validate v = .ok () := by
    obtain ⟨v, hv, hvalid⟩ := (Api.readProfile_reads_iff _).1 (Wire.exists_of_isOk creation_accepted)
    exact ⟨v, ((JsonBody.read_eq_ok_iff _ v).1 hv).2.2, hvalid⟩
  have hr200 : r.status = 200 :=
    (hstatus _ b _ r hr (by decide +kernel) (by decide +kernel) (by decide +kernel)).1.2 haccepted
  -- the second request
  have hbroken : (Json.read (creation "[" []).request.body).isOk = false := by decide +kernel
  have hunread : ¬ ∃ v, Json.read (creation "[" []).request.body = .ok v ∧ Table.customer.validate v = .ok () := by
    rintro ⟨v, hv, -⟩
    rw [hv] at hbroken
    exact absurd hbroken (by simp [Except.isOk, Except.toBool])
  obtain ⟨⟨s, b'⟩, hs⟩ : ∃ x, Api.respond b (creation "[" []) = some x := by
    refine Option.ne_none_iff_exists'.1 fun hnone => ?_
    obtain ⟨-, hread, -⟩ := (Api.respond_eq_none_iff _ _).1 hnone
    obtain ⟨v, hv, hvalid⟩ := (Api.readProfile_reads_iff _).1 hread
    exact hunread ⟨v, ((JsonBody.read_eq_ok_iff _ v).1 hv).2.2, hvalid⟩
  obtain ⟨hs_iff, hs_refused⟩ :=
    hstatus b b' _ s hs (by decide +kernel) (by decide +kernel) (by decide +kernel)
  have hs200 : s.status ≠ 200 := fun h => hunread (hs_iff.1 h)
  obtain rfl : b' = b := hunchanged b b' _ s hs (.inl hs200)
  -- both
  have hrun : Api.run .empty [creation sentCustomer ["c-1"], creation "[" []] = some ([r, s], b') :=
    (Api.run_cons _ _ _ _ _).2 ⟨r, b', [s], hr, (Api.run_cons _ _ _ _ _).2 ⟨s, b', [], hs, rfl, rfl⟩, rfl⟩
  obtain ⟨-, cs, -, hlist, hdocs⟩ := happends _ b' _ _ hrun
  have hcreates : (creation sentCustomer ["c-1"]).request.Creates := by decide +kernel
  have hanswered : ∃ c : Customer, r.document? = some (Entity.toJson c) := by
    cases (Api.respond_eq_some_iff _ _ _ _).1 hr with
    | other _ not_creates _ => exact absurd hcreates not_creates
    | refused e _ unread =>
      obtain ⟨issues, rfl, -, -⟩ := Api.readProfile_refuses unread
      exact absurd hr200 (by simp [ApiError.status])
    | created p c _ _ _ _ _ => exact ⟨c, rfl⟩
  obtain ⟨c, hc⟩ := hanswered
  have hcreated : Api.created [creation sentCustomer ["c-1"], creation "[" []] [r, s] = [Entity.toJson c] := by
    simp [Api.created, hcreates, hr200, hs200, hc]
  rw [hcreated] at hdocs
  obtain ⟨d, rfl, hd⟩ := List.map_eq_singleton_iff.1 hdocs
  exact ⟨r, s, b', hrun, hr200, (hs_refused hs200).1, d, hlist, hd ▸ hc⟩

end MockBank
