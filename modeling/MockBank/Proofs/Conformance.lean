/-
What is published of the interface, and what the interface does.  Banks in service hold valid customers only, whatever
they are used for; every endpoint then shows what the operation published for it asks for.

- `Api.Lists`: a list shows records of its collection, or refuses the query.
- `Bank.InService`: the banks that filling, adding and requests lead to; their customers are valid (`InService.sound`).
- `OpenApi.published_of_operation?`: the operations that are published, and no others.
- `answers_conform`: every answer to a request that a published operation describes is promised by the operation.
-/
import MockBank.Proofs.Answers
import MockBank.Proofs.Seeding

namespace MockBank

open Definition (keyword? accepts)

/-! ## What lists show -/

namespace Api

variable {α : Type}

/-- a list shows records of a collection, or refuses the query -/
def Lists (list : Parameters → Except ApiError (Page α)) (c : Collection α) : Prop :=
  ∀ ps, (∃ e, list ps = .error (.query e)) ∨ ∃ p, list ps = .ok p ∧ ∀ a ∈ p.data, a ∈ c.toList

theorem mem_of_mem_page {c : Collection α} {keep : α → Bool} {r : PageRequest} {a : α} (h : a ∈ (c.page keep r).data) :
    a ∈ c.toList :=
  List.mem_of_mem_filter (List.mem_of_mem_drop (List.mem_of_mem_take h))

/-- a page of the records that pass a test which the parameters always give -/
theorem lists_of_filter {c : Collection α} {list : Parameters → Except ApiError (Page α)} (keep : Parameters → α → Bool)
    (h : ∀ ps, list ps = ((PageRequest.of ps.page ps.limit).map fun r => c.page (keep ps) r).mapError .query) :
    Lists list c := by
  intro ps
  rw [h]
  cases PageRequest.of ps.page ps.limit with
  | error e => exact .inl ⟨e, rfl⟩
  | ok r => exact .inr ⟨c.page (keep ps) r, rfl, fun a ha => mem_of_mem_page ha⟩

theorem lists_customers (b : Bank) : Lists (listCustomers b) b.customers := by
  refine lists_of_filter (fun _ _ => true) fun ps => ?_
  rw [listCustomers]
  cases PageRequest.of ps.page ps.limit <;> rfl

theorem lists_accounts (b : Bank) : Lists (listAccounts b) b.accounts := by
  refine lists_of_filter (fun ps => (HolderFilter.of (ps.text? "customer_id")).admitsAccount) fun ps => ?_
  rw [listAccounts]
  cases PageRequest.of ps.page ps.limit <;> rfl

theorem lists_cards (b : Bank) : Lists (listCards b) b.cards := by
  refine lists_of_filter (fun ps => (HolderFilter.of (ps.text? "customer_id")).admitsCard) fun ps => ?_
  rw [listCards]
  cases PageRequest.of ps.page ps.limit <;> rfl

theorem lists_loans (b : Bank) : Lists (listLoans b) b.loans := by
  refine lists_of_filter (fun ps => (LoanFilter.of (ps.text? "customer_id") (ps.text? "status")).admits) fun ps => ?_
  rw [listLoans]
  cases PageRequest.of ps.page ps.limit <;> rfl

theorem lists_transactions (b : Bank) : Lists (listTransactions b) b.transactions := by
  intro ps
  rw [listTransactions]
  cases PageRequest.of ps.page ps.limit with
  | error e => exact .inl ⟨e, rfl⟩
  | ok r =>
    cases TransactionFilter.of (ps.text? "account_id") (ps.text? "start_date") (ps.text? "end_date") with
    | error e => exact .inl ⟨e, rfl⟩
    | ok filter => exact .inr ⟨b.transactions.page filter.admits r, rfl, fun a ha => mem_of_mem_page ha⟩

end Api

namespace OpenApi

/-- a list of records under a query: the query is refused, or the answer is a page -/
theorem promises_list {α : Type} [Entity α] {name : String} {op : Json} (h200 : response? op 200 = some (pageOf name))
    (h422 : response? op 422 = some validationError)
    (hname : resolve (Table.referenceBase ++ ("Paginated" ++ name)) = some (envelope name))
    {list : Parameters → Except ApiError (Page α)} {c : Collection α} (hlist : Api.Lists list c)
    (hrecords : ∀ a ∈ c.toList, accepts .answer resolve (reference name) (Entity.toJson a) = true)
    (known : List String) (r : Request) : Promises op (Api.answerList known list r) := by
  have refused : ∀ e : QueryError, Promises op (ApiError.query e).response :=
    fun e => promises_issues h422 rfl [e.issue] rfl
  rw [Api.answerList]
  cases Parameters.read known r.query with
  | error e => exact refused e
  | ok ps =>
    show Promises op (Api.answer (Page.toJson Entity.toJson) (list ps))
    rcases hlist ps with ⟨e, he⟩ | ⟨p, hp, hdata⟩
    · rw [he]
      exact refused e
    · rw [hp]
      exact promises_document h200 (accepts_page hname fun a ha => hrecords a (hdata a ha))

end OpenApi

/-! ## Banks in service -/

namespace Bank

/-- every customer is valid -/
def Sound (b : Bank) : Prop :=
  ∀ c ∈ b.customers.toList, c.Valid

/-- the banks that come about in service: an empty one is filled with made-up records from any words and by any clock,
is given any transactions and loans, and answers any requests -/
inductive InService : Bank → Prop where
  | empty : InService .empty
  | populated {b : Bank} {ids : List String} {clock : Clock} {words left : Source} {f : Synthetic.Filling}
      (before : InService b) (filled : Synthetic.populate b ids clock words = some (f, left)) : InService f.bank
  | transaction {b b' : Bank} {ids left : List String} {build : String → Transaction} {t : Transaction}
      (before : InService b) (added : b.addTransaction? ids build = some (t, b', left)) : InService b'
  | loan {b b' : Bank} {ids left : List String} {build : String → Loan} {l : Loan}
      (before : InService b) (added : b.addLoan? ids build = some (l, b', left)) : InService b'
  | answered {b b' : Bank} {a : Arrival} {r : Response}
      (before : InService b) (answer : Api.respond b a = some (r, b')) : InService b'

theorem Sound.addCustomer? {b b' : Bank} {ids left : List String} {now : DateTime} {p : Profile} {c : Customer}
    (hb : b.Sound) (hp : p.Valid) (h : b.addCustomer? ids now p = some (c, b', left)) : b'.Sound := by
  rw [addCustomer?_eq_insert?] at h
  obtain ⟨-, -, hc, hlist⟩ := Api.customer_of_insert? h
  intro d hd
  rw [hlist] at hd
  rcases List.mem_append.1 hd with hd | hd
  · exact hb d hd
  · rw [List.mem_singleton.1 hd, hc]
    exact hp

/-- adding a record of another kind leaves the customers as they are -/
theorem Sound.insert?_other {α : Type} {s : Shelf α} {b b' : Bank} {ids left : List String} {build : String → α} {r : α}
    (hb : b.Sound) (hs : ∀ b c, (s.write b c).customers = b.customers) (h : s.insert? b ids build = some (r, b', left)) :
    b'.Sound := by
  obtain ⟨records, -, rfl⟩ := Shelf.insert?_eq_some h
  intro c hc
  rw [hs] at hc
  exact hb c hc

theorem sound_preserved : Synthetic.Preserved Sound where
  customer hb hp hadded := hb.addCustomer? hp hadded
  account hb _ hadded := by
    rw [addAccount?_eq_insert?] at hadded
    exact hb.insert?_other (fun _ _ => rfl) hadded
  card hb _ hadded := by
    rw [addCard?_eq_insert?] at hadded
    exact hb.insert?_other (fun _ _ => rfl) hadded

theorem Sound.respond {b b' : Bank} {a : Arrival} {r : Response} (hb : b.Sound) (h : Api.respond b a = some (r, b')) :
    b'.Sound :=
  Api.respond_relates (R := fun b b' => b.Sound → b'.Sound) (fun _ hb => hb)
    (fun hp inserted hb => hb.addCustomer? hp inserted) h hb

/-- **Whatever a bank is used for, its customers are valid.** -/
theorem InService.sound {b : Bank} (h : b.InService) : b.Sound := by
  induction h with
  | empty => exact fun c hc => absurd hc List.not_mem_nil
  | populated _ filled ih => exact Synthetic.ensures_populate sound_preserved ih _ _ _ _ _ filled
  | transaction _ added ih =>
    rw [addTransaction?_eq_insert?] at added
    exact ih.insert?_other (fun _ _ => rfl) added
  | loan _ added ih =>
    rw [addLoan?_eq_insert?] at added
    exact ih.insert?_other (fun _ _ => rfl) added
  | answered _ answer ih => exact ih.respond answer

end Bank

/-! ## Operations and endpoints -/

namespace OpenApi

open Definition

/-- something to read lists its own answers, and the one with issues -/
structure Reads (operation ok : Json) (others : List (String × Json)) : Prop where
  served : response? operation 200 = some ok
  issues : response? operation 422 = some validationError
  missing : response? operation 404 = Json.member? "404" others

/-- the only method of something to read is the one to read it -/
theorem reads_of_operation {tag summary name : String} {parameters : List Json} {ok op : Json}
    {others : List (String × Json)} {method : Method} (hname : method.operationName? = some name)
    (h : Json.member? name (operation tag summary parameters ok others) = some op) :
    method = .get ∧ Reads op ok others := by
  have hget : "get" = name := by
    by_contra hne
    rw [operation, Json.member?, if_neg hne] at h
    exact absurd h (by simp [Json.member?])
  subst hget
  rw [operation, Json.member?, if_pos rfl] at h
  obtain rfl := Option.some.inj h
  refine ⟨?_, rfl, rfl, rfl⟩
  cases method with
  | get => rfl
  | _ => exact absurd hname (by simp [Method.operationName?])

/-- the operations that are published, each with its path and its method -/
inductive Published (op : Json) : String → Method → Prop where
  | schemas (reads : Reads op (success (typed "object")) []) : Published op "/api/schemas" .get
  | schema (reads : Reads op (success (typed "object")) [("404", notFound)]) :
      Published op "/api/schemas/\x7bschema_name\x7d" .get
  | customers (reads : Reads op (pageOf "Customer") []) : Published op "/api/customers" .get
  | createCustomer (creates : op = OpenApi.createCustomer) : Published op "/api/customers" .post
  | customer (reads : Reads op (success (reference "Customer")) [("404", notFound)]) :
      Published op "/api/customers/\x7bcustomer_id\x7d" .get
  | accounts (reads : Reads op (pageOf "Account") []) : Published op "/api/accounts" .get
  | cards (reads : Reads op (pageOf "Card") []) : Published op "/api/cards" .get
  | transactions (reads : Reads op (pageOf "Transaction") []) : Published op "/api/transactions" .get
  | loans (reads : Reads op (pageOf "Loan") []) : Published op "/api/loans" .get

/-- the customers as a whole can be read, and one can be added to them -/
theorem published_customers {name : String} {op : Json} {method : Method} (hname : method.operationName? = some name)
    {tag summary : String} {parameters : List Json}
    (h : Json.member? name (operation tag summary parameters (pageOf "Customer") [] ++ [("post", createCustomer)]) =
      some op) : Published op "/api/customers" method := by
  rw [Json.member?_append] at h
  cases hread : Json.member? name (operation tag summary parameters (pageOf "Customer") []) with
  | some other =>
    rw [hread, Option.some_or] at h
    obtain rfl := Option.some.inj h
    obtain ⟨rfl, reads⟩ := reads_of_operation hname hread
    exact .customers reads
  | none =>
    rw [hread, Option.none_or] at h
    have hpost : "post" = name := by
      by_contra hne
      rw [Json.member?, if_neg hne] at h
      exact absurd h (by simp [Json.member?])
    subst hpost
    rw [Json.member?, if_pos rfl] at h
    have hmethod : method = .post := by
      cases method with
      | post => rfl
      | _ => exact absurd hname (by simp [Method.operationName?])
    subst hmethod
    exact .createCustomer (Option.some.inj h).symm

/-- **These operations are published, and no others.** -/
theorem published_of_operation? {template : String} {method : Method} {op : Json}
    (h : operation? template method = some op) : Published op template method := by
  obtain ⟨item, hitem, h⟩ := Option.bind_eq_some_iff.1 h
  obtain ⟨name, hname, h⟩ := Option.bind_eq_some_iff.1 h
  have hmem : (template, item) ∈ paths := Json.mem_of_member? hitem
  simp only [paths, List.mem_cons, Prod.mk.injEq, List.not_mem_nil, or_false] at hmem
  rcases hmem with ⟨rfl, rfl⟩ | ⟨rfl, rfl⟩ | ⟨rfl, rfl⟩ | ⟨rfl, rfl⟩ | ⟨rfl, rfl⟩ | ⟨rfl, rfl⟩ | ⟨rfl, rfl⟩ | ⟨rfl, rfl⟩
  · obtain ⟨rfl, reads⟩ := reads_of_operation hname h
    exact .schemas reads
  · obtain ⟨rfl, reads⟩ := reads_of_operation hname h
    exact .schema reads
  · exact published_customers hname h
  · obtain ⟨rfl, reads⟩ := reads_of_operation hname h
    exact .customer reads
  · obtain ⟨rfl, reads⟩ := reads_of_operation hname h
    exact .accounts reads
  · obtain ⟨rfl, reads⟩ := reads_of_operation hname h
    exact .cards reads
  · obtain ⟨rfl, reads⟩ := reads_of_operation hname h
    exact .transactions reads
  · obtain ⟨rfl, reads⟩ := reads_of_operation hname h
    exact .loans reads

/-! Paths that a template describes. -/

theorem Describes.fixed {template : String} {path : List Char} (h : Describes template path)
    (hfixed : Text.splitFirst '\x7b' template.toList = (template.toList, none)) : path = template.toList := by
  rw [Describes, hfixed] at h
  exact h

theorem describes_free_iff {template : String} {start rest : List Char}
    (hfree : Text.splitFirst '\x7b' template.toList = (start, some rest)) (path : List Char) :
    Describes template path ↔ ∃ segment text, path = start ++ segment ∧ segment ≠ [] ∧ '/' ∉ segment ∧
      Endpoint.segmentText? segment = some text := by
  rw [Describes, hfree]

theorem splitFirst_schema : Text.splitFirst '\x7b' "/api/schemas/\x7bschema_name\x7d".toList =
    ("/api/schemas/".toList, some "schema_name\x7d".toList) := rfl

theorem splitFirst_customer : Text.splitFirst '\x7b' "/api/customers/\x7bcustomer_id\x7d".toList =
    ("/api/customers/".toList, some "customer_id\x7d".toList) := rfl

end OpenApi

/-! ## Answers -/

namespace Api

open OpenApi

variable {b b' : Bank} {a : Arrival} {r : Response} {op : Json}

/-- an answer is promised if what its endpoint shows is -/
theorem promises_of_get {e : Endpoint} (h : respond b a = some (r, b')) (hmethod : a.request.method = .get)
    (hendpoint : Endpoint.ofPath? a.request.path = some e) (hview : Promises op (view b a.request e)) :
    Promises op r := by
  rw [respond_of_get b hmethod hendpoint] at h
  obtain ⟨rfl, -⟩ := Prod.mk.inj (Option.some.inj h)
  exact hview

/-- so it is if the path is all that its template describes -/
theorem promises_of_fixed {template : String} {e : Endpoint} (h : respond b a = some (r, b'))
    (hmethod : a.request.method = .get) (hpath : Describes template a.request.path)
    (hfixed : Text.splitFirst '\x7b' template.toList = (template.toList, none))
    (hendpoint : Endpoint.ofPath? template.toList = some e) (hview : Promises op (view b a.request e)) :
    Promises op r :=
  promises_of_get h hmethod ((congrArg Endpoint.ofPath? (hpath.fixed hfixed)).trans hendpoint) hview

/-- the answer about one customer -/
theorem promises_showCustomer (hb : b.Sound) (reads : Reads op (success (reference "Customer")) [("404", notFound)])
    (id : String) : Promises op (answer Entity.toJson (showCustomer b id)) := by
  rw [showCustomer]
  cases hget : b.customers.get? id with
  | some c => exact promises_document reads.served (Customer.accepted_answer (hb c (Collection.mem_of_get? hget)))
  | none => exact promises_notFound reads.missing "Customer"

/-- the answer about one table -/
theorem promises_showSchema (reads : Reads op (success (typed "object")) [("404", notFound)]) (name : String) :
    Promises op (answer Table.definition (showSchema name)) := by
  rw [showSchema]
  cases Registry.table? name with
  | some t =>
    exact promises_document reads.served
      (Definition.accepts_typed (by simp [Table.definition, Definition.typeNames]) (by simp [Table.definition]))
  | none => exact promises_notFound reads.missing "Schema"

/-- the answer to a request to add a customer -/
theorem promises_created (hb : b.Sound) (h : respond b a = some (r, b')) (hcreates : a.request.Creates) :
    Promises OpenApi.createCustomer r := by
  have hsound := hb.respond h
  cases (respond_eq_some_iff b a r b').1 h with
  | other _ not_creates _ => exact absurd hcreates not_creates
  | refused e _ unread =>
    obtain ⟨issues, rfl, -, -⟩ := readProfile_refuses unread
    exact promises_issues (e := .rejected ⟨issues⟩) rfl rfl issues rfl
  | created p c _ _ _ _ added =>
    obtain ⟨-, -, -, hlist⟩ := customer_of_insert? added
    have hc : c.Valid := hsound c (by rw [hlist]; exact List.mem_append_right _ List.mem_cons_self)
    exact promises_document rfl (Customer.accepted_answer hc)

end Api

open OpenApi in
/-- **Every answer is one that is published.**  Take any bank in service, an operation of the published document, and
a request with its method to a path that its template describes.  Then the status of the answer is listed under the
operation, and the body is a document that the schema published for that status accepts; there is no answer only if a
customer is to be added while every candidate id is in use.  The schemas require the members that they mark as
read-only, so an answer cannot lack them. -/
theorem answers_conform {b : Bank} (hb : b.InService) {template : String} {op : Json} {a : Arrival}
    (hop : operation? template a.request.method = some op) (hpath : Describes template a.request.path) :
    (∀ r b', Api.respond b a = some (r, b') → Promises op r) ∧
      (Api.respond b a = none → ∀ id ∈ a.ids, b.customers.index.contains id = true) ∧
      ∀ d ∈ schemas, ∀ p ∈ Definition.properties d.2, Definition.isSet "readOnly" p.2 = true →
        p.1 ∈ Definition.texts "required" d.2 := by
  refine ⟨?_, fun hnone => ((Api.respond_eq_none_iff b a).1 hnone).2.2, readOnly_required⟩
  intro r b' h
  have hsound := hb.sound
  generalize hmethod : a.request.method = method at hop
  cases published_of_operation? hop with
  | schemas reads =>
    exact Api.promises_of_fixed h hmethod hpath (by decide) rfl (promises_document reads.served
      (Definition.accepts_typed (by simp [Definition.typeNames]) (by simp)))
  | schema reads =>
    obtain ⟨segment, text, hsegment, hne, hslash, htext⟩ := (describes_free_iff splitFirst_schema _).1 hpath
    have hendpoint := (congrArg Endpoint.ofPath? hsegment).trans (Endpoint.ofPath?_schema hne hslash)
    refine Api.promises_of_get h hmethod hendpoint ?_
    simp only [Api.view, Api.withSegment, htext]
    exact Api.promises_showSchema reads text
  | customers reads =>
    exact Api.promises_of_fixed h hmethod hpath (by decide) rfl (promises_list reads.served reads.issues rfl
      (Api.lists_customers b) (fun c hc => Customer.accepted_answer (hsound c hc)) _ _)
  | createCustomer creates =>
    subst creates
    exact Api.promises_created hsound h ⟨hmethod, hpath.fixed (by decide)⟩
  | customer reads =>
    obtain ⟨segment, text, hsegment, hne, hslash, htext⟩ := (describes_free_iff splitFirst_customer _).1 hpath
    have hendpoint := (congrArg Endpoint.ofPath? hsegment).trans (Endpoint.ofPath?_customer hne hslash)
    refine Api.promises_of_get h hmethod hendpoint ?_
    simp only [Api.view, Api.withSegment, htext]
    exact Api.promises_showCustomer hsound reads text
  | accounts reads =>
    exact Api.promises_of_fixed h hmethod hpath (by decide) rfl (promises_list reads.served reads.issues rfl
      (Api.lists_accounts b) (fun x _ => x.accepted_answer) _ _)
  | cards reads =>
    exact Api.promises_of_fixed h hmethod hpath (by decide) rfl (promises_list reads.served reads.issues rfl
      (Api.lists_cards b) (fun x _ => x.accepted_answer) _ _)
  | transactions reads =>
    exact Api.promises_of_fixed h hmethod hpath (by decide) rfl (promises_list reads.served reads.issues rfl
      (Api.lists_transactions b) (fun x _ => x.accepted_answer) _ _)
  | loans reads =>
    exact Api.promises_of_fixed h hmethod hpath (by decide) rfl (promises_list reads.served reads.issues rfl
      (Api.lists_loans b) (fun x _ => x.accepted_answer) _ _)

open OpenApi in
/-- the list of the accounts of an empty bank that is filled by a clock that does not only rise -/
theorem answers_conform_filled :
    ∃ k f left op r, Synthetic.populate .empty (firstIds tally k) swinging (Source.cycle []) = some (f, left) ∧
      f.bank.accounts.toList ≠ [] ∧ f.bank.InService ∧ operation? "/api/accounts" .get = some op ∧
      Api.respond f.bank (viewing "/api/accounts") = some (r, f.bank) ∧ r.status = 200 ∧ Promises op r := by
  obtain ⟨k, f, left, holdings, ks, hf, hseeds⟩ := @Synthetic.exists_populate .empty swinging Bank.indexed_empty
    (by decide) (by decide) tally tally_unending (Source.cycle [])
  have hservice : f.bank.InService := .populated .empty hf
  have hhas : f.bank.accounts.toList ≠ [] := by
    obtain ⟨held, hheld⟩ := List.exists_mem_of_length_pos (Nat.lt_of_lt_of_eq (by decide) hseeds.ten.symm)
    obtain ⟨a, ha⟩ := List.exists_mem_of_length_pos (hseeds.holds held hheld).1
    rw [hseeds.accounts]
    exact List.ne_nil_of_mem (List.mem_append_right _ (List.mem_flatMap.2 ⟨held, hheld, ha⟩))
  obtain ⟨op, hop⟩ : ∃ op, operation? "/api/accounts" .get = some op := ⟨_, rfl⟩
  have hshown := Api.respond_of_get f.bank (g := viewing "/api/accounts") rfl (show _ = some .accounts by decide)
  have hstatus : (Api.view f.bank (viewing "/api/accounts").request .accounts).status = 200 := by
    have hquery : (viewing "/api/accounts").request.query = [] := by decide +kernel
    rw [Api.view, Api.answerList, hquery]
    rfl
  have hconform := answers_conform (a := viewing "/api/accounts") hservice hop
    (show (viewing "/api/accounts").request.path = _ by decide)
  exact ⟨k, f, left, op, _, hf, hhas, hservice, hop, hshown, hstatus, hconform.1 _ _ hshown⟩

end MockBank
