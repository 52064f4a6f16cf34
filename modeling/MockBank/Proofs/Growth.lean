/-
Collections that only grow.  A record goes to the end, under the first candidate id that is not in use; what is stored
neither moves nor changes.

- `Collection.insert?_eq_some_iff`, `Collection.insert?_eq_none_iff`: all that adding a record does.
- `Collection.Indexed`: the index holds every id at the position of its record, and nothing else.  Adding keeps it so
  (`Indexed.insert?`); hence ids are apart and an id leads to its record.
- `Shelf`: the five collections by name, so that what holds of all of them is said once.
- `Bank.Reachable`: the banks that adding records leads to, all of them indexed (`Reachable.indexed`).
- `Bank.Grows`: what is stored stays at its place; adding a record makes a bank grow (`Shelf.grows`).
-/
import MockBank.Store.Bank

namespace MockBank

/-! ## New ids -/

/-- the new id is the first candidate that is not in use -/
theorem firstUnused_eq_some_iff (used : String → Bool) (ids : List String) (id : String) (rest : List String) :
    firstUnused used ids = some (id, rest) ↔
      ∃ skipped, ids = skipped ++ id :: rest ∧ (∀ x ∈ skipped, used x = true) ∧ used id = false := by
  induction ids with
  | nil => simp [firstUnused]
  | cons x tail ih =>
    simp only [firstUnused]
    by_cases hx : used x = true
    · rw [if_pos hx, ih]
      constructor
      · rintro ⟨skipped, rfl, hskipped, hid⟩
        refine ⟨x :: skipped, rfl, ?_, hid⟩
        intro y hy
        rcases List.mem_cons.1 hy with rfl | hy
        · exact hx
        · exact hskipped y hy
      · rintro ⟨skipped, hids, hskipped, hid⟩
        cases skipped with
        | nil =>
          obtain ⟨rfl, -⟩ := List.cons.inj hids
          exact absurd hx (by simp [hid])
        | cons y skipped =>
          obtain ⟨-, rfl⟩ := List.cons.inj hids
          exact ⟨skipped, rfl, fun z hz => hskipped z (List.mem_cons_of_mem y hz), hid⟩
    · rw [if_neg hx]
      constructor
      · intro h
        obtain ⟨rfl, rfl⟩ := Prod.mk.inj (Option.some.inj h)
        exact ⟨[], rfl, fun y hy => absurd hy List.not_mem_nil, by simpa using hx⟩
      · rintro ⟨skipped, hids, hskipped, -⟩
        cases skipped with
        | nil =>
          obtain ⟨rfl, rfl⟩ := List.cons.inj hids
          rfl
        | cons y skipped =>
          obtain ⟨rfl, -⟩ := List.cons.inj hids
          exact absurd (hskipped x List.mem_cons_self) hx

theorem firstUnused_eq_none_iff (used : String → Bool) (ids : List String) :
    firstUnused used ids = none ↔ ∀ id ∈ ids, used id = true := by
  induction ids with
  | nil => simp [firstUnused]
  | cons x tail ih =>
    simp only [firstUnused, List.forall_mem_cons]
    by_cases hx : used x = true
    · rw [if_pos hx, ih]
      exact ⟨fun h => ⟨hx, h⟩, And.right⟩
    · rw [if_neg hx]
      exact ⟨nofun, fun h => absurd h.1 hx⟩

/-! ## One collection -/

namespace Collection

variable {α : Type} [Identified α]

def add (c : Collection α) (r : α) : Collection α :=
  ⟨c.rows.push r, c.index.insert (Identified.id r) c.size⟩

theorem toList_add (c : Collection α) (r : α) : (c.add r).toList = c.toList ++ [r] := by
  simp [add, toList]

/-- **All that adding a record does.** -/
theorem insert?_eq_some_iff (c : Collection α) (ids : List String) (build : String → α) (r : Inserted α) :
    c.insert? ids build = some r ↔
      ∃ skipped id, ids = skipped ++ id :: r.ids ∧ (∀ x ∈ skipped, c.index.contains x = true) ∧
        c.index.contains id = false ∧ r.record = build id ∧ r.collection = c.add (build id) := by
  simp only [insert?, Option.map_eq_some_iff, Prod.exists, firstUnused_eq_some_iff]
  constructor
  · rintro ⟨id, rest, ⟨skipped, hids, hskipped, hid⟩, rfl⟩
    exact ⟨skipped, id, hids, hskipped, hid, rfl, rfl⟩
  · rintro ⟨skipped, id, hids, hskipped, hid, hrecord, hcollection⟩
    refine ⟨id, r.ids, ⟨skipped, hids, hskipped, hid⟩, ?_⟩
    obtain ⟨record, collection, left⟩ := r
    subst hrecord hcollection
    rfl

theorem insert?_eq_none_iff (c : Collection α) (ids : List String) (build : String → α) :
    c.insert? ids build = none ↔ ∀ id ∈ ids, c.index.contains id = true := by
  simp only [insert?, Option.map_eq_none_iff, firstUnused_eq_none_iff]

/-- the index holds every id at the position of its record, and nothing else -/
def Indexed (c : Collection α) : Prop :=
  ∀ id position, c.index[id]? = some position ↔ ∃ r, c.rows[position]? = some r ∧ Identified.id r = id

theorem indexed_empty : (empty : Collection α).Indexed := by
  intro id position
  simp [empty]

/-- **A record under an id that is not in use leaves the index exact.** -/
theorem Indexed.add {c : Collection α} (h : c.Indexed) {r : α} (hr : c.index.contains (Identified.id r) = false) :
    (c.add r).Indexed := by
  have hnew : ∀ position, c.index[Identified.id r]? ≠ some position := by
    intro position hp
    rw [Std.HashMap.contains_eq_isSome_getElem?, hp] at hr
    exact absurd hr (by simp)
  intro id position
  have hindex : (c.add r).index[id]? = if Identified.id r = id then some c.rows.size else c.index[id]? := by
    simp only [Collection.add, size, Std.HashMap.getElem?_insert, beq_iff_eq]
  have hrow : (c.add r).rows[position]? = if position = c.rows.size then some r else c.rows[position]? := by
    simp only [Collection.add, Array.getElem?_push]
  rw [hindex, hrow]
  by_cases hp : position = c.rows.size
  · -- the last row: no id that was there before leads behind the old rows
    subst hp
    have hold : c.index[id]? ≠ some c.rows.size := by
      intro hi
      obtain ⟨s, hs, -⟩ := (h id _).1 hi
      simp at hs
    by_cases hid : Identified.id r = id
    · simp [hid]
    · simp [hid, hold]
  · by_cases hid : Identified.id r = id
    · subst hid
      have hnone := hnew position
      rw [ne_eq, h] at hnone
      rw [if_pos rfl, if_neg hp, Option.some.injEq]
      exact iff_of_false (fun e => hp e.symm) hnone
    · rw [if_neg hid, if_neg hp]
      exact h id position

theorem Indexed.insert? {c : Collection α} (h : c.Indexed) {ids : List String} {build : String → α}
    (hbuild : ∀ id, Identified.id (build id) = id) {r : Inserted α} (hr : c.insert? ids build = some r) :
    r.collection.Indexed := by
  obtain ⟨_, id, _, _, hid, _, hcollection⟩ := (c.insert?_eq_some_iff ids build r).1 hr
  rw [hcollection]
  refine h.add ?_
  rw [hbuild]
  exact hid

omit [Identified α] in
theorem mem_toList_iff (c : Collection α) (r : α) : r ∈ c.toList ↔ ∃ position : Nat, c.rows[position]? = some r := by
  rw [toList, Array.mem_toList_iff, Array.mem_iff_getElem?]

omit [Identified α] in
/-- what an id leads to is one of the records -/
theorem mem_of_get? {c : Collection α} {id : String} {r : α} (h : c.get? id = some r) : r ∈ c.toList := by
  obtain ⟨position, -, hrow⟩ := Option.bind_eq_some_iff.1 h
  exact (c.mem_toList_iff r).2 ⟨position, hrow⟩

/-- an id leads to its record -/
theorem Indexed.get?_eq_some_iff {c : Collection α} (h : c.Indexed) (id : String) (r : α) :
    c.get? id = some r ↔ r ∈ c.toList ∧ Identified.id r = id := by
  simp only [get?, Option.bind_eq_some_iff, mem_toList_iff]
  constructor
  · rintro ⟨position, hp, hr⟩
    obtain ⟨s, hs, hid⟩ := (h id position).1 hp
    obtain rfl := Option.some.inj (hs.symm.trans hr)
    exact ⟨⟨position, hr⟩, hid⟩
  · rintro ⟨⟨position, hr⟩, hid⟩
    exact ⟨position, (h id position).2 ⟨r, hr, hid⟩, hr⟩

/-- the ids in use are those of the records -/
theorem Indexed.contains_iff {c : Collection α} (h : c.Indexed) (id : String) :
    c.index.contains id = true ↔ ∃ r ∈ c.toList, Identified.id r = id := by
  rw [Std.HashMap.contains_eq_isSome_getElem?, Option.isSome_iff_exists]
  simp only [h id, mem_toList_iff]
  constructor
  · rintro ⟨position, r, hr, hid⟩
    exact ⟨r, ⟨position, hr⟩, hid⟩
  · rintro ⟨r, ⟨position, hr⟩, hid⟩
    exact ⟨position, r, hr, hid⟩

/-- two rows with one id are one row -/
theorem Indexed.position_unique {c : Collection α} (h : c.Indexed) {i j : Nat} {r s : α}
    (hi : c.toList[i]? = some r) (hj : c.toList[j]? = some s) (hid : Identified.id r = Identified.id s) : i = j := by
  rw [toList, Array.getElem?_toList] at hi hj
  have h1 := (h (Identified.id s) i).2 ⟨r, hi, hid⟩
  have h2 := (h (Identified.id s) j).2 ⟨s, hj, rfl⟩
  exact Option.some.inj (h1.symm.trans h2)

end Collection

/-! ## The five collections -/

/-- nothing is in use in an empty collection -/
theorem Collection.exists_unused_of_empty {α : Type} (id : String) :
    ∃ x ∈ [id], (Collection.empty : Collection α).index.contains x = false :=
  ⟨id, List.mem_singleton.2 rfl, by simp [empty]⟩

/-- the collections of a bank by name -/
inductive Shelf : Type → Type where
  | customers : Shelf Customer
  | accounts : Shelf Account
  | cards : Shelf Card
  | transactions : Shelf Transaction
  | loans : Shelf Loan

namespace Shelf

variable {α β : Type}

abbrev identified : Shelf α → Identified α
  | .customers => inferInstance
  | .accounts => inferInstance
  | .cards => inferInstance
  | .transactions => inferInstance
  | .loans => inferInstance

def read : Shelf α → Bank → Collection α
  | .customers, b => b.customers
  | .accounts, b => b.accounts
  | .cards, b => b.cards
  | .transactions, b => b.transactions
  | .loans, b => b.loans

def write : Shelf α → Bank → Collection α → Bank
  | .customers, b, c => { b with customers := c }
  | .accounts, b, c => { b with accounts := c }
  | .cards, b, c => { b with cards := c }
  | .transactions, b, c => { b with transactions := c }
  | .loans, b, c => { b with loans := c }

def insert? (s : Shelf α) (b : Bank) (ids : List String) (build : String → α) : Option (α × Bank × List String) :=
  (@Collection.insert? α s.identified (s.read b) ids build).map fun r => (r.record, s.write b r.collection, r.ids)

theorem read_write (s : Shelf α) (b : Bank) (c : Collection α) : s.read (s.write b c) = c := by
  cases s <;> rfl

/-- writing to one shelf leaves the others as they are -/
theorem read_write_other (s : Shelf α) (t : Shelf β) (b : Bank) (c : Collection α) :
    (⟨α, s⟩ : Sigma Shelf) = ⟨β, t⟩ ∨ t.read (s.write b c) = t.read b := by
  cases s <;> cases t <;> first | exact .inl rfl | exact .inr rfl

/-- **All that adding a record to a bank does.** -/
theorem insert?_eq_some {s : Shelf α} {b b' : Bank} {ids left : List String} {build : String → α} {r : α}
    (h : s.insert? b ids build = some (r, b', left)) :
    ∃ c, @Collection.insert? α s.identified (s.read b) ids build = some ⟨r, c, left⟩ ∧ b' = s.write b c := by
  obtain ⟨inserted, hinserted, hparts⟩ := Option.map_eq_some_iff.1 h
  obtain ⟨rfl, rest⟩ := Prod.mk.inj hparts
  obtain ⟨rfl, rfl⟩ := Prod.mk.inj rest
  exact ⟨inserted.collection, hinserted, rfl⟩

end Shelf

namespace Bank

/-! Adding a record of each kind is adding it to the shelf of that kind. -/

theorem addCustomer?_eq_insert? (b : Bank) (ids : List String) (now : DateTime) (p : Profile) :
    b.addCustomer? ids now p = Shelf.customers.insert? b ids fun id => p.toCustomer id now := rfl

theorem addAccount?_eq_insert? (b : Bank) (ids : List String) (build : String → Account) :
    b.addAccount? ids build = Shelf.accounts.insert? b ids build := rfl

theorem addCard?_eq_insert? (b : Bank) (ids : List String) (build : String → Card) :
    b.addCard? ids build = Shelf.cards.insert? b ids build := rfl

theorem addTransaction?_eq_insert? (b : Bank) (ids : List String) (build : String → Transaction) :
    b.addTransaction? ids build = Shelf.transactions.insert? b ids build := rfl

theorem addLoan?_eq_insert? (b : Bank) (ids : List String) (build : String → Loan) :
    b.addLoan? ids build = Shelf.loans.insert? b ids build := rfl

/-- every index is exact -/
def Indexed (b : Bank) : Prop :=
  ∀ (α : Type) (s : Shelf α), @Collection.Indexed α s.identified (s.read b)

/-- the banks that adding records leads to; whoever builds a record uses the id that is given to it -/
inductive Reachable : Bank → Prop where
  | empty : Reachable .empty
  | insert {α : Type} (s : Shelf α) {b b' : Bank} {ids left : List String} {build : String → α} {r : α}
      (before : Reachable b) (build_id : ∀ id, s.identified.id (build id) = id)
      (inserted : s.insert? b ids build = some (r, b', left)) : Reachable b'

theorem indexed_empty : Bank.empty.Indexed := by
  intro α s
  cases s <;> exact Collection.indexed_empty

/-- **Adding a record leaves every index exact.** -/
theorem Indexed.insert? {α : Type} {s : Shelf α} {b b' : Bank} {ids left : List String} {build : String → α} {r : α}
    (h : b.Indexed) (hbuild : ∀ id, s.identified.id (build id) = id) (hr : s.insert? b ids build = some (r, b', left)) :
    b'.Indexed := by
  obtain ⟨c, hc, rfl⟩ := Shelf.insert?_eq_some hr
  intro β t
  rcases s.read_write_other t b c with ht | ht
  · obtain ⟨rfl, hst⟩ := Sigma.mk.inj ht
    obtain rfl := eq_of_heq hst
    rw [s.read_write]
    exact @Collection.Indexed.insert? α s.identified _ (h α s) _ _ hbuild _ hc
  · rw [ht]
    exact h β t

/-- **Every index of a reachable bank is exact.** -/
theorem Reachable.indexed {b : Bank} (h : b.Reachable) : b.Indexed := by
  induction h with
  | empty => exact indexed_empty
  | insert _ _ build_id inserted ih => exact ih.insert? build_id inserted

/-- what is stored stays at its place -/
def Grows (b b' : Bank) : Prop :=
  ∀ (α : Type) (s : Shelf α), (s.read b).toList <+: (s.read b').toList

theorem Grows.refl (b : Bank) : b.Grows b :=
  fun _ _ => List.prefix_refl _

theorem Grows.trans {b b' b'' : Bank} (h : b.Grows b') (h' : b'.Grows b'') : b.Grows b'' :=
  fun α s => (h α s).trans (h' α s)

end Bank

/-- adding a record makes a bank grow -/
theorem Shelf.grows {α : Type} {s : Shelf α} {b b' : Bank} {ids left : List String} {build : String → α} {r : α}
    (h : s.insert? b ids build = some (r, b', left)) : b.Grows b' := by
  obtain ⟨c, hc, rfl⟩ := Shelf.insert?_eq_some h
  intro β t
  rcases s.read_write_other t b c with h | h
  · obtain ⟨rfl, hst⟩ := Sigma.mk.inj h
    obtain rfl := eq_of_heq hst
    rw [s.read_write, @Collection.toList_insert? α s.identified _ _ _ _ hc]
    exact List.prefix_append _ _
  · simpa only [h] using List.prefix_refl _

end MockBank
