/-
The index of a collection, whatever ids it is offered.  Records are added one after another from one supply of
candidate ids, in which ids may repeat and may be in use already; each record takes the first candidate that is left
and not in use.

- `Spare`: a supply holds so many different ids that are not in use; it then serves as many records (`Spare.serve`), and
  a supply in which new ids keep coming up holds any number (`Unending.spare`).
- `Collection.Appended`: all that is true of a collection after one record more, given what it was before
  (`Indexed.appended`).
- `Collection.insertAll?_eq_none_iff`, `Collection.exists_insertAll?`: when a supply gives out, and when it does not.
- `Collection.Exact`: rows and index tell the same of every id (`Indexed.exact`).
- `index_is_exact`: any sequence of records.
-/
import MockBank.Proofs.PageWalk

namespace MockBank

/-! ## Supplies of ids -/

/-- a supply holds at least so many different ids that are not in use -/
def Spare (used : String → Prop) (ids : List String) (n : Nat) : Prop :=
  ∃ fresh : List String, fresh.Nodup ∧ n ≤ fresh.length ∧ ∀ id ∈ fresh, id ∈ ids ∧ ¬ used id

/-- new ids keep coming up -/
def Unending (ids : Nat → String) : Prop :=
  ∀ used : List String, ∃ k, ids k ∉ used

def firstIds (ids : Nat → String) (k : Nat) : List String :=
  (List.range k).map ids

theorem mem_firstIds {ids : Nat → String} {k : Nat} {id : String} : id ∈ firstIds ids k ↔ ∃ i < k, ids i = id := by
  simp [firstIds]

/-- **A supply serves a record and is one id shorter after it.** Some of the ids in use may be in use elsewhere. -/
theorem Spare.serve {used here : String → Prop} {ids : List String} {n : Nat} (h : Spare used ids (n + 1))
    (hhere : ∀ id, here id → used id) :
    (∃ id ∈ ids, ¬ here id) ∧ ∀ skipped id left, ids = skipped ++ id :: left → (∀ x ∈ skipped, here x) →
      Spare (fun x => used x ∨ x = id) left n := by
  obtain ⟨fresh, hnodup, hlength, hfresh⟩ := h
  refine ⟨?_, ?_⟩
  · cases fresh with
    | nil => exact absurd hlength (by simp)
    | cons id rest =>
      obtain ⟨hid, hunused⟩ := hfresh id List.mem_cons_self
      exact ⟨id, hid, fun hused => hunused (hhere id hused)⟩
  · rintro skipped id left rfl hskipped
    refine ⟨fresh.erase id, hnodup.erase id, ?_, ?_⟩
    · have := List.length_erase_le (a := id) (l := fresh)
      by_cases hid : id ∈ fresh
      · rw [List.length_erase_of_mem hid]
        omega
      · rw [List.erase_of_not_mem hid]
        omega
    · intro x hx
      have hne : x ≠ id := fun e => (hnodup.mem_erase_iff.1 hx).1 e
      obtain ⟨hmem, hunused⟩ := hfresh x (List.mem_of_mem_erase hx)
      refine ⟨?_, fun hused => hused.elim hunused hne⟩
      -- what is skipped is in use, so a fresh id comes behind
      rcases List.mem_append.1 hmem with hmem | hmem
      · exact absurd (hhere x (hskipped x hmem)) hunused
      · exact (List.mem_cons.1 hmem).resolve_left hne

/-- **New ids that keep coming up make any number of spare ones.** -/
theorem Unending.spare {ids : Nat → String} (h : Unending ids) (used : List String) (n : Nat) :
    ∃ k, Spare (· ∈ used) (firstIds ids k) n := by
  induction n with
  | zero => exact ⟨0, [], List.nodup_nil, Nat.le_refl _, fun id hid => absurd hid List.not_mem_nil⟩
  | succ n ih =>
    obtain ⟨k, fresh, hnodup, hlength, hfresh⟩ := ih
    obtain ⟨j, hj⟩ := h (used ++ fresh)
    rw [List.mem_append, not_or] at hj
    refine ⟨max k (j + 1), ids j :: fresh, List.nodup_cons.2 ⟨hj.2, hnodup⟩, by simpa using hlength, ?_⟩
    intro id hid
    rcases List.mem_cons.1 hid with rfl | hid
    · exact ⟨mem_firstIds.2 ⟨j, by omega, rfl⟩, hj.1⟩
    · obtain ⟨hmem, hunused⟩ := hfresh id hid
      obtain ⟨i, hi, rfl⟩ := mem_firstIds.1 hmem
      exact ⟨mem_firstIds.2 ⟨i, by omega, rfl⟩, hunused⟩

namespace Collection

variable {α : Type} [Identified α]

/-! ## One record -/

def ids (c : Collection α) : List String :=
  c.toList.map Identified.id

theorem Indexed.contains_iff_mem_ids {c : Collection α} (h : c.Indexed) (id : String) :
    c.index.contains id = true ↔ id ∈ c.ids := by
  rw [h.contains_iff, ids, List.mem_map]

/-- what is true of a collection after one record more: the record is under the first candidate that was not in use, and
comes last; it is found under its id, and every other id leads where it led before -/
structure Appended (c : Collection α) (candidates : List String) (build : String → α) (r : Inserted α) : Prop where
  first : ∃ skipped id, candidates = skipped ++ id :: r.ids ∧ (∀ x ∈ skipped, x ∈ c.ids) ∧ id ∉ c.ids ∧
    r.record = build id
  last : r.collection.toList = c.toList ++ [r.record]
  position : r.collection.index[Identified.id r.record]? = some c.size
  found : r.collection.get? (Identified.id r.record) = some r.record
  positions : ∀ id, id ≠ Identified.id r.record → r.collection.index[id]? = c.index[id]?
  others : ∀ id, id ≠ Identified.id r.record → r.collection.get? id = c.get? id

/-- **Adding a record to a collection with an exact index.** -/
theorem Indexed.appended {c : Collection α} (h : c.Indexed) {candidates : List String} {build : String → α}
    (hbuild : ∀ id, Identified.id (build id) = id) {r : Inserted α} (hr : c.insert? candidates build = some r) :
    c.Appended candidates build r := by
  have hindexed := h.insert? hbuild hr
  obtain ⟨skipped, id, hcandidates, hskipped, hid, hrecord, hcollection⟩ :=
    (c.insert?_eq_some_iff candidates build r).1 hr
  have hlast : r.collection.toList = c.toList ++ [r.record] := by
    rw [hcollection, c.toList_add, hrecord]
  have hindex : ∀ x, r.collection.index[x]? = if Identified.id r.record = x then some c.size else c.index[x]? := by
    intro x
    rw [hcollection, hrecord]
    simp only [Collection.add, Std.HashMap.getElem?_insert, beq_iff_eq]
  have hpositions : ∀ x, x ≠ Identified.id r.record → r.collection.index[x]? = c.index[x]? := by
    intro x hx
    rw [hindex, if_neg fun e => hx e.symm]
  refine ⟨⟨skipped, id, hcandidates, ?_, ?_, hrecord⟩, hlast, ?_, ?_, hpositions, ?_⟩
  · exact fun x hx => (h.contains_iff_mem_ids x).1 (hskipped x hx)
  · intro hmem
    rw [(h.contains_iff_mem_ids id).2 hmem] at hid
    exact absurd hid (by simp)
  · rw [hindex, if_pos rfl]
  · refine (hindexed.get?_eq_some_iff _ _).2 ⟨?_, rfl⟩
    rw [hlast]
    exact List.mem_append_right _ List.mem_cons_self
  · intro x hx
    -- a record with this id is one of those that were there before
    have hsame : ∀ s, r.collection.get? x = some s ↔ c.get? x = some s := by
      intro s
      rw [hindexed.get?_eq_some_iff, h.get?_eq_some_iff, hlast, List.mem_append, List.mem_singleton]
      constructor
      · rintro ⟨hs | rfl, hid⟩
        · exact ⟨hs, hid⟩
        · exact absurd hid.symm hx
      · rintro ⟨hs, hid⟩
        exact ⟨.inl hs, hid⟩
    exact Option.ext hsame

/-! ## Records one after another -/

/-- the records that are added one after another from one supply of candidates; nothing comes of it when a record finds
every candidate that is left in use -/
def insertAll? (c : Collection α) (candidates : List String) :
    List (String → α) → Option (List α × Collection α × List String)
  | [] => some ([], c, candidates)
  | build :: rest => do
    let r ← c.insert? candidates build
    let (later, c, left) ← insertAll? r.collection r.ids rest
    return (r.record :: later, c, left)

theorem insertAll?_cons_eq_some_iff (c : Collection α) (candidates : List String) (build : String → α)
    (rest : List (String → α)) (records : List α) (c' : Collection α) (left : List String) :
    c.insertAll? candidates (build :: rest) = some (records, c', left) ↔
      ∃ r later, c.insert? candidates build = some r ∧ r.collection.insertAll? r.ids rest = some (later, c', left) ∧
        records = r.record :: later := by
  simp only [insertAll?, Option.bind_eq_bind, Option.bind_eq_some_iff, Prod.exists, Option.pure_def, Option.some.injEq,
    Prod.mk.injEq]
  constructor
  · rintro ⟨r, hr, later, _, _, hlater, rfl, rfl, rfl⟩
    exact ⟨r, later, hr, hlater, rfl⟩
  · rintro ⟨r, later, hr, hlater, rfl⟩
    exact ⟨r, hr, later, c', left, hlater, rfl, rfl, rfl⟩

theorem insertAll?_append_eq_some_iff (c : Collection α) (candidates : List String) (before after : List (String → α))
    (records : List α) (c' : Collection α) (left : List String) :
    c.insertAll? candidates (before ++ after) = some (records, c', left) ↔
      ∃ earlier c₀ left₀ later, c.insertAll? candidates before = some (earlier, c₀, left₀) ∧
        c₀.insertAll? left₀ after = some (later, c', left) ∧ records = earlier ++ later := by
  induction before generalizing c candidates records with
  | nil =>
    constructor
    · exact fun h => ⟨[], c, candidates, records, rfl, h, rfl⟩
    · rintro ⟨_, _, _, later, hnone, hlater, rfl⟩
      obtain ⟨rfl, hrest⟩ := Prod.mk.inj (Option.some.inj hnone)
      obtain ⟨rfl, rfl⟩ := Prod.mk.inj hrest
      exact hlater
  | cons build before ih =>
    simp only [List.cons_append, insertAll?_cons_eq_some_iff, ih]
    constructor
    · rintro ⟨r, _, hr, ⟨earlier, c₀, left₀, later, hearlier, hlater, rfl⟩, rfl⟩
      exact ⟨r.record :: earlier, c₀, left₀, later, ⟨r, earlier, hr, hearlier, rfl⟩, hlater, rfl⟩
    · rintro ⟨_, c₀, left₀, later, ⟨r, earlier, hr, hearlier, rfl⟩, hlater, rfl⟩
      exact ⟨r, earlier ++ later, hr, ⟨earlier, c₀, left₀, later, hearlier, hlater, rfl⟩, rfl⟩

/-- an exact index stays exact, and the records come behind those that were there -/
theorem Indexed.insertAll? {c : Collection α} (h : c.Indexed) {candidates : List String} {builders : List (String → α)}
    (hbuild : ∀ build ∈ builders, ∀ id, Identified.id (build id) = id) {records : List α} {c' : Collection α}
    {left : List String} (hrun : c.insertAll? candidates builders = some (records, c', left)) :
    c'.Indexed ∧ c'.toList = c.toList ++ records ∧ records.length = builders.length := by
  induction builders generalizing c candidates records with
  | nil =>
    obtain ⟨rfl, hrest⟩ := Prod.mk.inj (Option.some.inj hrun)
    obtain ⟨rfl, -⟩ := Prod.mk.inj hrest
    exact ⟨h, (List.append_nil _).symm, rfl⟩
  | cons build rest ih =>
    obtain ⟨r, later, hr, hlater, rfl⟩ := (insertAll?_cons_eq_some_iff _ _ _ _ _ _ _).1 hrun
    have hthis := hbuild build List.mem_cons_self
    obtain ⟨hindexed, hlist, hlength⟩ :=
      ih (h.insert? hthis hr) (fun build hmem => hbuild build (List.mem_cons_of_mem _ hmem)) hlater
    refine ⟨hindexed, ?_, by simp [hlength]⟩
    rw [hlist, (h.appended hthis hr).last, List.append_assoc]
    rfl

/-- candidates behind those that are looked at do not matter -/
theorem insert?_append_candidates {c : Collection α} {candidates : List String} {build : String → α} {r : Inserted α}
    (h : c.insert? candidates build = some r) (more : List String) :
    c.insert? (candidates ++ more) build = some ⟨r.record, r.collection, r.ids ++ more⟩ := by
  obtain ⟨skipped, id, hcandidates, hskipped, hid, hrecord, hcollection⟩ := (c.insert?_eq_some_iff _ _ _).1 h
  refine (c.insert?_eq_some_iff _ _ _).2 ⟨skipped, id, ?_, hskipped, hid, hrecord, hcollection⟩
  rw [hcandidates, List.append_assoc]
  rfl

theorem insertAll?_append_candidates {c c' : Collection α} {candidates left : List String}
    {builders : List (String → α)} {records : List α} (h : c.insertAll? candidates builders = some (records, c', left))
    (more : List String) : c.insertAll? (candidates ++ more) builders = some (records, c', left ++ more) := by
  induction builders generalizing c candidates records with
  | nil =>
    obtain ⟨rfl, hrest⟩ := Prod.mk.inj (Option.some.inj h)
    obtain ⟨rfl, rfl⟩ := Prod.mk.inj hrest
    rfl
  | cons build rest ih =>
    obtain ⟨r, later, hr, hlater, rfl⟩ := (insertAll?_cons_eq_some_iff _ _ _ _ _ _ _).1 h
    exact (insertAll?_cons_eq_some_iff _ _ _ _ _ _ _).2
      ⟨_, later, insert?_append_candidates hr more, ih hlater, rfl⟩

/-- **A supply gives out only at a record that finds every candidate that is left in use.** -/
theorem Indexed.insertAll?_eq_none_iff {c : Collection α} (h : c.Indexed) (candidates : List String)
    {builders : List (String → α)} (hbuild : ∀ build ∈ builders, ∀ id, Identified.id (build id) = id) :
    c.insertAll? candidates builders = none ↔ ∃ before build after earlier c₀ left, builders = before ++ build :: after ∧
      c.insertAll? candidates before = some (earlier, c₀, left) ∧ ∀ id ∈ left, id ∈ c₀.ids := by
  induction builders generalizing c candidates with
  | nil => exact iff_of_false nofun fun ⟨before, _, _, _, _, _, hnil, _⟩ => by simp at hnil
  | cons build rest ih =>
    cases hr : c.insert? candidates build with
    | none =>
      have hused : ∀ id ∈ candidates, id ∈ c.ids := fun id hid =>
        (h.contains_iff_mem_ids id).1 ((c.insert?_eq_none_iff candidates build).1 hr id hid)
      have hrun : c.insertAll? candidates (build :: rest) = none := by
        simp [Collection.insertAll?, hr]
      exact iff_of_true hrun ⟨[], build, rest, [], c, candidates, rfl, rfl, hused⟩
    | some r =>
      have hrun : c.insertAll? candidates (build :: rest) = none ↔ r.collection.insertAll? r.ids rest = none := by
        cases hrest : r.collection.insertAll? r.ids rest <;> simp [Collection.insertAll?, hr, hrest]
      rw [hrun, ih (h.insert? (hbuild build List.mem_cons_self) hr) r.ids
        fun build hmem => hbuild build (List.mem_cons_of_mem _ hmem)]
      constructor
      · rintro ⟨before, other, after, earlier, c₀, left, rfl, hearlier, hused⟩
        exact ⟨build :: before, other, after, r.record :: earlier, c₀, left, rfl,
          (insertAll?_cons_eq_some_iff _ _ _ _ _ _ _).2 ⟨r, earlier, hr, hearlier, rfl⟩, hused⟩
      · rintro ⟨before, other, after, earlier, c₀, left, hsplit, hearlier, hused⟩
        cases before with
        | nil =>
          -- the first record finds an id, so it is not the one that finds none
          obtain ⟨rfl, hrest⟩ := Prod.mk.inj (Option.some.inj hearlier)
          obtain ⟨rfl, rfl⟩ := Prod.mk.inj hrest
          have hnone := (c.insert?_eq_none_iff candidates build).2 fun id hid =>
            (h.contains_iff_mem_ids id).2 (hused id hid)
          exact absurd (hr.symm.trans hnone) nofun
        | cons first before =>
          obtain ⟨rfl, rfl⟩ := List.cons.inj hsplit
          obtain ⟨r', later, hr', hlater, rfl⟩ := (insertAll?_cons_eq_some_iff _ _ _ _ _ _ _).1 hearlier
          obtain rfl := Option.some.inj (hr.symm.trans hr')
          exact ⟨before, other, after, later, c₀, left, rfl, hlater, hused⟩

/-- **Spare ids are enough for as many records.** -/
theorem Indexed.exists_insertAll? {c : Collection α} (h : c.Indexed) {candidates : List String}
    {builders : List (String → α)} (hbuild : ∀ build ∈ builders, ∀ id, Identified.id (build id) = id)
    (hspare : Spare (· ∈ c.ids) candidates builders.length) :
    ∃ records c' left, c.insertAll? candidates builders = some (records, c', left) := by
  induction builders generalizing c candidates with
  | nil => exact ⟨[], c, candidates, rfl⟩
  | cons build rest ih =>
    have hthis := hbuild build List.mem_cons_self
    obtain ⟨⟨id, hid, hunused⟩, hleft⟩ := hspare.serve fun _ hused => hused
    cases hr : c.insert? candidates build with
    | none =>
      have hused := (c.insert?_eq_none_iff candidates build).1 hr id hid
      exact absurd ((h.contains_iff_mem_ids id).1 hused) hunused
    | some r =>
      have happended := h.appended hthis hr
      obtain ⟨skipped, id, hcandidates, hskipped, -, hrecord⟩ := happended.first
      have hids : ∀ x, x ∈ r.collection.ids ↔ x ∈ c.ids ∨ x = id := by
        intro x
        simp only [ids, happended.last, List.map_append, List.mem_append, List.map_singleton, List.mem_singleton,
          hrecord, hthis]
      have hspare' : Spare (· ∈ r.collection.ids) r.ids rest.length := by
        simpa only [hids] using hleft skipped id r.ids hcandidates hskipped
      obtain ⟨later, c', left, hlater⟩ :=
        ih (h.insert? hthis hr) (fun build hmem => hbuild build (List.mem_cons_of_mem _ hmem)) hspare'
      exact ⟨r.record :: later, c', left, (insertAll?_cons_eq_some_iff _ _ _ _ _ _ _).2 ⟨r, later, hr, hlater, rfl⟩⟩

/-! ## Rows and index -/

/-- rows and index tell the same of every id -/
structure Exact (c : Collection α) : Prop where
  indexed : ∀ (id : String) (position : Nat),
    c.index[id]? = some position ↔ ∃ r, c.toList[position]? = some r ∧ Identified.id r = id
  distinct : c.ids.Nodup
  inBounds : ∀ (id : String) (position : Nat), c.index[id]? = some position → position < c.size
  found : ∀ id r, c.get? id = some r ↔ r ∈ c.toList ∧ Identified.id r = id

theorem Indexed.exact {c : Collection α} (h : c.Indexed) : c.Exact where
  indexed id position := by
    rw [h id position, toList]
    simp only [Array.getElem?_toList]
  distinct := by
    refine List.pairwise_map.2 (List.pairwise_iff_getElem.2 fun i j hi hj hij hsame => ?_)
    have := h.position_unique (List.getElem?_eq_getElem hi) (List.getElem?_eq_getElem hj) hsame
    omega
  inBounds id position hp := by
    obtain ⟨r, hr, -⟩ := (h id position).1 hp
    exact (Array.getElem?_eq_some_iff.1 hr).1
  found := h.get?_eq_some_iff

end Collection

open Collection in
/-- **The index is exact after any sequence of records.** The records use the ids that they are given; the candidates
may repeat and may be in use.  In the collection that comes of it the index holds every id at the position of its
record and nothing else, no two records have one id, no look-up leaves the rows, and an id leads to its record.  Each
record took the first candidate that was not in use, was appended, and changed nothing for the others.  Nothing comes
of a sequence only if a record finds every candidate that is left in use; candidates that are not looked at do not
matter, and a supply in which new ids keep coming up serves every sequence. -/
theorem index_is_exact {α : Type} [Identified α] {builders : List (String → α)}
    (hbuild : ∀ build ∈ builders, ∀ id, Identified.id (build id) = id) :
    (∀ candidates records c left, (empty : Collection α).insertAll? candidates builders = some (records, c, left) →
      c.Exact ∧ c.toList = records ∧ c.size = builders.length ∧
      (∀ before build after, builders = before ++ build :: after → ∃ earlier c₀ left₀ r,
        (empty : Collection α).insertAll? candidates before = some (earlier, c₀, left₀) ∧
        c₀.insert? left₀ build = some r ∧ records[before.length]? = some r.record ∧ c₀.Appended left₀ build r) ∧
      ∀ more, (empty : Collection α).insertAll? (candidates ++ more) builders = some (records, c, left ++ more)) ∧
    (∀ candidates, (empty : Collection α).insertAll? candidates builders = none ↔
      ∃ before build after earlier c₀ left, builders = before ++ build :: after ∧
        (empty : Collection α).insertAll? candidates before = some (earlier, c₀, left) ∧ ∀ id ∈ left, id ∈ c₀.ids) ∧
    ∀ ids, Unending ids → ∃ k records c left,
      (empty : Collection α).insertAll? (firstIds ids k) builders = some (records, c, left) := by
  refine ⟨?_, fun candidates => indexed_empty.insertAll?_eq_none_iff candidates hbuild, ?_⟩
  · intro candidates records c left hrun
    obtain ⟨hindexed, hlist, hlength⟩ := indexed_empty.insertAll? hbuild hrun
    rw [toList_empty, List.nil_append] at hlist
    refine ⟨hindexed.exact, hlist, ?_, ?_, insertAll?_append_candidates hrun⟩
    · rw [size_eq_length_toList, hlist, hlength]
    · rintro before build after rfl
      obtain ⟨earlier, c₀, left₀, later, hbefore, hafter, rfl⟩ := (insertAll?_append_eq_some_iff _ _ _ _ _ _ _).1 hrun
      obtain ⟨r, later, hr, -, rfl⟩ := (insertAll?_cons_eq_some_iff _ _ _ _ _ _ _).1 hafter
      obtain ⟨hindexed₀, -, hlength₀⟩ :=
        indexed_empty.insertAll? (fun build hmem => hbuild build (List.mem_append_left _ hmem)) hbefore
      have hthis : ∀ id, Identified.id (build id) = id := hbuild build (List.mem_append_right _ List.mem_cons_self)
      refine ⟨earlier, c₀, left₀, r, hbefore, hr, ?_, hindexed₀.appended hthis hr⟩
      rw [← hlength₀, List.getElem?_append_right (Nat.le_refl _), Nat.sub_self, List.getElem?_cons_zero]
  · intro ids hids
    obtain ⟨k, hspare⟩ := hids.spare [] builders.length
    exact ⟨k, indexed_empty.exists_insertAll? hbuild hspare⟩

/-- candidates that repeat -/
def repeatedIds : List String :=
  ["k-1", "k-1", "k-2", "k-1", "k-2", "k-3", "k-4"]

/-- three cards that are issued from the repeated candidates take an id each, and one candidate is left -/
theorem index_is_exact_cards :
    ∃ records c, (Collection.empty : Collection Card).insertAll? repeatedIds
        [emptyCard .credit, emptyCard .debit, emptyCard .credit] = some (records, c, ["k-4"]) ∧
      c.ids = ["k-1", "k-2", "k-3"] ∧ c.Exact ∧ c.size = 3 := by
  have hbuild : ∀ build ∈ [emptyCard .credit, emptyCard .debit, emptyCard .credit],
      ∀ id, Identified.id (build id) = id := by
    simp only [List.forall_mem_cons]
    exact ⟨fun _ => rfl, fun _ => rfl, fun _ => rfl, List.forall_mem_nil _⟩
  have hrun : ∃ records c, (Collection.empty : Collection Card).insertAll? repeatedIds
      [emptyCard .credit, emptyCard .debit, emptyCard .credit] = some (records, c, ["k-4"]) ∧
        records.map Card.id = ["k-1", "k-2", "k-3"] := by
    simp [Collection.insertAll?, Collection.insert?, firstUnused, repeatedIds, Collection.empty, Identified.id,
      emptyCard]
  obtain ⟨records, c, hrun, hids⟩ := hrun
  obtain ⟨hexact, hlist, hsize, -⟩ := (index_is_exact hbuild).1 _ _ _ _ hrun
  refine ⟨records, c, hrun, ?_, hexact, hsize⟩
  rw [Collection.ids, hlist]
  exact hids

end MockBank
