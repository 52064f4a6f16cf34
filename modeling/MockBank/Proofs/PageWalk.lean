/-
A collection read page by page while records are added.  Pages that are read one after another see different banks; as
records only go to the end, what the pages show together is the collection in its order, without gaps as far as it was
there when the walk began.

- `Walk.window_data`: a page is a window of the records that pass the test, its bounds taken in unbounded numbers.
- `Walk.run_grows`: each read sees a bank that has grown from the one that the read before it saw.
- `Walk.positions`, `Walk.walked_eq_positions`, `Walk.prefix_walked`, `Walk.walked_of_full`: windows of growing lists,
  by induction on the reads.
- `Walk.exists_positions`, `Walk.prefix_shown`, `Walk.shown_of_full`: the same of what a walk shows.
- `page_walk_is_complete`: any walk, with any records added before, between and after its reads.
-/
import MockBank.Proofs.Growth
import MockBank.Proofs.Paging

namespace MockBank

namespace Walk

variable {α : Type}

/-! ## Walks -/

/-- what happens during a walk: a record is added to some collection, or the next page is read -/
inductive Event : Type 1 where
  | insert {β : Type} (t : Shelf β) (ids : List String) (build : String → β)
  | read (r : PageRequest)

/-- a page that was read, and the bank that was there then -/
structure Sighting (α : Type) where
  bank : Bank
  request : PageRequest
  page : Page α

/-- the pages that are read while things happen to a bank; nothing comes of it when a record cannot be added -/
def run (s : Shelf α) (keep : α → Bool) (b : Bank) : List Event → Option (List (Sighting α) × Bank)
  | [] => some ([], b)
  | .read r :: rest =>
    (run s keep b rest).map fun p => (⟨b, r, (s.read b).page keep r⟩ :: p.1, p.2)
  | .insert t ids build :: rest =>
    match t.insert? b ids build with
    | none => none
    | some (_, b', _) => run s keep b' rest

/-- the records on a shelf that pass the test -/
def kept (s : Shelf α) (keep : α → Bool) (b : Bank) : List α :=
  (s.read b).toList.filter keep

theorem kept_grows {s : Shelf α} {keep : α → Bool} {b b' : Bank} (h : b.Grows b') : kept s keep b <+: kept s keep b' :=
  (h α s).filter keep

/-- **Each read sees a bank that has grown from the one before**, and shows the page of what passes the test there. -/
theorem run_grows {s : Shelf α} {keep : α → Bool} {b b' : Bank} {events : List Event} {walk : List (Sighting α)}
    (h : run s keep b events = some (walk, b')) :
    (∀ x ∈ walk, b.Grows x.bank ∧ x.page = (s.read x.bank).page keep x.request) ∧
      walk.Pairwise fun x y => x.bank.Grows y.bank := by
  induction events generalizing b walk with
  | nil =>
    obtain ⟨rfl, rfl⟩ := Prod.mk.inj (Option.some.inj h)
    exact ⟨fun x hx => absurd hx List.not_mem_nil, List.Pairwise.nil⟩
  | cons e rest ih =>
    cases e with
    | read r =>
      obtain ⟨⟨later, b1⟩, hlater, hparts⟩ := Option.map_eq_some_iff.1 h
      obtain ⟨rfl, rfl⟩ := Prod.mk.inj hparts
      obtain ⟨hsees, hpairs⟩ := ih hlater
      refine ⟨?_, List.pairwise_cons.2 ⟨fun y hy => (hsees y hy).1, hpairs⟩⟩
      intro x hx
      rcases List.mem_cons.1 hx with rfl | hx
      · exact ⟨.refl b, rfl⟩
      · exact hsees x hx
    | insert t ids build =>
      simp only [run] at h
      split at h
      · exact absurd h nofun
      · rename_i r b1 left hinsert
        obtain ⟨hsees, hpairs⟩ := ih h
        exact ⟨fun x hx => ⟨(Shelf.grows hinsert).trans (hsees x hx).1, (hsees x hx).2⟩, hpairs⟩

/-! ## Windows -/

/-- the `i`-th stretch of `l` items, counted from zero -/
def window (l i : Nat) (xs : List α) : List α :=
  (xs.drop (i * l)).take l

/-- **A page is a window.** The number of items before it may be beyond 64 bits; then the page is empty either way. -/
theorem window_data {items : List α} {keep : α → Bool} {r : PageRequest} {i : Nat} (hpage : r.page.toNat = i + 1)
    (hsize : items.length < 0x8000000000000000) :
    (paginate items keep r).data = window r.limit.toNat i (items.filter keep) := by
  have hoffset : r.offset.toNat = min (i * r.limit.toNat) 0xFFFFFFFFFFFFFFFF := by
    rw [r.toNat_offset, hpage, Nat.add_sub_cancel]
  have hkept : (items.filter keep).length < 0x8000000000000000 := Nat.lt_of_le_of_lt (List.length_filter_le _ _) hsize
  show ((items.filter keep).drop r.offset.toNat).take r.limit.toNat = _
  rw [hoffset, window]
  by_cases hsat : i * r.limit.toNat ≤ 0xFFFFFFFFFFFFFFFF
  · rw [Nat.min_eq_left hsat]
  · -- both offsets are behind the last item
    rw [List.drop_of_length_le (by omega), List.drop_of_length_le (by omega)]

/-- the windows of several lists in a row, the first of them the `i`-th one -/
def walked (l : Nat) : Nat → List (List α) → List α
  | _, [] => []
  | i, xs :: rest => window l i xs ++ walked l (i + 1) rest

/-- where the windows of lists of these lengths stand -/
def positions (l : Nat) : Nat → List Nat → List Nat
  | _, [] => []
  | i, n :: rest => List.range' (i * l) (min (n - i * l) l) ++ positions l (i + 1) rest

theorem le_of_mem_positions {l i p : Nat} {ns : List Nat} (h : p ∈ positions l i ns) : i * l ≤ p := by
  induction ns generalizing i with
  | nil => exact absurd h List.not_mem_nil
  | cons n rest ih =>
    rcases List.mem_append.1 h with h | h
    · exact (List.mem_range'_1.1 h).1
    · have hnext := ih h
      rw [Nat.succ_mul] at hnext
      omega

/-- the positions never go back -/
theorem pairwise_positions (l i : Nat) (ns : List Nat) : (positions l i ns).Pairwise (· < ·) := by
  induction ns generalizing i with
  | nil => exact List.Pairwise.nil
  | cons n rest ih =>
    refine List.pairwise_append.2 ⟨List.pairwise_lt_range' .., ih (i + 1), ?_⟩
    intro p hp q hq
    have hlast := (List.mem_range'_1.1 hp).2
    have hnext := le_of_mem_positions hq
    rw [Nat.succ_mul] at hnext
    omega

/-- a window of the beginning of a list stands where the list has it -/
theorem window_eq_positions {xs all : List α} (h : xs <+: all) (l i : Nat) :
    (window l i xs).map some = (List.range' (i * l) (min (xs.length - i * l) l)).map (all[·]?) := by
  refine List.ext_getElem? fun j => ?_
  by_cases hj : j < min (xs.length - i * l) l
  · have hlt : i * l + j < xs.length := by omega
    have hwindow : (window l i xs)[j]? = some xs[i * l + j] := by
      rw [window, List.getElem?_take_of_lt (by omega), List.getElem?_drop, List.getElem?_eq_getElem hlt]
    have hall : all[i * l + j]? = some xs[i * l + j] := by
      obtain ⟨rest, rfl⟩ := h
      rw [List.getElem?_append_left hlt, List.getElem?_eq_getElem hlt]
    have hrange : (List.range' (i * l) (min (xs.length - i * l) l))[j]? = some (i * l + j) := by
      rw [List.getElem?_range' hj, Nat.one_mul]
    rw [List.getElem?_map, List.getElem?_map, hwindow, hrange, Option.map_some, Option.map_some, hall]
  · have hshort : (window l i xs).length ≤ j := by
      rw [window, List.length_take, List.length_drop]
      omega
    rw [List.getElem?_eq_none (by simpa using hshort), List.getElem?_eq_none (by simp; omega)]

/-- what is shown stands, in order, at the positions of the windows -/
theorem walked_eq_positions {xss : List (List α)} {all : List α} (h : ∀ xs ∈ xss, xs <+: all) (l i : Nat) :
    (walked l i xss).map some = (positions l i (xss.map List.length)).map (all[·]?) := by
  induction xss generalizing i with
  | nil => rfl
  | cons xs rest ih =>
    have hrest : ∀ ys ∈ rest, ys <+: all := fun ys hys => h ys (List.mem_cons_of_mem xs hys)
    rw [walked, List.map_cons, positions, List.map_append, List.map_append, ih hrest,
      window_eq_positions (h xs List.mem_cons_self)]

/-- the stretch of a list from the `i`-th window on begins with the window -/
theorem window_append_drop (l i : Nat) (xs : List α) : window l i xs ++ xs.drop ((i + 1) * l) = xs.drop (i * l) := by
  have hnext : xs.drop ((i + 1) * l) = (xs.drop (i * l)).drop l := by
    rw [List.drop_drop, Nat.succ_mul]
  rw [window, hnext, List.take_append_drop]

/-- a full window stays when the list grows -/
theorem window_eq_of_full {xs ys : List α} {l i : Nat} (h : xs <+: ys) (hfull : (i + 1) * l ≤ xs.length) :
    window l i ys = window l i xs := by
  obtain ⟨more, rfl⟩ := h
  rw [Nat.succ_mul] at hfull
  have hdrop : i * l ≤ xs.length := by omega
  have htake : l ≤ (xs.drop (i * l)).length := by
    rw [List.length_drop]
    omega
  rw [window, window, List.drop_append_of_le_length hdrop, List.take_append_of_le_length htake]

/-- **None of the first items is missed.** Windows of lists that begin with `xs`, enough of them to hold it, show `xs`
before anything else. -/
theorem prefix_walked {xs : List α} {xss : List (List α)} (h : ∀ ys ∈ xss, xs <+: ys) {l i : Nat}
    (hlen : xs.length ≤ (i + xss.length) * l) : xs.drop (i * l) <+: walked l i xss := by
  induction xss generalizing i with
  | nil =>
    rw [List.length_nil, Nat.add_zero] at hlen
    rw [List.drop_of_length_le hlen]
    exact List.nil_prefix
  | cons ys rest ih =>
    have hys : xs <+: ys := h ys List.mem_cons_self
    have hrest : ∀ zs ∈ rest, xs <+: zs := fun zs hzs => h zs (List.mem_cons_of_mem ys hzs)
    rw [walked]
    by_cases hlast : xs.length ≤ (i + 1) * l
    · -- what is left of `xs` fits into this window
      have hfits : (xs.drop (i * l)).length ≤ l := by
        rw [Nat.succ_mul] at hlast
        rw [List.length_drop]
        omega
      have hwindow : xs.drop (i * l) <+: window l i ys := by
        obtain ⟨more, rfl⟩ := hys
        rw [window, List.drop_append, List.take_append, List.take_of_length_le hfits]
        exact List.prefix_append _ _
      exact hwindow.trans (List.prefix_append _ _)
    · -- this window is full, and the same in both lists
      have hcount : xs.length ≤ (i + 1 + rest.length) * l := by
        rwa [List.length_cons, Nat.add_comm rest.length 1, ← Nat.add_assoc] at hlen
      rw [window_eq_of_full hys (Nat.le_of_not_le hlast), ← window_append_drop l i xs]
      exact (List.prefix_append_right_inj _).2 (ih hrest hcount)

/-- **Full pages and a short one show everything** that the last list holds. -/
theorem walked_of_full {xss : List (List α)} {last : List α} (h : ∀ xs ∈ xss, xs <+: last) {l i : Nat}
    (hfull : ∀ j xs, xss[j]? = some xs → (window l (i + j) xs).length = l)
    (hshort : (window l (i + xss.length) last).length < l) : walked l i (xss ++ [last]) = last.drop (i * l) := by
  induction xss generalizing i with
  | nil =>
    have hend : last.drop ((i + 1) * l) = [] := by
      rw [List.length_nil, Nat.add_zero, window, List.length_take, List.length_drop] at hshort
      rw [List.drop_eq_nil_iff, Nat.succ_mul]
      omega
    rw [List.nil_append, walked, walked, List.append_nil, ← window_append_drop l i last, hend, List.append_nil]
  | cons xs rest ih =>
    have hxs : xs <+: last := h xs List.mem_cons_self
    have hrest : ∀ ys ∈ rest, ys <+: last := fun ys hys => h ys (List.mem_cons_of_mem xs hys)
    have hwindow : window l i xs = window l i last := by
      have hlen : (window l i xs).length = l := hfull 0 xs rfl
      rw [window, List.length_take, List.length_drop] at hlen
      rcases Nat.eq_zero_or_pos l with rfl | hpos
      · rw [window, window, List.take_zero, List.take_zero]
      · refine (window_eq_of_full hxs ?_).symm
        rw [Nat.succ_mul]
        omega
    have hlater : ∀ j ys, rest[j]? = some ys → (window l (i + 1 + j) ys).length = l := by
      intro j ys hj
      have hnext := hfull (j + 1) ys hj
      rwa [Nat.add_comm j 1, ← Nat.add_assoc] at hnext
    have hend : (window l (i + 1 + rest.length) last).length < l := by
      rwa [List.length_cons, Nat.add_comm rest.length 1, ← Nat.add_assoc] at hshort
    rw [List.cons_append, walked, ih hrest hlater hend, hwindow, window_append_drop]

/-! ## What a walk shows -/

/-- the records that a walk shows, page after page -/
def shown (walk : List (Sighting α)) : List α :=
  walk.flatMap fun x => x.page.data

/-- pages that are windows show what the windows of the banks hold -/
theorem shown_eq_walked {s : Shelf α} {keep : α → Bool} {l i : Nat} {walk : List (Sighting α)}
    (h : ∀ j x, walk[j]? = some x → x.page.data = window l (i + j) (kept s keep x.bank)) :
    shown walk = walked l i (walk.map fun x => kept s keep x.bank) := by
  induction walk generalizing i with
  | nil => rfl
  | cons x rest ih =>
    have hrest : ∀ j y, rest[j]? = some y → y.page.data = window l (i + 1 + j) (kept s keep y.bank) := by
      intro j y hj
      have hnext := h (j + 1) y hj
      rwa [Nat.add_comm j 1, ← Nat.add_assoc] at hnext
    have hx : x.page.data = window l i (kept s keep x.bank) := h 0 x rfl
    rw [List.map_cons, walked, ← ih hrest, ← hx]
    rfl

/-- each bank of a walk grows into the last one -/
theorem grows_last {walk : List (Sighting α)} (h : walk.Pairwise fun x y => x.bank.Grows y.bank) {last : Sighting α}
    (hlast : walk.getLast? = some last) : ∀ x ∈ walk, x.bank.Grows last.bank := by
  obtain ⟨before, rfl⟩ := List.getLast?_eq_some_iff.1 hlast
  intro x hx
  rcases List.mem_append.1 hx with hx | hx
  · exact (List.pairwise_append.1 h).2.2 x hx last List.mem_cons_self
  · rw [List.mem_singleton.1 hx]
    exact .refl _

/-- the first bank of a walk grows into each one -/
theorem first_grows {walk : List (Sighting α)} (h : walk.Pairwise fun x y => x.bank.Grows y.bank) {first : Sighting α}
    (hfirst : walk.head? = some first) : ∀ x ∈ walk, first.bank.Grows x.bank := by
  obtain ⟨rest, rfl⟩ := List.head?_eq_some_iff.1 hfirst
  intro x hx
  rcases List.mem_cons.1 hx with rfl | hx
  · exact .refl _
  · exact (List.pairwise_cons.1 h).1 x hx

/-- a bank that has grown from another one holds at least as many records of each kind -/
theorem size_le_of_grows {b b' : Bank} (h : b.Grows b') (s : Shelf α) : (s.read b).size ≤ (s.read b').size := by
  rw [Collection.size_eq_length_toList, Collection.size_eq_length_toList]
  exact (h α s).length_le

/-- the pages of a walk that asks for them in order are windows -/
theorem data_eq_window {s : Shelf α} {keep : α → Bool} {l : Nat} {b b' : Bank} {events : List Event}
    {walk : List (Sighting α)} (h : run s keep b events = some (walk, b'))
    (hasks : ∀ j x, walk[j]? = some x → x.request.page.toNat = j + 1 ∧ x.request.limit.toNat = l) {last : Sighting α}
    (hlast : walk.getLast? = some last) (hsize : (s.read last.bank).size < 0x8000000000000000) :
    ∀ j x, walk[j]? = some x → x.page.data = window l j (kept s keep x.bank) := by
  intro j x hj
  obtain ⟨hsees, hpairs⟩ := run_grows h
  have hx : x ∈ walk := List.mem_of_getElem? hj
  obtain ⟨hpage, hlimit⟩ := hasks j x hj
  have hxsize : (s.read x.bank).toList.length < 0x8000000000000000 := by
    rw [← Collection.size_eq_length_toList]
    exact Nat.lt_of_le_of_lt (size_le_of_grows (grows_last hpairs hlast x hx) s) hsize
  rw [(hsees x hx).2, ← hlimit]
  exact window_data hpage hxsize

section Windows

variable {s : Shelf α} {keep : α → Bool} {l : Nat} {walk : List (Sighting α)}
  (hdata : ∀ j x, walk[j]? = some x → x.page.data = window l j (kept s keep x.bank))

include hdata

theorem shown_eq_windows : shown walk = walked l 0 (walk.map fun x => kept s keep x.bank) :=
  shown_eq_walked fun j x hj => (hdata j x hj).trans (by rw [Nat.zero_add])

variable (hpairs : walk.Pairwise fun x y => x.bank.Grows y.bank)

include hpairs

/-- what is shown stands at increasing positions of what there is at the end -/
theorem exists_positions {last : Sighting α} (hlast : walk.getLast? = some last) :
    ∃ ps : List Nat, ps.Pairwise (· < ·) ∧ (shown walk).map some = ps.map fun p => (kept s keep last.bank)[p]? := by
  have hall : ∀ xs ∈ walk.map fun x => kept s keep x.bank, xs <+: kept s keep last.bank :=
    List.forall_mem_map.2 fun x hx => kept_grows (grows_last hpairs hlast x hx)
  refine ⟨positions l 0 ((walk.map fun x => kept s keep x.bank).map List.length), pairwise_positions .., ?_⟩
  rw [shown_eq_windows hdata]
  exact walked_eq_positions hall l 0

/-- enough pages show all that was there at the first read, and show it first -/
theorem prefix_shown {first : Sighting α} (hfirst : walk.head? = some first)
    (hcount : (kept s keep first.bank).length ≤ walk.length * l) : kept s keep first.bank <+: shown walk := by
  have hall : ∀ xs ∈ walk.map fun x => kept s keep x.bank, kept s keep first.bank <+: xs :=
    List.forall_mem_map.2 fun x hx => kept_grows (first_grows hpairs hfirst x hx)
  have hprefix := prefix_walked (i := 0) hall (l := l) (by rwa [List.length_map, Nat.zero_add])
  rwa [Nat.zero_mul, List.drop_zero, ← shown_eq_windows hdata] at hprefix

/-- full pages before one that is not full show exactly what there is at the end -/
theorem shown_of_full {last : Sighting α} (hlast : walk.getLast? = some last)
    (hfull : ∀ x ∈ walk.dropLast, x.page.data.length = l) (hshort : last.page.data.length < l) :
    shown walk = kept s keep last.bank := by
  obtain ⟨before, rfl⟩ := List.getLast?_eq_some_iff.1 hlast
  rw [List.dropLast_concat] at hfull
  have hall : ∀ xs ∈ before.map fun x => kept s keep x.bank, xs <+: kept s keep last.bank :=
    List.forall_mem_map.2 fun x hx => kept_grows (grows_last hpairs hlast x (List.mem_append_left _ hx))
  have hwindows : ∀ j xs, (before.map fun x => kept s keep x.bank)[j]? = some xs →
      (window l (0 + j) xs).length = l := by
    intro j xs hj
    rw [List.getElem?_map] at hj
    obtain ⟨x, hx, rfl⟩ := Option.map_eq_some_iff.1 hj
    have hlt := (List.getElem?_eq_some_iff.1 hx).1
    rw [Nat.zero_add, ← hdata j x (by rw [List.getElem?_append_left hlt, hx])]
    exact hfull x (List.mem_of_getElem? hx)
  have hend : (window l (0 + (before.map fun x => kept s keep x.bank).length)
      (kept s keep last.bank)).length < l := by
    rw [Nat.zero_add, List.length_map, ← hdata before.length last (by rw [List.getElem?_concat_length])]
    exact hshort
  rw [shown_eq_windows hdata, List.map_append, List.map_singleton, walked_of_full hall hwindows hend, Nat.zero_mul,
    List.drop_zero]

end Windows

end Walk

open Walk in
/-- **A walk over the pages is complete and shows nothing twice.**  The pages `1`, `2`, … of a collection are read, and
records are added before, between and after.  What the pages show together stands at increasing positions of the
collection as the last page saw it.  With enough pages for what was there at the first read, all of that is shown, and
before anything else; with full pages and a last one that is not full, exactly what is there at the end is shown.  The
totals do not decrease. -/
theorem page_walk_is_complete {α : Type} {s : Shelf α} {keep : α → Bool} {l : Nat} {b b' : Bank} {events : List Event}
    {walk : List (Sighting α)} {first last : Sighting α} (h : run s keep b events = some (walk, b'))
    (hasks : ∀ i x, walk[i]? = some x → x.request.page.toNat = i + 1 ∧ x.request.limit.toNat = l)
    (hfirst : walk.head? = some first) (hlast : walk.getLast? = some last)
    (hsize : (s.read last.bank).size < 0x8000000000000000) :
    (∃ ps : List Nat, ps.Pairwise (· < ·) ∧
      (shown walk).map some = ps.map fun p => (kept s keep last.bank)[p]?) ∧
    ((kept s keep first.bank).length ≤ walk.length * l → kept s keep first.bank <+: shown walk) ∧
    ((∀ x ∈ walk.dropLast, x.page.data.length = l) → last.page.data.length < l →
      shown walk = kept s keep last.bank) ∧
    (walk.map fun x => x.page.total).Pairwise (· ≤ ·) := by
  obtain ⟨hsees, hpairs⟩ := run_grows h
  have hdata := data_eq_window h hasks hlast hsize
  refine ⟨exists_positions hdata hpairs hlast, prefix_shown hdata hpairs hfirst, shown_of_full hdata hpairs hlast, ?_⟩
  rw [List.pairwise_map]
  refine hpairs.imp_of_mem fun {x y} hx hy hgrows => ?_
  rw [(hsees x hx).2, (hsees y hy).2]
  exact (kept_grows hgrows).length_le

theorem firstOfYear_exists : Date.Exists 2024 1 1 := by
  decide

def emptyCard (kind : CardType) (id : String) : Card :=
  ⟨id, "c-1", "a-1", kind, "4000000000000002", ⟨2024, 1, 1, firstOfYear_exists⟩, "100", .active, .ofNat false 0,
    .ofNat false 0, none, ⟨2024, 1, 1, firstOfYear_exists⟩⟩

def PageRequest.single (page : UInt64) (one_le_page : 1 ≤ page) : PageRequest :=
  ⟨page, 1, one_le_page, by decide, by decide⟩

/-- whether a card is a credit card -/
def isCredit (c : Card) : Bool :=
  c.cardType == .credit

/-- a walk over three pages, while more cards are issued -/
def creditWalk : List Walk.Event :=
  [.insert .cards ["k-1"] (emptyCard .credit), .read (.single 1 (by decide)),
    .insert .cards ["k-1", "k-2"] (emptyCard .debit), .insert .cards ["k-3"] (emptyCard .credit),
    .read (.single 2 (by decide)), .read (.single 3 (by decide))]

open Walk in
/-- what the walk sees of the credit cards -/
theorem run_creditWalk :
    ∃ walk b, run .cards isCredit .empty creditWalk = some (walk, b) ∧
      walk.map (·.request) = [.single 1 (by decide), .single 2 (by decide), .single 3 (by decide)] ∧
      walk.map (·.page.data.map Card.id) = [["k-1"], ["k-3"], []] ∧
      walk.map (·.bank.cards.size) = [1, 3, 3] := by
  have hlimit : ∀ n h, (PageRequest.single n h).limit.toNat = 1 := fun _ _ => rfl
  have hfirst : (PageRequest.single 1 (by decide)).offset.toNat = 0 := by decide
  have hsecond : (PageRequest.single 2 (by decide)).offset.toNat = 1 := by decide
  have hthird : (PageRequest.single 3 (by decide)).offset.toNat = 2 := by decide
  simp [run, creditWalk, Shelf.insert?, Collection.insert?, firstUnused, Shelf.read, Shelf.write, Bank.empty,
    Collection.empty, Identified.id, Collection.page, paginate, Collection.toList, isCredit, Collection.size,
    emptyCard, hlimit, hfirst, hsecond, hthird]

open Walk in
/-- three pages of one card each, the last of them empty, show the two credit cards -/
theorem page_walk_is_complete_cards :
    ∃ walk b last, run .cards isCredit .empty creditWalk = some (walk, b) ∧ walk.getLast? = some last ∧
      shown walk = kept .cards isCredit last.bank ∧ (shown walk).map Card.id = ["k-1", "k-3"] := by
  obtain ⟨walk, b, hrun, hrequests, hids, hsizes⟩ := run_creditWalk
  obtain ⟨x, walk, rfl, hx, hids⟩ := List.map_eq_cons_iff.1 hids
  obtain ⟨y, walk, rfl, hy, hids⟩ := List.map_eq_cons_iff.1 hids
  obtain ⟨z, walk, rfl, hz, hids⟩ := List.map_eq_cons_iff.1 hids
  obtain rfl := List.map_eq_nil_iff.1 hids
  simp only [List.map_cons, List.map_nil, List.cons.injEq, and_true] at hrequests hsizes
  have hasks : ∀ i w, [x, y, z][i]? = some w → w.request.page.toNat = i + 1 ∧ w.request.limit.toNat = 1 := by
    intro i w hw
    match i, hw with
    | 0, hw =>
      obtain rfl := Option.some.inj hw
      rw [hrequests.1]
      exact ⟨rfl, rfl⟩
    | 1, hw =>
      obtain rfl := Option.some.inj hw
      rw [hrequests.2.1]
      exact ⟨rfl, rfl⟩
    | 2, hw =>
      obtain rfl := Option.some.inj hw
      rw [hrequests.2.2]
      exact ⟨rfl, rfl⟩
  have hsmall : (Shelf.cards.read z.bank).size < 0x8000000000000000 := by
    rw [show (Shelf.cards.read z.bank).size = 3 from hsizes.2.2]
    decide
  obtain ⟨-, -, hcomplete, -⟩ := page_walk_is_complete hrun hasks rfl rfl hsmall
  have hfull : ∀ w ∈ [x, y, z].dropLast, w.page.data.length = 1 := by
    intro w hw
    rcases List.mem_cons.1 hw with rfl | hw
    · simpa using congrArg List.length hx
    · rw [List.mem_singleton.1 hw]
      simpa using congrArg List.length hy
  have hshort : z.page.data.length < 1 := by
    simpa using congrArg List.length hz
  refine ⟨[x, y, z], b, z, hrun, rfl, hcomplete hfull hshort, ?_⟩
  rw [shown, List.map_flatMap]
  simp only [List.flatMap_cons, List.flatMap_nil, hx, hy, hz, List.append_nil, List.cons_append, List.nil_append]

end MockBank
