/-
A page found in one pass over the items.  The pass counts the items that pass the test and keeps those that fall on
the page; the count, and the place where the page begins, are words of 64 bits, and every step that could leave them
is checked.

- `Scan.step?`, `PageRequest.offset?`, `Scan.paginate?`: the pass.  What it has after some of the items depends on
  those of them alone that pass the test (`Scan.scanned`): one step is `Scan.step?_scanned`, the run
  `Scan.foldlM_scanned`.
- `Scan.paginate?_eq`: the pass finds the page, and fails only when it counts more items than there are words.
- `Scan.placed`: items by their places, in unbounded numbers; `Scan.placed_eq_window`: so many in a row.
- `pages_are_exact_windows`: which pages there are, and what they hold.
-/
import MockBank.Number.Checked
import MockBank.Proofs.PageWalk

namespace MockBank

open Checked

namespace PageRequest

/-- a request is made for a page number of at least one and a page size of one to a hundred, where they are given -/
theorem exists_of_iff (page limit : Option Int64) :
    (∃ r, of page limit = .ok r) ↔
      (∀ p, page = some p → 1 ≤ p.toInt) ∧ ∀ l, limit = some l → 1 ≤ l.toInt ∧ l.toInt ≤ 100 := by
  rw [← offences_eq_nil_iff]
  constructor
  · rintro ⟨r, hr⟩
    cases h : offences page limit with
    | nil => rfl
    | cons e rest =>
      rw [of_eq_error h] at hr
      cases hr
  · intro h
    obtain ⟨r, hr, -, -⟩ := of_eq_ok h
    exact ⟨r, hr⟩

/-- how many items come before a page; the page before it is found by a checked step -/
def offset? (r : PageRequest) : Option Nat := do
  let before ← sub? r.page.toNat 1
  return min (before * r.limit.toNat) (fullSize - 1)

/-- there is always a page number before the first -/
theorem offset?_eq (r : PageRequest) : r.offset? = some r.offset.toNat := by
  have hone : 1 ≤ r.page.toNat := UInt64.le_iff_toNat_le.1 r.one_le_page
  rw [offset?, sub?_of_le hone, toNat_offset]
  rfl

end PageRequest

/-- a pass over items: how many have passed the test so far, and those of them that fall on the page -/
structure Scan (α : Type) where
  count : Nat
  data : List α

namespace Scan

variable {α : Type}

/-! ## The pass -/

/-- one item more: if it passes the test it is counted, and kept if the page has begun and has room for it -/
def step? (keep : α → Bool) (offset limit : Nat) (s : Scan α) (a : α) : Option (Scan α) :=
  if keep a then do
    let count ← fit? fullSize (s.count + 1)
    return ⟨count, if offset ≤ s.count ∧ s.data.length < limit then s.data ++ [a] else s.data⟩
  else some s

/-- the page that one pass over the items finds -/
def paginate? (items : List α) (keep : α → Bool) (r : PageRequest) : Option (Page α) := do
  let offset ← r.offset?
  let s ← items.foldlM (step? keep offset r.limit.toNat) ⟨0, []⟩
  return ⟨s.data, s.count, r.page, r.limit⟩

/-- what the pass has when just these items have passed the test -/
def scanned (offset limit : Nat) (kept : List α) : Scan α :=
  ⟨kept.length, (kept.drop offset).take limit⟩

/-- one item more at the end of a list is on the page if the page has begun and has room for it -/
theorem take_drop_concat (kept : List α) (a : α) (offset limit : Nat) :
    ((kept ++ [a]).drop offset).take limit =
      if offset ≤ kept.length ∧ ((kept.drop offset).take limit).length < limit then (kept.drop offset).take limit ++ [a]
      else (kept.drop offset).take limit := by
  have hlength : ((kept.drop offset).take limit).length = min limit (kept.length - offset) := by
    rw [List.length_take, List.length_drop]
  by_cases hbegun : offset ≤ kept.length
  · rw [List.drop_append_of_le_length hbegun, List.take_append, List.length_drop, hlength]
    by_cases hroom : min limit (kept.length - offset) < limit
    · have hone : [a].take (limit - (kept.length - offset)) = [a] := by
        apply List.take_of_length_le
        rw [List.length_singleton]
        omega
      rw [if_pos ⟨hbegun, hroom⟩, hone]
    · have hfull : limit - (kept.length - offset) = 0 := by omega
      rw [if_neg fun h => hroom h.2, hfull, List.take_zero, List.append_nil]
  · rw [if_neg fun h => hbegun h.1, List.drop_of_length_le (by rw [List.length_append, List.length_singleton]; omega),
      List.drop_of_length_le (by omega)]

/-- **One step**: an item that passes the test goes to those that have, as long as they can be counted. -/
theorem step?_scanned (keep : α → Bool) (offset limit : Nat) (kept : List α) (a : α) :
    step? keep offset limit (scanned offset limit kept) a =
      if keep a then if kept.length + 1 < fullSize then some (scanned offset limit (kept ++ [a])) else none
      else some (scanned offset limit kept) := by
  unfold step?
  split
  · by_cases hfits : kept.length + 1 < fullSize
    · rw [if_pos hfits, scanned, fit?_of_lt hfits, scanned, take_drop_concat, List.length_append, List.length_singleton]
      rfl
    · rw [if_neg hfits, scanned, fit?_of_le (Nat.not_lt.1 hfits)]
      rfl
  · rfl

/-- **The whole pass**: what it has depends on the items that pass the test, and it fails if they cannot be counted. -/
theorem foldlM_scanned (keep : α → Bool) (offset limit : Nat) (items : List α) {kept : List α}
    (h : kept.length < fullSize) :
    items.foldlM (step? keep offset limit) (scanned offset limit kept) =
      if (kept ++ items.filter keep).length < fullSize then some (scanned offset limit (kept ++ items.filter keep))
      else none := by
  induction items generalizing kept with
  | nil =>
    rw [List.filter_nil, List.append_nil, if_pos h]
    rfl
  | cons a rest ih =>
    rw [List.foldlM_cons, step?_scanned]
    by_cases ha : keep a = true
    · have hconcat : kept ++ (a :: rest).filter keep = kept ++ [a] ++ rest.filter keep := by
        rw [List.filter_cons_of_pos ha, List.append_assoc, List.singleton_append]
      rw [if_pos ha, hconcat]
      by_cases hfits : kept.length + 1 < fullSize
      · rw [if_pos hfits]
        exact ih (by rwa [List.length_append, List.length_singleton])
      · have hmany : ¬ (kept ++ [a] ++ rest.filter keep).length < fullSize := by
          rw [List.length_append, List.length_append, List.length_singleton]
          omega
        rw [if_neg hfits, if_neg hmany]
        rfl
    · rw [if_neg ha, List.filter_cons_of_neg ha]
      exact ih h

/-- **The pass finds the page**, and fails only when it counts more items than there are words. -/
theorem paginate?_eq (items : List α) (keep : α → Bool) (r : PageRequest) :
    paginate? items keep r = if (items.filter keep).length < fullSize then some (paginate items keep r) else none := by
  have hstart : (⟨0, []⟩ : Scan α) = scanned r.offset.toNat r.limit.toNat [] := by
    rw [scanned, List.drop_nil, List.take_nil]
    rfl
  have hempty : ([] : List α).length < fullSize := by
    show 0 < fullSize
    decide
  have hrun := foldlM_scanned keep r.offset.toNat r.limit.toNat items hempty
  rw [← hstart, List.nil_append] at hrun
  rw [paginate?, r.offset?_eq]
  show (items.foldlM (step? keep r.offset.toNat r.limit.toNat) ⟨0, []⟩).bind _ = _
  rw [hrun]
  split <;> rfl

/-! ## Places -/

/-- the items at the places from one number up to another, which is not included; the first item is at place zero -/
def placed (low high : Nat) (items : List α) : List α :=
  (items.zipIdx.filter fun x => low ≤ x.2 ∧ x.2 < high).map Prod.fst

/-- places counted from `k` on -/
theorem placed_from (low high k : Nat) (items : List α) :
    ((items.zipIdx k).filter fun x => low ≤ x.2 ∧ x.2 < high).map Prod.fst =
      (items.drop (low - k)).take (high - max low k) := by
  induction items generalizing k with
  | nil => rw [List.drop_nil, List.take_nil]; rfl
  | cons a rest ih =>
    have hrest := ih (k + 1)
    rw [List.zipIdx_cons]
    by_cases hlow : low ≤ k
    · have hbegun : low - k = 0 ∧ low - (k + 1) = 0 := by omega
      rw [hbegun.2, List.drop_zero, Nat.max_eq_right (by omega)] at hrest
      rw [hbegun.1, List.drop_zero, Nat.max_eq_right hlow]
      by_cases hhigh : k < high
      · have hnext : high - k = high - (k + 1) + 1 := by omega
        rw [List.filter_cons_of_pos (by simpa using ⟨hlow, hhigh⟩), List.map_cons, hrest, hnext, List.take_succ_cons]
      · have hover : high - k = 0 ∧ high - (k + 1) = 0 := by omega
        rw [List.filter_cons_of_neg (by simpa using fun _ => Nat.not_lt.1 hhigh), hrest, hover.1, hover.2,
          List.take_zero, List.take_zero]
    · have hbefore : low - k = low - (k + 1) + 1 := by omega
      rw [List.filter_cons_of_neg (by simpa using fun h => absurd h hlow), hrest, hbefore, List.drop_succ_cons,
        Nat.max_eq_left (by omega), Nat.max_eq_left (by omega)]

/-- **The places of a page are a window.** -/
theorem placed_eq_window {p : Nat} (hp : 1 ≤ p) (l : Nat) (items : List α) :
    placed ((p - 1) * l) (p * l) items = Walk.window l (p - 1) items := by
  have hwidth : p * l - max ((p - 1) * l) 0 = l := by
    rw [Nat.max_eq_left (Nat.zero_le _), ← Nat.sub_mul, Nat.sub_sub_self hp, Nat.one_mul]
  rw [placed, placed_from, Nat.sub_zero, hwidth, Walk.window]

/-! ## Pages -/

/-- what the page with a number and a size shows, in unbounded numbers: the items that pass the test are counted, and
the page holds those whose places among them are its own; the pass in checked words finds this page -/
structure Shows (items : List α) (keep : α → Bool) (p l : Nat) (r : PageRequest) : Prop where
  checked : paginate? items keep r = some (paginate items keep r)
  total : (paginate items keep r).total = items.countP keep
  data : (paginate items keep r).data = placed ((p - 1) * l) (p * l) (items.filter keep)
  length : (paginate items keep r).data.length =
    min l ((paginate items keep r).total - min (paginate items keep r).total ((p - 1) * l))
  page : (paginate items keep r).page.toNat = p
  limit : (paginate items keep r).limit.toNat = l

theorem shows_of_request {items : List α} (hsize : items.length < 0x8000000000000000) (keep : α → Bool)
    (r : PageRequest) : Shows items keep r.page.toNat r.limit.toNat r := by
  have hone : 1 ≤ r.page.toNat := UInt64.le_iff_toNat_le.1 r.one_le_page
  have hkept : (items.filter keep).length < fullSize :=
    Nat.lt_trans (Nat.lt_of_le_of_lt (List.length_filter_le _ _) hsize) (by decide)
  have hwindow : (paginate items keep r).data = Walk.window r.limit.toNat (r.page.toNat - 1) (items.filter keep) :=
    Walk.window_data (Nat.sub_add_cancel hone).symm hsize
  have htotal : (paginate items keep r).total = (items.filter keep).length := rfl
  refine ⟨?_, ?_, ?_, ?_, rfl, rfl⟩
  · rw [paginate?_eq, if_pos hkept]
  · rw [htotal, List.countP_eq_length_filter]
  · rw [hwindow, placed_eq_window hone]
  · rw [hwindow, htotal, Walk.window, List.length_take, List.length_drop]
    omega

end Scan

open Scan in
/-- **Pages are exact windows, and no number on the way to them leaves its word.**  There is a page for every number
of at least one and every size of one to a hundred, and for no other; without a number it is the first page, without a
size there are twenty items on it.  It holds the items that pass the test at the places from `(p - 1) * l` up to `p *
l`, in unbounded numbers, also where the word for the first of these places is too small, and tells how many pass the
test in all. -/
theorem pages_are_exact_windows {α : Type} {items : List α} (hsize : items.length < 0x8000000000000000)
    (keep : α → Bool) (page limit : Option Int64) :
    ((∃ r, PageRequest.of page limit = .ok r) ↔
      (∀ p, page = some p → 1 ≤ p.toInt) ∧ ∀ l, limit = some l → 1 ≤ l.toInt ∧ l.toInt ≤ 100) ∧
    ∀ r, PageRequest.of page limit = .ok r →
      Shows items keep (PageRequest.numberOr 1 page) (PageRequest.numberOr 20 limit) r := by
  refine ⟨PageRequest.exists_of_iff page limit, ?_⟩
  intro r hr
  have hfine := (PageRequest.offences_eq_nil_iff page limit).2 ((PageRequest.exists_of_iff page limit).1 ⟨r, hr⟩)
  obtain ⟨r', hr', hpage, hlimit⟩ := PageRequest.of_eq_ok hfine
  obtain rfl := Except.ok.inj (hr.symm.trans hr')
  rw [← hpage, ← hlimit]
  exact shows_of_request hsize keep r

def isEven (n : Nat) : Bool :=
  n % 2 == 0

open Scan in
/-- of the even numbers below ten the second page of two holds two; the last page that can be asked for is empty -/
theorem pages_are_exact_windows_even :
    (∃ r, PageRequest.of (some 2) (some 2) = .ok r ∧ (paginate (List.range 10) isEven r).total = 5 ∧
      (paginate (List.range 10) isEven r).data = [4, 6]) ∧
    ∃ r, PageRequest.of (some 0x7FFFFFFFFFFFFFFF) (some 100) = .ok r ∧ (paginate (List.range 10) isEven r).total = 5 ∧
      (paginate (List.range 10) isEven r).data = [] ∧ (paginate? (List.range 10) isEven r).isSome = true := by
  have hsize : (List.range 10).length < 0x8000000000000000 := by decide
  constructor
  · obtain ⟨hmade, hshows⟩ := pages_are_exact_windows hsize isEven (some 2) (some 2)
    obtain ⟨r, hr⟩ := hmade.2 ⟨by rintro p ⟨⟩; decide, by rintro l ⟨⟩; decide⟩
    refine ⟨r, hr, (hshows r hr).total.trans (by decide), (hshows r hr).data.trans (by decide)⟩
  · obtain ⟨hmade, hshows⟩ := pages_are_exact_windows hsize isEven (some 0x7FFFFFFFFFFFFFFF) (some 100)
    obtain ⟨r, hr⟩ := hmade.2 ⟨by rintro p ⟨⟩; decide, by rintro l ⟨⟩; decide⟩
    have hdata : (paginate (List.range 10) isEven r).data = [] := (hshows r hr).data.trans (by decide)
    exact ⟨r, hr, (hshows r hr).total.trans (by decide), hdata, by rw [(hshows r hr).checked]; rfl⟩

end MockBank
