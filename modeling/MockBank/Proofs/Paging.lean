/-
What a page request asks for, in unbounded numbers.

- `PageRequest.offences`: what is wrong with a page number and a page size, the number first.
- `PageRequest.of_eq_error`, `PageRequest.of_eq_ok`: the first offence refuses the request; without one the numbers are
  those that are asked for, or the defaults.
- `PageRequest.toNat_offset`: how many items come before a page.
-/
import MockBank.Query.Page

namespace MockBank

namespace PageRequest

def pageOffences (page : Option Int64) : List QueryError :=
  match page with
  | none => []
  | some p => if p.toInt < 1 then [⟨"page", belowOne⟩] else []

def limitOffences (limit : Option Int64) : List QueryError :=
  match limit with
  | none => []
  | some l => if l.toInt < 1 then [⟨"limit", belowOne⟩] else if 100 < l.toInt then [⟨"limit", aboveMax⟩] else []

/-- what is wrong with a page number and a page size -/
def offences (page limit : Option Int64) : List QueryError :=
  pageOffences page ++ limitOffences limit

/-- nothing is wrong with a page number of at least one and a page size of one to a hundred, where they are given -/
theorem offences_eq_nil_iff (page limit : Option Int64) :
    offences page limit = [] ↔
      (∀ p, page = some p → 1 ≤ p.toInt) ∧ ∀ l, limit = some l → 1 ≤ l.toInt ∧ l.toInt ≤ 100 := by
  have hpage : pageOffences page = [] ↔ ∀ p, page = some p → 1 ≤ p.toInt := by
    cases page with
    | none => exact iff_of_true rfl nofun
    | some p =>
      simp only [pageOffences, Option.some.injEq, forall_eq', ite_eq_right_iff, List.cons_ne_nil, imp_false, Int.not_lt]
  have hlimit : limitOffences limit = [] ↔ ∀ l, limit = some l → 1 ≤ l.toInt ∧ l.toInt ≤ 100 := by
    cases limit with
    | none => exact iff_of_true rfl nofun
    | some l =>
      simp only [limitOffences, Option.some.injEq, forall_eq']
      split
      · exact iff_of_false (List.cons_ne_nil _ _) (by omega)
      · split
        · exact iff_of_false (List.cons_ne_nil _ _) (by omega)
        · exact iff_of_true rfl (by omega)
  rw [offences, List.append_eq_nil_iff, hpage, hlimit]

/-- the number that is asked for, or a default -/
def numberOr (default : Nat) (n : Option Int64) : Nat :=
  (n.map fun n => n.toInt.toNat).getD default

/-- a number that is at least one is the same as a word -/
theorem toNat_toUInt64 {n : Int64} (h : 1 ≤ n.toInt) : n.toUInt64.toNat = n.toInt.toNat := by
  have hzero : (0 : Int64) ≤ n := by
    rw [Int64.le_iff_toInt_le, Int64.toInt_zero]
    omega
  rw [Int64.toNat_toUInt64_of_le hzero, Int64.toNat_toInt]

theorem one_le_toUInt64 {n : Int64} (h : 1 ≤ n.toInt) : 1 ≤ n.toUInt64 := by
  rw [UInt64.le_iff_toNat_le, toNat_toUInt64 h]
  show 1 ≤ n.toInt.toNat
  omega

theorem one_le_iff (n : Int64) : 1 ≤ n ↔ 1 ≤ n.toInt := by
  rw [Int64.le_iff_toInt_le, Int64.toInt_one]

theorem lt_one_iff (n : Int64) : n < 1 ↔ n.toInt < 1 := by
  rw [Int64.lt_iff_toInt_lt, Int64.toInt_one]

/-- a page size that is at least one is small enough as a word if it is as a number -/
theorem fits_iff {n : Int64} (h : 1 ≤ n.toInt) : (1 ≤ n.toUInt64 ∧ n.toUInt64 ≤ maxLimit) ↔ n.toInt ≤ 100 := by
  have hmax : maxLimit.toNat = 100 := rfl
  rw [and_iff_right (one_le_toUInt64 h), UInt64.le_iff_toNat_le, toNat_toUInt64 h, hmax]
  omega

theorem pageOf?_of_offence {page : Option Int64} {e : QueryError} {rest : List QueryError}
    (h : pageOffences page = e :: rest) : pageOf? page = none ∧ e = ⟨"page", belowOne⟩ := by
  cases page with
  | none => exact absurd h nofun
  | some p =>
    by_cases hp : p.toInt < 1
    · rw [pageOffences, if_pos hp] at h
      refine ⟨dif_neg ?_, (List.cons.inj h).1.symm⟩
      rintro ⟨-, hone⟩
      have := (one_le_iff p).1 hone
      omega
    · rw [pageOffences, if_neg hp] at h
      exact absurd h nofun

theorem pageOf?_of_fine {page : Option Int64} (h : pageOffences page = []) :
    ∃ n, pageOf? page = some n ∧ n.val.toNat = numberOr 1 page := by
  cases page with
  | none => exact ⟨_, rfl, rfl⟩
  | some p =>
    by_cases hp : p.toInt < 1
    · rw [pageOffences, if_pos hp] at h
      exact absurd h nofun
    · have hone : 1 ≤ p.toInt := by omega
      exact ⟨⟨p.toUInt64, one_le_toUInt64 hone⟩, dif_pos ⟨one_le_toUInt64 hone, (one_le_iff p).2 hone⟩,
        toNat_toUInt64 hone⟩

/-- **The first offence refuses a page request.** -/
theorem of_eq_error {page limit : Option Int64} {e : QueryError} {rest : List QueryError}
    (h : offences page limit = e :: rest) : of page limit = .error e := by
  unfold of
  cases hpage : pageOffences page with
  | cons e' rest' =>
    obtain ⟨hnone, he'⟩ := pageOf?_of_offence hpage
    rw [offences, hpage, List.cons_append] at h
    rw [hnone, ← (List.cons.inj h).1, he']
  | nil =>
    obtain ⟨⟨n, hn⟩, hsome, -⟩ := pageOf?_of_fine hpage
    rw [offences, hpage, List.nil_append] at h
    rw [hsome]
    cases limit with
    | none => exact absurd h nofun
    | some l =>
      by_cases hlow : l.toInt < 1
      · rw [limitOffences, if_pos hlow] at h
        simp only [lt_one_iff, if_pos hlow, (List.cons.inj h).1]
      · rw [limitOffences, if_neg hlow] at h
        by_cases hhigh : 100 < l.toInt
        · rw [if_pos hhigh] at h
          have hgreat : ¬ (1 ≤ l.toUInt64 ∧ l.toUInt64 ≤ maxLimit) := by
            rw [fits_iff (Int.not_lt.1 hlow)]
            exact Int.not_le.2 hhigh
          simp only [lt_one_iff, if_neg hlow, dif_neg hgreat, (List.cons.inj h).1]
        · rw [if_neg hhigh] at h
          exact absurd h nofun

/-- **Without an offence the numbers are those that are asked for, or the defaults.** -/
theorem of_eq_ok {page limit : Option Int64} (h : offences page limit = []) :
    ∃ r, of page limit = .ok r ∧ r.page.toNat = numberOr 1 page ∧ r.limit.toNat = numberOr 20 limit := by
  obtain ⟨hpage, hlimit⟩ := List.append_eq_nil_iff.1 h
  obtain ⟨⟨n, hn⟩, hsome, hnumber⟩ := pageOf?_of_fine hpage
  unfold of
  rw [hsome]
  cases limit with
  | none => exact ⟨_, rfl, hnumber, rfl⟩
  | some l =>
    by_cases hlow : l.toInt < 1
    · rw [limitOffences, if_pos hlow] at hlimit
      exact absurd hlimit nofun
    · rw [limitOffences, if_neg hlow] at hlimit
      by_cases hhigh : 100 < l.toInt
      · rw [if_pos hhigh] at hlimit
        exact absurd hlimit nofun
      · have hone : 1 ≤ l.toInt := Int.not_lt.1 hlow
        have hfits := (fits_iff hone).2 (Int.not_lt.1 hhigh)
        refine ⟨⟨n, l.toUInt64, hn, hfits.1, hfits.2⟩, ?_, hnumber, toNat_toUInt64 hone⟩
        simp only [lt_one_iff, if_neg hlow, dif_pos hfits]

/-- **How many items come before a page**: the product in unbounded numbers, up to the greatest word. -/
theorem toNat_offset (r : PageRequest) :
    r.offset.toNat = min ((r.page.toNat - 1) * r.limit.toNat) 0xFFFFFFFFFFFFFFFF := by
  rw [offset, toNat_saturatingMul, UInt64.toNat_sub_of_le _ _ r.one_le_page]
  rfl

end PageRequest

end MockBank
