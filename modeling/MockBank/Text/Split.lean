/-
Cutting a list at a separator: at every one, at the first one, at the last one.
-/
namespace MockBank.Text

/-- the parts between the separators; there is always one part more than separators -/
def splitAt {α : Type} [DecidableEq α] (sep : α) : List α → List (List α)
  | [] => [[]]
  | a :: rest =>
    if a = sep then [] :: splitAt sep rest
    else
      match splitAt sep rest with
      | [] => [[a]]
      | part :: parts => (a :: part) :: parts

/-- what stands before the first separator, and what follows it if there is one -/
def splitFirst {α : Type} [DecidableEq α] (sep : α) (l : List α) : List α × Option (List α) :=
  match l.dropWhile (· ≠ sep) with
  | [] => (l, none)
  | _ :: rest => (l.takeWhile (· ≠ sep), some rest)

/-- what stands before and after the last separator -/
def splitLast? {α : Type} [DecidableEq α] (sep : α) (l : List α) : Option (List α × List α) :=
  match splitFirst sep l.reverse with
  | (_, none) => none
  | (after, some before) => some (before.reverse, after.reverse)

theorem splitAt_ne_nil {α : Type} [DecidableEq α] (sep : α) (l : List α) : splitAt sep l ≠ [] := by
  cases l with
  | nil => simp [splitAt]
  | cons a rest =>
    simp only [splitAt]
    split
    · simp
    · split <;> simp

theorem splitAt_cons_self {α : Type} [DecidableEq α] (sep : α) (l : List α) :
    splitAt sep (sep :: l) = [] :: splitAt sep l := by
  rw [splitAt, if_pos rfl]

theorem splitAt_cons_of_ne {α : Type} [DecidableEq α] {sep a : α} (h : a ≠ sep) {l part : List α}
    {parts : List (List α)} (hl : splitAt sep l = part :: parts) : splitAt sep (a :: l) = (a :: part) :: parts := by
  rw [splitAt, if_neg h, hl]

/-- the parts with separators between them are what was cut -/
theorem intercalate_splitAt {α : Type} [DecidableEq α] (sep : α) (l : List α) :
    [sep].intercalate (splitAt sep l) = l := by
  induction l with
  | nil => rfl
  | cons a l ih =>
    obtain ⟨part, parts, hl⟩ := List.exists_cons_of_ne_nil (splitAt_ne_nil sep l)
    rw [hl] at ih
    by_cases ha : a = sep
    · rw [ha, splitAt_cons_self, hl, List.intercalate_cons_cons, ih]
      rfl
    · rw [splitAt_cons_of_ne ha hl, ← ih]
      cases parts with
      | nil => rw [List.intercalate_singleton, List.intercalate_singleton]
      | cons next parts =>
        rw [List.intercalate_cons_cons, List.intercalate_cons_cons, List.cons_append, List.cons_append]

theorem splitAt_of_not_mem {α : Type} [DecidableEq α] {sep : α} {part : List α} (h : sep ∉ part) :
    splitAt sep part = [part] := by
  induction part with
  | nil => rfl
  | cons a part ih =>
    exact splitAt_cons_of_ne (List.ne_of_not_mem_cons h).symm (ih (List.not_mem_of_not_mem_cons h))

theorem splitAt_append {α : Type} [DecidableEq α] {sep : α} {part : List α} (h : sep ∉ part) (rest : List α) :
    splitAt sep (part ++ sep :: rest) = part :: splitAt sep rest := by
  induction part with
  | nil => exact splitAt_cons_self sep rest
  | cons a part ih =>
    exact splitAt_cons_of_ne (List.ne_of_not_mem_cons h).symm (ih (List.not_mem_of_not_mem_cons h))

/-- parts without the separator are found again -/
theorem splitAt_intercalate {α : Type} [DecidableEq α] {sep : α} {parts : List (List α)} (hne : parts ≠ [])
    (h : ∀ part ∈ parts, sep ∉ part) : splitAt sep ([sep].intercalate parts) = parts := by
  induction parts with
  | nil => exact absurd rfl hne
  | cons part parts ih =>
    have hpart := h part List.mem_cons_self
    cases parts with
    | nil => rw [List.intercalate_singleton, splitAt_of_not_mem hpart]
    | cons next parts =>
      rw [List.intercalate_cons_cons, List.append_assoc, List.singleton_append, splitAt_append hpart,
        ih nofun fun p hp => h p (List.mem_cons_of_mem part hp)]

/-- what is in a part is in the whole -/
theorem mem_intercalate {α : Type} {seps : List α} {parts : List (List α)} {part : List α} {a : α} (hpart : part ∈ parts)
    (ha : a ∈ part) : a ∈ seps.intercalate parts := by
  induction parts with
  | nil => exact absurd hpart nofun
  | cons first parts ih =>
    cases parts with
    | nil =>
      rw [List.intercalate_singleton]
      exact List.mem_singleton.1 hpart ▸ ha
    | cons next parts =>
      rw [List.intercalate_cons_cons, List.append_assoc]
      rcases List.mem_cons.1 hpart with rfl | hpart
      · exact List.mem_append_left _ ha
      · exact List.mem_append_right _ (List.mem_append_right _ (ih hpart))

/-- what is in the whole is in a separator or in a part -/
theorem mem_of_mem_intercalate {α : Type} {seps : List α} {parts : List (List α)} {a : α}
    (h : a ∈ seps.intercalate parts) : a ∈ seps ∨ ∃ part ∈ parts, a ∈ part := by
  induction parts with
  | nil => exact absurd h nofun
  | cons first parts ih =>
    cases parts with
    | nil =>
      rw [List.intercalate_singleton] at h
      exact .inr ⟨first, List.mem_cons_self, h⟩
    | cons next parts =>
      rw [List.intercalate_cons_cons, List.append_assoc, List.mem_append, List.mem_append] at h
      rcases h with h | h | h
      · exact .inr ⟨first, List.mem_cons_self, h⟩
      · exact .inl h
      · rcases ih h with h | ⟨part, hpart, ha⟩
        · exact .inl h
        · exact .inr ⟨part, List.mem_cons_of_mem first hpart, ha⟩

/-- two parts have a separator between them -/
theorem sep_mem_intercalate {α : Type} {sep : α} {parts : List (List α)} (h : 2 ≤ parts.length) :
    sep ∈ [sep].intercalate parts := by
  match parts, h with
  | first :: next :: parts, _ =>
    rw [List.intercalate_cons_cons, List.append_assoc]
    exact List.mem_append_right _ List.mem_cons_self

theorem not_mem_of_mem_splitAt {α : Type} [DecidableEq α] {sep : α} {l part : List α} (h : part ∈ splitAt sep l) :
    sep ∉ part := by
  induction l generalizing part with
  | nil =>
    obtain rfl := List.mem_singleton.1 h
    exact nofun
  | cons a l ih =>
    obtain ⟨first, parts, hl⟩ := List.exists_cons_of_ne_nil (splitAt_ne_nil sep l)
    rw [hl] at ih
    by_cases ha : a = sep
    · rw [ha, splitAt_cons_self, hl] at h
      rcases List.mem_cons.1 h with rfl | h
      · exact nofun
      · exact ih h
    · rw [splitAt_cons_of_ne ha hl] at h
      rcases List.mem_cons.1 h with rfl | h
      · exact List.not_mem_cons_of_ne_of_not_mem (Ne.symm ha) (ih List.mem_cons_self)
      · exact ih (List.mem_cons_of_mem first h)

theorem mem_splitAt {α : Type} [DecidableEq α] {sep a : α} {l : List α} (ha : a ∈ l) (hne : a ≠ sep) :
    ∃ part ∈ splitAt sep l, a ∈ part := by
  rw [← intercalate_splitAt sep l] at ha
  rcases mem_of_mem_intercalate ha with h | h
  · exact absurd (List.mem_singleton.1 h) hne
  · exact h

/-- a list that holds the separator is cut -/
theorem two_le_length_splitAt {α : Type} [DecidableEq α] {sep : α} {l : List α} (h : sep ∈ l) :
    2 ≤ (splitAt sep l).length := by
  obtain ⟨part, parts, hl⟩ := List.exists_cons_of_ne_nil (splitAt_ne_nil sep l)
  cases parts with
  | nil =>
    have hwhole := intercalate_splitAt sep l
    rw [hl, List.intercalate_singleton] at hwhole
    exact absurd (hwhole ▸ h) (not_mem_of_mem_splitAt (hl ▸ List.mem_cons_self))
  | cons next parts => rw [hl]; exact Nat.le_add_left 2 parts.length

theorem not_mem_takeWhile_ne {α : Type} [DecidableEq α] (sep : α) (l : List α) : sep ∉ l.takeWhile (· ≠ sep) := by
  induction l with
  | nil => simp
  | cons a rest ih =>
    by_cases h : a = sep
    · simp [h]
    · simp only [List.takeWhile, h, ne_eq, not_false_eq_true, decide_true, List.mem_cons, not_or]
      exact ⟨Ne.symm h, ih⟩

theorem head_dropWhile_ne {α : Type} [DecidableEq α] (sep : α) (l : List α) (a : α) (rest : List α)
    (h : l.dropWhile (· ≠ sep) = a :: rest) : a = sep := by
  induction l with
  | nil => simp at h
  | cons b l ih =>
    by_cases hb : b = sep
    · subst hb
      simp only [List.dropWhile, ne_eq, not_true_eq_false, decide_false, List.cons.injEq] at h
      exact h.1.symm
    · exact ih (by simpa [List.dropWhile, hb] using h)

theorem splitFirst_eq_some {α : Type} [DecidableEq α] (sep : α) (l before after : List α)
    (h : splitFirst sep l = (before, some after)) : l = before ++ sep :: after ∧ sep ∉ before := by
  unfold splitFirst at h
  split at h
  · simp at h
  · rename_i a rest hd
    simp only [Prod.mk.injEq, Option.some.injEq] at h
    obtain ⟨rfl, rfl⟩ := h
    have ha := head_dropWhile_ne sep l a rest hd
    subst ha
    refine ⟨?_, not_mem_takeWhile_ne a l⟩
    rw [← hd, List.takeWhile_append_dropWhile]

theorem splitLast?_eq_some {α : Type} [DecidableEq α] (sep : α) (l before after : List α)
    (h : splitLast? sep l = some (before, after)) : l = before ++ sep :: after ∧ sep ∉ after := by
  unfold splitLast? at h
  split at h
  · simp at h
  · rename_i a b hs
    simp only [Option.some.injEq, Prod.mk.injEq] at h
    obtain ⟨rfl, rfl⟩ := h
    obtain ⟨hl, hn⟩ := splitFirst_eq_some sep l.reverse a b hs
    have hr := congrArg List.reverse hl
    simp only [List.reverse_reverse, List.reverse_append, List.reverse_cons, List.append_assoc,
      List.cons_append, List.nil_append] at hr
    exact ⟨hr, by simpa using hn⟩

/-- a list is cut at the first separator -/
theorem splitFirst_append {α : Type} [DecidableEq α] {sep : α} {before : List α} (h : sep ∉ before)
    (after : List α) : splitFirst sep (before ++ sep :: after) = (before, some after) := by
  have hbefore : ∀ a ∈ before, decide (a ≠ sep) = true := by
    intro a ha
    exact decide_eq_true fun e => h (e ▸ ha)
  have hdrop : (before ++ sep :: after).dropWhile (· ≠ sep) = sep :: after := by
    rw [List.dropWhile_append_of_pos hbefore, List.dropWhile_cons_of_neg (by simp)]
  have htake : (before ++ sep :: after).takeWhile (· ≠ sep) = before := by
    rw [List.takeWhile_append_of_pos hbefore, List.takeWhile_cons_of_neg (by simp), List.append_nil]
  rw [splitFirst, hdrop, htake]

/-- a list is cut at the last separator -/
theorem splitLast?_append {α : Type} [DecidableEq α] {sep : α} (before : List α) {after : List α}
    (h : sep ∉ after) : splitLast? sep (before ++ sep :: after) = some (before, after) := by
  have hreverse : (before ++ sep :: after).reverse = after.reverse ++ sep :: before.reverse := by simp
  have hafter : sep ∉ after.reverse := fun hmem => h (List.mem_reverse.1 hmem)
  rw [splitLast?, hreverse, splitFirst_append hafter]
  simp

end MockBank.Text
