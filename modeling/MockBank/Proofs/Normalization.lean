/-
What folding and composing leave alone.  The tables of the standard are about characters beyond ASCII, but for the
capital letters, and for the letters and relations that marks join; so the signs before the slash, the blank and the
control characters of ASCII stay in a text whatever stands beside them.

- `Unicode.vanishing_beyond`, `Unicode.shifted_beyond`, `Unicode.images_beyond`, `Unicode.composites_beyond`: what the
  tables are about, checked line by line.
- `Unicode.fold_unmoved`: such a character folds to itself.
- `Unicode.mem_normalize`: it is still there when a text is composed.
-/
import MockBank.Unicode.Folding
import MockBank.Unicode.Normal

namespace MockBank

namespace Unicode

open Text (splitAt)

/-! ## What the tables are about -/

/-- ASCII characters before the slash, and the last one: controls, the blank, and signs, the full stop among them -/
def Unmoved (c : Char) : Prop :=
  c.toNat < 0x2F ∨ c.toNat = 0x7F

instance (c : Char) : Decidable (Unmoved c) :=
  inferInstanceAs (Decidable (_ ∨ _))

/-- a table is checked line by line, on the characters of each line: as a whole it is too long to be evaluated -/
theorem all_words_cons {check : List Char → Bool} {line : String} {cs : List Char} {rest : List String}
    (hline : line = String.ofList cs) (h : (splitAt ' ' cs).all check = true) (hrest : (words rest).all check = true) :
    (words (line :: rest)).all check = true := by
  have hwords : words (line :: rest) = splitAt ' ' cs ++ words rest := by
    rw [words, List.flatMap_cons, hline, String.toList_ofList, words]
  rw [hwords, List.all_append, h, hrest]
  rfl

theorem forall_mem_filterMap_words {α : Type} {f : List Char → Option α} {P : α → Bool} {lines : List String}
    (h : (words lines).all (fun word => (f word).all P) = true) : ∀ a ∈ (words lines).filterMap f, P a = true := by
  intro a ha
  obtain ⟨word, hword, hf⟩ := List.mem_filterMap.1 ha
  simpa [hf] using List.all_eq_true.1 h word hword

theorem vanishing_beyond : ∀ s ∈ vanishing, decide (0x80 ≤ s.first) = true := by
  refine forall_mem_filterMap_words ?_
  repeat' refine all_words_cons rfl (by decide +kernel) ?_
  rfl

theorem alternating_beyond : ∀ s ∈ alternating, decide (0x80 ≤ s.first) = true := by
  refine forall_mem_filterMap_words ?_
  repeat' refine all_words_cons rfl (by decide +kernel) ?_
  rfl

theorem shifted_beyond :
    ∀ s ∈ shifted, (decide (0x80 ≤ s.1.first) || (decide (0x2F ≤ s.1.first) && decide (s.1.last < 0x7F))) = true := by
  refine forall_mem_filterMap_words ?_
  repeat' refine all_words_cons rfl (by decide +kernel) ?_
  rfl

theorem composites_beyond : ∀ p ∈ composites,
    (decide (0x80 ≤ p.whole.toNat) && decide (0x2F ≤ p.first.toNat) && p.first.toNat != 0x7F &&
      decide (0x80 ≤ p.second.toNat)) = true := by
  refine forall_mem_filterMap_words ?_
  repeat' refine all_words_cons rfl (by decide +kernel) ?_
  rfl

/-- where a word sets the code of the next one, it is beyond ASCII -/
def setsBeyond (word : List Char) : Bool :=
  match word with
  | '=' :: code => decide (0x80 ≤ hexNumber code)
  | _ => true

theorem imagesFrom_beyond {ws : List (List Char)} (hsets : ws.all setsBeyond = true) {n : Nat}
    (hn : 0x80 ≤ n ∨ ∃ code, ws.head? = some ('=' :: code)) : ∀ i ∈ imagesFrom n ws, 0x80 ≤ i.1 := by
  induction ws generalizing n with
  | nil => exact nofun
  | cons word rest ih =>
    rw [List.all_cons, Bool.and_eq_true] at hsets
    unfold imagesFrom
    split
    · rename_i code
      exact ih hsets.2 (.inl (of_decide_eq_true hsets.1))
    · rename_i hplain
      have hn : 0x80 ≤ n := by
        rcases hn with hn | ⟨code, hhead⟩
        · exact hn
        · exact absurd (Option.some.inj hhead) (hplain code)
      intro i hi
      rcases List.mem_cons.1 hi with rfl | hi
      · exact hn
      · exact ih hsets.2 (.inl (Nat.le_succ_of_le hn)) i hi

theorem images_beyond : ∀ i ∈ images, 0x80 ≤ i.1 := by
  refine imagesFrom_beyond ?_ (.inr ⟨['A', '0'], rfl⟩)
  repeat' refine all_words_cons rfl (by decide +kernel) ?_
  rfl

/-! ## Folding and composing -/

theorem holds_vanishing {c : Char} (hc : Unmoved c) : holds vanishing c = false := by
  refine List.any_eq_false.2 fun s hs hholds => ?_
  have hfirst := of_decide_eq_true (vanishing_beyond s hs)
  simp only [Span.holds, Bool.and_eq_true, decide_eq_true_eq] at hholds
  unfold Unmoved at hc
  omega

theorem find?_shifted {c : Char} (hc : Unmoved c) :
    (shifted.find? fun s => s.1.first ≤ c.toNat && c.toNat ≤ s.1.last) = none := by
  refine List.find?_eq_none.2 fun s hs hspan => ?_
  have hbeyond := shifted_beyond s hs
  simp only [Bool.or_eq_true, Bool.and_eq_true, decide_eq_true_eq] at hbeyond hspan
  unfold Unmoved at hc
  omega

theorem find?_alternating {c : Char} (hc : Unmoved c) :
    (alternating.find? fun s => s.first ≤ c.toNat && c.toNat ≤ s.last && (c.toNat - s.first) % 2 == 0) = none := by
  refine List.find?_eq_none.2 fun s hs hspan => ?_
  have hfirst := of_decide_eq_true (alternating_beyond s hs)
  simp only [Bool.and_eq_true, decide_eq_true_eq] at hspan
  unfold Unmoved at hc
  omega

theorem find?_images {c : Char} (hc : Unmoved c) : (images.find? fun i => i.1 == c.toNat) = none := by
  refine List.find?_eq_none.2 fun i hi hcode => ?_
  have hbeyond := images_beyond i hi
  rw [beq_iff_eq] at hcode
  unfold Unmoved at hc
  omega

/-- such a character folds to itself -/
theorem fold_unmoved {c : Char} (hc : Unmoved c) : fold c = [c] := by
  have hcode : foldCode c.toNat = [c.toNat] := by
    unfold foldCode
    rw [find?_shifted hc, find?_alternating hc, find?_images hc]
  rw [fold, holds_vanishing hc, hcode]
  simp

theorem parts?_unmoved {c : Char} (hc : Unmoved c) : parts? c = none := by
  have hsyllable : Hangul.parts? c = none := by
    have hno : Hangul.isSyllable c = false := by
      unfold Unmoved at hc
      simp only [Hangul.isSyllable, Bool.and_eq_false_iff, decide_eq_false_iff_not]
      omega
    simp [Hangul.parts?, hno]
  have hcomposites : (composites.find? fun p => p.whole == c) = none := by
    refine List.find?_eq_none.2 fun p hp hwhole => ?_
    have hbeyond := composites_beyond p hp
    simp only [Bool.and_eq_true, decide_eq_true_eq, bne_iff_ne] at hbeyond
    rw [beq_iff_eq] at hwhole
    rw [hwhole] at hbeyond
    unfold Unmoved at hc
    omega
  rw [parts?, hsyllable, hcomposites]
  rfl

/-- such a character does not join another one -/
theorem join?_unmoved {a b : Char} (h : Unmoved a ∨ Unmoved b) : join? a b = none := by
  have hsyllable : Hangul.join? a b = none := by
    unfold Unmoved at h
    have hno : Hangul.isSyllable a = true → 0xAC00 ≤ a.toNat := by
      simp only [Hangul.isSyllable, Bool.and_eq_true, decide_eq_true_eq]
      exact And.left
    rw [Hangul.join?, if_neg (by omega), if_neg (by rintro ⟨ha, hb⟩; have := hno ha; omega)]
  have hcomposites : (composites.find? fun p => p.first == a && p.second == b) = none := by
    refine List.find?_eq_none.2 fun p hp hparts => ?_
    have hbeyond := composites_beyond p hp
    simp only [Bool.and_eq_true, decide_eq_true_eq, bne_iff_ne, beq_iff_eq] at hbeyond hparts
    rw [hparts.1, hparts.2] at hbeyond
    unfold Unmoved at h
    omega
  rw [join?, hsyllable, hcomposites]
  rfl

theorem mem_placeMark (x c : Char) (text : List Char) : x ∈ placeMark c text ↔ x = c ∨ x ∈ text := by
  induction text with
  | nil => simp [placeMark]
  | cons d rest ih =>
    simp only [placeMark]
    split
    · rw [List.mem_cons, ih, List.mem_cons]
      exact or_left_comm
    · rw [List.mem_cons]

theorem mem_orderMarks {x : Char} {text : List Char} (h : x ∈ text) : x ∈ orderMarks text := by
  have hplaced : ∀ before, x ∈ before ∨ x ∈ text → x ∈ text.foldl (fun before c => placeMark c before) before := by
    clear h
    induction text with
    | nil => exact fun before h => h.elim id nofun
    | cons c rest ih =>
      intro before h
      refine ih _ ?_
      rw [mem_placeMark]
      rcases h with h | h
      · exact .inl (.inr h)
      · rcases List.mem_cons.1 h with rfl | h
        · exact .inl (.inl rfl)
        · exact .inr h
  exact List.mem_reverse.2 (hplaced [] (.inr h))

namespace Composing

theorem mem_all_iff (s : Composing) (x : Char) : x ∈ s.all ↔ x ∈ s.marks ∨ s.open? = some x ∨ x ∈ s.settled := by
  simp [all]

/-- **One more character** loses no unmoved one: it joins none, and none joins another. -/
theorem mem_all_add {x : Char} (hx : Unmoved x) {s : Composing} {c : Char} (h : x ∈ s.all ∨ x = c) :
    x ∈ (s.add c).all := by
  unfold add
  split
  · rename_i hopen
    rw [mem_all_iff, hopen] at h
    split <;> rw [mem_all_iff] <;> grind
  · rename_i base hopen
    rw [mem_all_iff, hopen] at h
    dsimp only
    split
    · rename_i whole hwhole
      have hjoin : join? base c = some whole := by
        split at hwhole
        · exact hwhole
        · exact absurd hwhole nofun
      have hbase : x ≠ base := by
        rintro rfl
        rw [join?_unmoved (.inl hx)] at hjoin
        exact absurd hjoin nofun
      have hc : x ≠ c := by
        rintro rfl
        rw [join?_unmoved (.inr hx)] at hjoin
        exact absurd hjoin nofun
      rw [mem_all_iff]
      grind
    · split <;> simp only [mem_all_iff] <;> grind

theorem mem_all_foldl {x : Char} (hx : Unmoved x) {text : List Char} {s : Composing} (h : x ∈ s.all ∨ x ∈ text) :
    x ∈ (text.foldl add s).all := by
  induction text generalizing s with
  | nil => exact h.elim id nofun
  | cons c rest ih =>
    refine ih ?_
    rcases h with h | h
    · exact .inl (mem_all_add hx (.inl h))
    · rcases List.mem_cons.1 h with h | h
      · exact .inl (mem_all_add hx (.inr h))
      · exact .inr h

end Composing

theorem mem_normalize {x : Char} (hx : Unmoved x) {text : List Char} (h : x ∈ text) : x ∈ normalize text := by
  have hdecompose : x ∈ text.flatMap decompose := by
    refine List.mem_flatMap.2 ⟨x, h, ?_⟩
    simp [decompose, decomposeWithin, parts?_unmoved hx]
  exact List.mem_reverse.2 (Composing.mem_all_foldl hx (.inr (mem_orderMarks hdecompose)))

end Unicode

end MockBank
