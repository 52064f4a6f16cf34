/-
Which texts pass as mail addresses.  The user, the dots of the domain and the lengths are tested over the whole text,
and labels have to make up the whole domain; but an internet address in brackets is looked for at the end of the
domain only, so whatever stands before the bracket is accepted unseen, blanks and control characters included.

- `Punycode.mem_decode?`, `Punycode.mem_encode`, `mem_asciiForm?`: the ASCII form of a domain keeps its full stops,
  blanks, control characters and signs, so it is no cleaner than what was written.
- `Mailbox`: a text told by its parts; `isDeliverable_iff`: the accepted texts are those whose domain is labels or ends
  in a bracketed address.
- `Proper`: what an accepted text is said to be; `proper_iff`: the texts whose domain is wholly labels or wholly a
  bracketed address are that.
- `deliverable_addresses`: how far the accepted texts and the proper ones are apart;
  `blank_before_literal_is_deliverable`: a text that is accepted and not proper.
-/
import MockBank.Email.Address
import MockBank.Proofs.Normalization
import MockBank.Text.Digits

namespace MockBank

namespace Email

open Text Unicode

/-! ## What the ASCII form of a domain keeps -/

namespace Punycode

/-- placing a character moves the others apart and loses none -/
theorem Reading.mem_placed? {x : Char} {r r' : Reading} (h : r.placed? = some r') (hx : x ∈ r.label) : x ∈ r'.label := by
  unfold Reading.placed? at h
  dsimp only at h
  split at h
  · obtain rfl := Option.some.inj h
    rw [← List.take_append_drop (r.distance % (r.label.length + 1)) r.label, List.mem_append] at hx
    simp only [Reading.start, List.mem_append, List.mem_cons]
    exact hx.imp id .inr
  · exact absurd h nofun

/-- one more digit of a spelling is a digit, and loses no character -/
theorem Reading.mem_next? {x c : Char} {r r' : Reading} (h : r.next? c = some r') :
    digitValue? c ≠ none ∧ (x ∈ r.label → x ∈ r'.label) := by
  unfold Reading.next? at h
  split at h
  · exact absurd h nofun
  · rename_i d hd
    refine ⟨by simp [hd], fun hx => ?_⟩
    dsimp only at h
    split at h
    · exact absurd h nofun
    split at h
    · exact Reading.mem_placed? h hx
    split at h
    · exact absurd h nofun
    · obtain rfl := Option.some.inj h
      exact hx

theorem mem_foldlM_next? {x : Char} {digits : List Char} {r r' : Reading}
    (h : digits.foldlM Reading.next? r = some r') :
    (∀ c ∈ digits, digitValue? c ≠ none) ∧ (x ∈ r.label → x ∈ r'.label) := by
  induction digits generalizing r with
  | nil =>
    obtain rfl := Option.some.inj h
    exact ⟨nofun, id⟩
  | cons c rest ih =>
    rw [List.foldlM_cons] at h
    obtain ⟨next, hnext, hrest⟩ := Option.bind_eq_some_iff.1 h
    obtain ⟨hdigit, hkeeps⟩ := Reading.mem_next? hnext
    obtain ⟨hdigits, hall⟩ := ih hrest
    exact ⟨List.forall_mem_cons.2 ⟨hdigit, hdigits⟩, fun hx => hall (hkeeps hx)⟩

/-- the characters of a spelling but for its last hyphen -/
theorem mem_parts {x : Char} (hx : x ≠ '-') {spelling : List Char} (h : x ∈ spelling) :
    x ∈ (parts spelling).1 ∨ x ∈ (parts spelling).2 := by
  unfold parts
  split
  · exact .inr h
  · exact .inr h
  · rename_i cut _ hcut
    obtain ⟨basic, digits⟩ := cut
    obtain ⟨rfl, -⟩ := splitLast?_eq_some '-' spelling basic digits hcut
    rcases List.mem_append.1 h with h | h
    · exact .inl h
    · exact .inr ((List.mem_cons.1 h).resolve_left hx)

/-- **Reading keeps** what is neither a digit nor a hyphen. -/
theorem mem_decode? {x : Char} (hdigit : digitValue? x = none) (hhyphen : x ≠ '-') {spelling label : List Char}
    (h : decode? spelling = some label) (hx : x ∈ spelling) : x ∈ label := by
  unfold decode? at h
  dsimp only at h
  split at h
  · split at h
    · rename_i r hr
      split at h
      · obtain rfl := Option.some.inj h
        obtain ⟨hdigits, hkeeps⟩ := mem_foldlM_next? (x := x) hr
        rcases mem_parts hhyphen hx with hx | hx
        · exact hkeeps hx
        · exact absurd hdigit (hdigits x hx)
      · exact absurd h nofun
    · exact absurd h nofun
  · exact absurd h nofun

theorem mem_place {x : Char} {basic m : Nat} {s : Progress} (c : Char) (h : x ∈ s.written) :
    x ∈ (place basic m s c).written := by
  unfold place
  split
  · exact h
  split
  · exact List.mem_append_left _ h
  · exact h

theorem mem_foldl_place {x : Char} {basic m : Nat} {label : List Char} {s : Progress} (h : x ∈ s.written) :
    x ∈ (label.foldl (place basic m) s).written := by
  induction label generalizing s with
  | nil => exact h
  | cons c rest ih => exact ih (mem_place c h)

theorem mem_placeAll {x : Char} {label : List Char} {basic : Nat} {codes : List Nat} {n : Nat} {s : Progress}
    (h : x ∈ s.written) : x ∈ (placeAll label basic codes n s).written := by
  induction codes generalizing n s with
  | nil => exact h
  | cons m rest ih =>
    unfold placeAll
    exact ih (mem_foldl_place h)

/-- **Spelling keeps** what is in ASCII. -/
theorem mem_encode {x : Char} (hascii : isAscii x = true) {label : List Char} (h : x ∈ label) : x ∈ encode label := by
  have hbasic : x ∈ label.filter isAscii := List.mem_filter.2 ⟨h, hascii⟩
  have hne : (label.filter isAscii).isEmpty = false := by
    rw [List.isEmpty_eq_false_iff]
    exact List.ne_nil_of_mem hbasic
  unfold encode
  simp only [hne]
  exact mem_placeAll (List.mem_append_left _ hbasic)

end Punycode

theorem mem_mapM {α β : Type} {f : α → Option β} {l : List α} {l' : List β} (h : l.mapM f = some l') :
    l'.length = l.length ∧ ∀ a ∈ l, ∃ b ∈ l', f a = some b := by
  induction l generalizing l' with
  | nil =>
    obtain rfl := Option.some.inj h
    exact ⟨rfl, nofun⟩
  | cons a rest ih =>
    rw [List.mapM_cons] at h
    obtain ⟨b, hb, h⟩ := Option.bind_eq_some_iff.1 h
    obtain ⟨rest', hrest, h⟩ := Option.bind_eq_some_iff.1 h
    obtain rfl := Option.some.inj h
    obtain ⟨hlength, hmem⟩ := ih hrest
    refine ⟨congrArg Nat.succ hlength, List.forall_mem_cons.2 ⟨⟨b, List.mem_cons_self, hb⟩, fun a' ha' => ?_⟩⟩
    obtain ⟨b', hb', hf⟩ := hmem a' ha'
    exact ⟨b', List.mem_cons_of_mem b hb', hf⟩

theorem mem_prepare? {x : Char} (hx : Unmoved x) {domain prepared : List Char} (h : prepare? domain = some prepared)
    (hmem : x ∈ domain) : x ∈ prepared := by
  unfold prepare? at h
  split at h
  · obtain rfl := Option.some.inj h
    refine mem_normalize hx (List.mem_flatMap.2 ⟨x, hmem, ?_⟩)
    rw [fold_unmoved hx]
    exact List.mem_singleton_self x
  · exact absurd h nofun

theorem toNat_bounds {low high c : Char} (h : low ≤ c ∧ c ≤ high) : low.toNat ≤ c.toNat ∧ c.toNat ≤ high.toNat :=
  h

/-- the codes of letters and digits -/
theorem code_of_isAlphanum {c : Char} (h : isAlphanum c = true) : 0x30 ≤ c.toNat ∧ c.toNat ≤ 0x7A := by
  rcases Bool.or_eq_true_iff.1 h with hletter | hdigit
  · rcases Bool.or_eq_true_iff.1 hletter with hcapital | hsmall
    · have hcode : 'A'.toNat ≤ c.toNat ∧ c.toNat ≤ 'Z'.toNat := toNat_bounds (of_decide_eq_true hcapital)
      simp only [Char.reduceToNat] at hcode
      omega
    · obtain ⟨hlow, hhigh⟩ := Bool.and_eq_true_iff.1 hsmall
      have hcode : 'a'.toNat ≤ c.toNat ∧ c.toNat ≤ 'z'.toNat :=
        toNat_bounds ⟨of_decide_eq_true hlow, of_decide_eq_true hhigh⟩
      simp only [Char.reduceToNat] at hcode
      omega
  · obtain ⟨hlow, hhigh⟩ := Bool.and_eq_true_iff.1 hdigit
    have hcode : '0'.toNat ≤ c.toNat ∧ c.toNat ≤ '9'.toNat :=
      toNat_bounds ⟨of_decide_eq_true hlow, of_decide_eq_true hhigh⟩
    simp only [Char.reduceToNat] at hcode
    omega

theorem not_isAlphanum_unmoved {c : Char} (hc : Unmoved c) : isAlphanum c = false := by
  cases h : isAlphanum c with
  | false => rfl
  | true =>
    have hcode := code_of_isAlphanum h
    unfold Unmoved at hc
    omega

theorem digitValue?_unmoved {c : Char} (hc : Unmoved c) : Punycode.digitValue? c = none := by
  obtain ⟨hletter, hdigit⟩ := Bool.or_eq_false_iff.1 (not_isAlphanum_unmoved hc)
  obtain ⟨hcapital, hsmall⟩ := Bool.or_eq_false_iff.1 hletter
  simp [Punycode.digitValue?, hcapital, hsmall, hdigit]

theorem isAscii_unmoved {x : Char} (hx : Unmoved x) : Punycode.isAscii x = true := by
  unfold Unmoved at hx
  simp only [Punycode.isAscii, decide_eq_true_eq]
  omega

theorem mem_readLabel? {x : Char} (hx : Unmoved x) (hhyphen : x ≠ '-') {label label' : List Char}
    (h : readLabel? label = some label') (hmem : x ∈ label) : x ∈ label' := by
  unfold readLabel? at h
  split at h
  · rename_i hmark
    have hspelled : x ∈ label.drop spellingMark.length := by
      obtain ⟨spelling, rfl⟩ := List.isPrefixOf_iff_prefix.1 hmark
      rw [List.drop_left]
      refine (List.mem_append.1 hmem).resolve_left fun hx' => ?_
      have hcases : x = 'x' ∨ x = 'n' ∨ x = '-' ∨ x = '-' := by simpa [spellingMark] using hx'
      rcases hcases with rfl | rfl | rfl | rfl
      · exact absurd hx (by decide)
      · exact absurd hx (by decide)
      · exact hhyphen rfl
      · exact hhyphen rfl
    split at h
    · exact absurd h nofun
    · rename_i read hread
      split at h
      · obtain rfl := Option.some.inj h
        exact Punycode.mem_decode? (digitValue?_unmoved hx) hhyphen hread hspelled
      · exact absurd h nofun
  · split at h
    · obtain rfl := Option.some.inj h
      exact hmem
    · exact absurd h nofun

theorem mem_spellLabel {x : Char} (hx : Unmoved x) {label : List Char} (h : x ∈ label) : x ∈ spellLabel label := by
  unfold spellLabel
  split
  · exact h
  · exact List.mem_append_right _ (Punycode.mem_encode (isAscii_unmoved hx) h)

/-- **The ASCII form keeps** the full stops, blanks and control characters of a domain, and its signs but the hyphen. -/
theorem mem_asciiForm? {x : Char} (hx : Unmoved x) (hhyphen : x ≠ '-') {domain form : List Char}
    (h : asciiForm? domain = some form) (hmem : x ∈ domain) : x ∈ form := by
  unfold asciiForm? at h
  obtain ⟨prepared, hprepared, h⟩ := Option.bind_eq_some_iff.1 h
  obtain ⟨labels, hlabels, h⟩ := Option.bind_eq_some_iff.1 h
  obtain ⟨hlength, hread⟩ := mem_mapM hlabels
  have hform : ['.'].intercalate (labels.map spellLabel) = form := by
    split at h
    · exact Option.some.inj h
    · exact absurd h nofun
  rw [← hform]
  have hmem := mem_prepare? hx hprepared hmem
  by_cases hdot : x = '.'
  · subst hdot
    refine sep_mem_intercalate ?_
    rw [List.length_map, hlength]
    exact two_le_length_splitAt hmem
  · obtain ⟨label, hlabel, hmem⟩ := mem_splitAt hmem hdot
    obtain ⟨label', hlabel', hreadLabel⟩ := hread label hlabel
    exact mem_intercalate (List.mem_map_of_mem hlabel') (mem_spellLabel hx (mem_readLabel? hx hhyphen hreadLabel hmem))

/-! ## The shapes of domains -/

/-- one to 63 letters, digits and hyphens, a letter or digit first and last -/
structure Label (cs : List Char) : Prop where
  ne_nil : 1 ≤ cs.length
  length_le : cs.length ≤ 63
  chars : ∀ c ∈ cs, isAlphanum c = true ∨ c = '-'
  first : ∀ c ∈ cs.head?, isAlphanum c = true
  last : ∀ c ∈ cs.getLast?, isAlphanum c = true

/-- two or more labels with dots between them -/
def DottedLabels (domain : List Char) : Prop :=
  ∃ labels : List (List Char), 2 ≤ labels.length ∧ (∀ label ∈ labels, Label label) ∧ domain = ['.'].intercalate labels

/-- an internet address in brackets -/
def AddressLiteral (domain : List Char) : Prop :=
  ∃ (inside : List Char) (ip : Ip), domain = '[' :: (inside ++ [']']) ∧
    (∀ c ∈ inside, (hexValue? c).isSome = true ∨ c = ':' ∨ c = '.') ∧ Ip.read? (String.ofList inside) = some ip

/-- in its entirety labels or an internet address in brackets -/
def Whole (domain : List Char) : Prop :=
  DottedLabels domain ∨ AddressLiteral domain

/-- labels, or anything that ends in an internet address in brackets -/
def Trailing (domain : List Char) : Prop :=
  DottedLabels domain ∨ ∃ ahead literal, domain = ahead ++ literal ∧ AddressLiteral literal

theorem isLabel_iff (cs : List Char) : isLabel cs = true ↔ Label cs := by
  have hall : ∀ o : Option Char, o.all isAlphanum = true ↔ ∀ c ∈ o, isAlphanum c = true := by
    intro o
    cases o <;> simp
  simp only [isLabel, Bool.and_eq_true, decide_eq_true_eq, List.all_eq_true, Bool.or_eq_true, beq_iff_eq, hall]
  constructor
  · rintro ⟨⟨⟨⟨hpos, hle⟩, hchars⟩, hfirst⟩, hlast⟩
    exact ⟨hpos, hle, hchars, hfirst, hlast⟩
  · rintro ⟨hpos, hle, hchars, hfirst, hlast⟩
    exact ⟨⟨⟨⟨hpos, hle⟩, hchars⟩, hfirst⟩, hlast⟩

theorem Label.dot_not_mem {cs : List Char} (h : Label cs) : '.' ∉ cs := by
  intro hmem
  rcases h.chars '.' hmem with hdot | hdot
  · exact absurd hdot (by decide)
  · exact absurd hdot (by decide)

theorem isLabels_iff (domain : List Char) : isLabels domain = true ∧ '.' ∈ domain ↔ DottedLabels domain := by
  constructor
  · rintro ⟨hlabels, hdot⟩
    refine ⟨splitAt '.' domain, two_le_length_splitAt hdot, fun label hlabel => ?_, (intercalate_splitAt _ _).symm⟩
    exact (isLabel_iff label).1 (List.all_eq_true.1 hlabels label hlabel)
  · rintro ⟨labels, hlength, hlabels, rfl⟩
    have hne : labels ≠ [] := List.ne_nil_of_length_pos (Nat.lt_of_lt_of_le (by decide) hlength)
    refine ⟨?_, sep_mem_intercalate hlength⟩
    rw [isLabels, splitAt_intercalate hne fun label hlabel => (hlabels label hlabel).dot_not_mem, List.all_eq_true]
    exact fun label hlabel => (isLabel_iff label).2 (hlabels label hlabel)

theorem endsInAddress_iff (domain : List Char) :
    endsInAddress domain = true ↔ ∃ ahead literal, domain = ahead ++ literal ∧ AddressLiteral literal := by
  constructor
  · intro h
    unfold endsInAddress at h
    split at h
    · exact absurd h nofun
    · rename_i ahead rest hsplit
      obtain ⟨hdomain, -⟩ := splitLast?_eq_some '[' domain ahead rest hsplit
      simp only [Bool.and_eq_true, beq_iff_eq, List.all_eq_true, Bool.or_eq_true] at h
      obtain ⟨⟨hlast, hchars⟩, hread⟩ := h
      obtain ⟨inside, rfl⟩ := List.getLast?_eq_some_iff.1 hlast
      rw [List.dropLast_concat] at hchars hread
      obtain ⟨ip, hip⟩ := Option.isSome_iff_exists.1 hread
      exact ⟨ahead, '[' :: (inside ++ [']']), hdomain, inside, ip, rfl, fun c hc => or_assoc.1 (hchars c hc), hip⟩
  · rintro ⟨ahead, literal, rfl, inside, ip, rfl, hchars, hip⟩
    have hbracket : '[' ∉ inside ++ [']'] := by
      intro hmem
      rcases List.mem_append.1 hmem with hmem | hmem
      · exact absurd (hchars '[' hmem) (by decide)
      · exact absurd hmem (by decide)
    have hinside : ∀ c ∈ inside, ((hexValue? c).isSome || c == ':' || c == '.') = true := by
      intro c hc
      simpa [or_assoc] using hchars c hc
    unfold endsInAddress
    rw [splitLast?_append ahead hbracket]
    simp [hip, List.all_eq_true.2 hinside]

/-! ## Addresses -/

/-- a domain as it is written, and its ASCII form if it has one -/
def FormOf (domain form : List Char) : Prop :=
  form = domain ∨ asciiForm? domain = some form

/-- a text is a user and a domain around the last at sign; the domain has a dot inside, and one of its forms is of a
shape -/
structure Mailbox (Shape : List Char → Prop) (text : String) (user domain : List Char) : Prop where
  cut : text.toList = user ++ '@' :: domain
  at_not_mem : '@' ∉ domain
  user_length : 1 ≤ user.length ∧ user.length ≤ 64
  user_chars : ∀ c ∈ user, isUserChar c = true
  domain_length : domain.length ≤ 255
  dot_mem : '.' ∈ domain
  dot_not_first : domain.head? ≠ some '.'
  dot_not_last : domain.getLast? ≠ some '.'
  shape : ∃ form, FormOf domain form ∧ Shape form

/-- white space or a control character -/
def IsStray (c : Char) : Prop :=
  isBlank c = true ∨ c.toNat < 0x20 ∨ c.toNat = 0x7F

/-- what an address is said to be: its domain is labels or an internet address in its entirety, and nothing in it is
stray if it is in ASCII -/
structure Proper (text : String) : Prop where
  parts : ∃ user domain, Mailbox Whole text user domain
  clean : (∀ c ∈ text.toList, c.toNat < 0x80) → ∀ c ∈ text.toList, ¬ IsStray c

/-- the forms of a domain hold its characters, but for letters, digits and hyphens -/
theorem FormOf.mem {c : Char} (hc : Unmoved c) (hhyphen : c ≠ '-') {domain form : List Char} (h : FormOf domain form)
    (hmem : c ∈ domain) : c ∈ form := by
  rcases h with rfl | h
  · exact hmem
  · exact mem_asciiForm? hc hhyphen h hmem

theorem isDomain_iff {domain : List Char} (hdot : '.' ∈ domain) :
    isDomain domain = true ↔ ∃ form, FormOf domain form ∧ Trailing form := by
  have hshape : ∀ form, FormOf domain form → (isAsciiDomain form = true ↔ Trailing form) := by
    intro form hform
    have hmem : '.' ∈ form := hform.mem (by decide) (by decide) hdot
    rw [isAsciiDomain, Bool.or_eq_true, endsInAddress_iff, Trailing, ← isLabels_iff, and_iff_left hmem]
  rw [isDomain, Bool.or_eq_true, Option.any_eq_true]
  constructor
  · rintro (h | ⟨form, hform, h⟩)
    · exact ⟨domain, .inl rfl, (hshape domain (.inl rfl)).1 h⟩
    · exact ⟨form, .inr hform, (hshape form (.inr hform)).1 h⟩
  · rintro ⟨form, hform, h⟩
    have hdomain := (hshape form hform).2 h
    rcases hform with rfl | hform
    · exact .inl hdomain
    · exact .inr ⟨form, hform, hdomain⟩

theorem isDotted_iff (domain : List Char) :
    isDotted domain = true ↔ '.' ∈ domain ∧ domain.head? ≠ some '.' ∧ domain.getLast? ≠ some '.' := by
  simp [isDotted, and_assoc]

theorem isUser_iff (user : List Char) :
    isUser user = true ↔ (1 ≤ user.length ∧ user.length ≤ 64) ∧ ∀ c ∈ user, isUserChar c = true := by
  simp only [isUser, Bool.and_eq_true, decide_eq_true_eq, List.all_eq_true]

/-- **The accepted texts**, told by their parts. -/
theorem isDeliverable_iff (text : String) :
    isDeliverable text = true ↔ ∃ user domain, Mailbox Trailing text user domain := by
  constructor
  · intro h
    unfold isDeliverable at h
    split at h
    · exact absurd h nofun
    · rename_i user domain hsplit
      obtain ⟨hcut, hat⟩ := splitLast?_eq_some '@' text.toList user domain hsplit
      simp only [Bool.and_eq_true, decide_eq_true_eq] at h
      obtain ⟨⟨⟨huser, hlength⟩, hdomain⟩, hdotted⟩ := h
      obtain ⟨huserLength, huserChars⟩ := (isUser_iff user).1 huser
      obtain ⟨hdot, hfirst, hlast⟩ := (isDotted_iff domain).1 hdotted
      exact ⟨user, domain, hcut, hat, huserLength, huserChars, hlength, hdot, hfirst, hlast,
        (isDomain_iff hdot).1 hdomain⟩
  · rintro ⟨user, domain, h⟩
    have huser := (isUser_iff user).2 ⟨h.user_length, h.user_chars⟩
    have hdotted := (isDotted_iff domain).2 ⟨h.dot_mem, h.dot_not_first, h.dot_not_last⟩
    have hdomain := (isDomain_iff h.dot_mem).2 h.shape
    rw [isDeliverable, h.cut, splitLast?_append _ h.at_not_mem]
    simp [huser, hdomain, hdotted, h.domain_length]

/-! ## Stray characters -/

/-- what is stray in ASCII is the blank or a control character -/
theorem code_of_isStray {c : Char} (hascii : c.toNat < 0x80) (h : IsStray c) : c.toNat ≤ 0x20 ∨ c.toNat = 0x7F := by
  rcases h with h | h | h
  · simp only [isBlank, Bool.or_eq_true, Bool.and_eq_true, decide_eq_true_eq, beq_iff_eq] at h
    omega
  · omega
  · omega

theorem code_of_isUserChar {c : Char} (h : isUserChar c = true) : 0x21 ≤ c.toNat ∧ c.toNat ≤ 0x7E := by
  rw [isUserChar, Bool.or_eq_true] at h
  rcases h with h | h
  · have hcode := code_of_isAlphanum h
    omega
  · have hall : (".!#$%&'*+/=?^_`\x7b|\x7d~-".toList).all (fun c => 0x21 ≤ c.toNat && c.toNat ≤ 0x7E) = true := by decide
    simpa using List.all_eq_true.1 hall c (List.contains_iff_mem.1 h)

theorem code_of_hexValue? {c : Char} (h : (hexValue? c).isSome = true) : 0x30 ≤ c.toNat ∧ c.toNat ≤ 0x66 := by
  unfold hexValue? at h
  split at h
  · rename_i hdigit
    have hcode := toNat_bounds hdigit
    simp only [Char.reduceToNat] at hcode
    omega
  split at h
  · rename_i hsmall
    have hcode := toNat_bounds hsmall
    simp only [Char.reduceToNat] at hcode
    omega
  split at h
  · rename_i hcapital
    have hcode := toNat_bounds hcapital
    simp only [Char.reduceToNat] at hcode
    omega
  · exact absurd h nofun

/-- nothing in an address literal is stray -/
theorem AddressLiteral.not_mem {c : Char} (hc : c.toNat ≤ 0x20 ∨ c.toNat = 0x7F) {domain : List Char}
    (h : AddressLiteral domain) : c ∉ domain := by
  obtain ⟨inside, ip, rfl, hchars, -⟩ := h
  intro hmem
  rcases List.mem_cons.1 hmem with rfl | hmem
  · exact absurd hc (by decide)
  rcases List.mem_append.1 hmem with hmem | hmem
  · rcases hchars c hmem with hhex | rfl | rfl
    · have hcode := code_of_hexValue? hhex
      omega
    · exact absurd hc (by decide)
    · exact absurd hc (by decide)
  · obtain rfl := List.mem_singleton.1 hmem
    exact absurd hc (by decide)

/-- nothing in labels is stray -/
theorem DottedLabels.not_mem {c : Char} (hc : c.toNat ≤ 0x20 ∨ c.toNat = 0x7F) {domain : List Char}
    (h : DottedLabels domain) : c ∉ domain := by
  obtain ⟨labels, -, hlabels, rfl⟩ := h
  intro hmem
  rcases mem_of_mem_intercalate hmem with hmem | ⟨label, hlabel, hmem⟩
  · obtain rfl := List.mem_singleton.1 hmem
    exact absurd hc (by decide)
  · rcases (hlabels label hlabel).chars c hmem with hcode | rfl
    · have hcode := code_of_isAlphanum hcode
      omega
    · exact absurd hc (by decide)

/-- a stray character of an address in ASCII is in every form of its domain -/
theorem Mailbox.mem_form {Shape : List Char → Prop} {text : String} {user domain form : List Char}
    (h : Mailbox Shape text user domain) (hform : FormOf domain form) {c : Char}
    (hc : c.toNat ≤ 0x20 ∨ c.toNat = 0x7F) (hmem : c ∈ text.toList) : c ∈ form := by
  have hunmoved : Unmoved c := by
    unfold Unmoved
    omega
  have hhyphen : c ≠ '-' := by
    rintro rfl
    exact absurd hc (by decide)
  rw [h.cut, List.mem_append, List.mem_cons] at hmem
  rcases hmem with hmem | rfl | hmem
  · have hcode := code_of_isUserChar (h.user_chars c hmem)
    omega
  · exact absurd hc (by decide)
  · exact hform.mem hunmoved hhyphen hmem

/-- what is wholly labels or a bracketed address is that at its end -/
theorem Mailbox.trailing {text : String} {user domain : List Char} (h : Mailbox Whole text user domain) :
    Mailbox Trailing text user domain := by
  obtain ⟨form, hform, hwhole⟩ := h.shape
  exact { h with shape := ⟨form, hform, hwhole.imp id fun hliteral => ⟨[], form, rfl, hliteral⟩⟩ }

/-- an address whose domain is whole is all that it is said to be -/
theorem proper_iff (text : String) : Proper text ↔ ∃ user domain, Mailbox Whole text user domain := by
  refine ⟨Proper.parts, fun hparts => ⟨hparts, fun hascii c hc hstray => ?_⟩⟩
  obtain ⟨user, domain, h⟩ := hparts
  obtain ⟨form, hform, hwhole⟩ := h.shape
  have hcode := code_of_isStray (hascii c hc) hstray
  have hmem := h.mem_form hform hcode hc
  rcases hwhole with hlabels | hliteral
  · exact hlabels.not_mem hcode hmem
  · exact hliteral.not_mem hcode hmem

end Email

open Email in
/-- **What is accepted as a mail address.**  A text is accepted exactly if it is a user and a dotted domain around its
last at sign, and the domain, as it is written or in its ASCII form, is labels or ends in a bracketed internet
address.  It is what an address is said to be exactly if one of these forms is wholly labels or wholly such an
address; if it is in ASCII it is then free of stray characters.  Every proper text is accepted; the accepted ones that
are not proper have something before the bracket, and in ASCII all that is stray in them stands there. -/
theorem deliverable_addresses (text : String) :
    (isDeliverable text = true ↔ ∃ user domain, Mailbox Trailing text user domain) ∧
    (Proper text ↔ ∃ user domain, Mailbox Whole text user domain) ∧
    (Proper text → isDeliverable text = true) ∧
    (isDeliverable text = true → ¬ Proper text → ∃ user domain form ahead literal, Mailbox Trailing text user domain ∧
      FormOf domain form ∧ form = ahead ++ literal ∧ AddressLiteral literal ∧ ahead ≠ [] ∧
      ((∀ c ∈ text.toList, c.toNat < 0x80) → ∀ c ∈ text.toList, IsStray c → c ∈ ahead)) := by
  refine ⟨isDeliverable_iff text, proper_iff text, fun hproper => ?_, fun hdeliverable hproper => ?_⟩
  · obtain ⟨user, domain, h⟩ := hproper.parts
    exact (isDeliverable_iff text).2 ⟨user, domain, h.trailing⟩
  · obtain ⟨user, domain, h⟩ := (isDeliverable_iff text).1 hdeliverable
    rw [proper_iff] at hproper
    obtain ⟨form, hform, hlabels | ⟨ahead, literal, hahead, hliteral⟩⟩ := h.shape
    · exact absurd ⟨user, domain, { h with shape := ⟨form, hform, .inl hlabels⟩ }⟩ hproper
    · refine ⟨user, domain, form, ahead, literal, h, hform, hahead, hliteral, ?_, fun hascii c hc hstray => ?_⟩
      · rintro rfl
        exact hproper ⟨user, domain, { h with shape := ⟨form, hform, .inr (hahead ▸ hliteral)⟩ }⟩
      · have hcode := code_of_isStray (hascii c hc) hstray
        have hmem := h.mem_form hform hcode hc
        rw [hahead] at hmem
        exact (List.mem_append.1 hmem).resolve_right (hliteral.not_mem hcode)

open Email in
/-- a blank before a bracketed address is accepted -/
theorem blank_before_literal_is_deliverable :
    isDeliverable "user@a b.[1.2.3.4]" = true ∧ ¬ Proper "user@a b.[1.2.3.4]" := by
  refine ⟨by decide, fun h => ?_⟩
  have hascii : ("user@a b.[1.2.3.4]".toList.all fun c => c.toNat < 0x80) = true := by decide
  refine h.clean (fun c hc => of_decide_eq_true (List.all_eq_true.1 hascii c hc)) ' ' (by decide) (.inl rfl)

end MockBank
