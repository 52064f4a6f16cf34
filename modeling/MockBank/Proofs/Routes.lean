/-
Where paths lead.  A path with a free segment leads to the endpoint of that segment, whatever the segment spells; a
segment of plain characters spells itself.

- `Endpoint.ofPath?_schema`, `Endpoint.ofPath?_customer`: a free segment is all that stands behind the fixed part.
- `Endpoint.segmentText?_of_plain`: ASCII characters other than the percent sign stand for themselves.
-/
import MockBank.Api.Request

namespace MockBank

namespace Endpoint

/-- an ASCII segment without a percent sign spells itself -/
theorem segmentText?_of_plain {s : String} (h : ∀ c ∈ s.toList, c.toNat < 0x80 ∧ c ≠ '%') :
    segmentText? s.toList = some s := by
  have hascii : ∀ c ∈ s.toList, c.toNat < 0x80 := fun c hc => (h c hc).1
  have hpercent : (0x25 : UInt8) ∉ s.toUTF8.toList := by
    rw [Text.toList_toUTF8, Text.flatMap_utf8EncodeChar_of_ascii hascii]
    intro hmem
    obtain ⟨c, hc, hcode⟩ := List.mem_map.1 hmem
    refine (h c hc).2 ?_
    have hnat : c.toNat = 0x25 := by
      rw [← Text.toNat_toUInt8 (hascii c hc), hcode]
      rfl
    rw [← Char.ofNat_toNat c, hnat]
  rw [segmentText?, String.ofList_toList, Text.Percent.decode_of_no_percent _ hpercent,
    Text.decode?_toUTF8_of_ascii hascii]

/-! ## Free segments -/

/-- all that stands behind the fixed part of a path is its free segment -/
theorem freeSegment?_append (start : String) {segment : List Char} (hne : segment ≠ []) (hslash : '/' ∉ segment) :
    freeSegment? start (start.toList ++ segment) = some segment := by
  have hstart : start.toList.isPrefixOf (start.toList ++ segment) = true :=
    List.isPrefixOf_iff_prefix.2 (List.prefix_append _ _)
  have hdrop : (start.toList ++ segment).drop start.length = segment := by
    rw [← String.length_toList, List.drop_left]
  simp only [freeSegment?, hstart, hdrop, if_true]
  rw [if_neg]
  simp [hne, hslash]

/-- no fixed path begins like a path with a free segment -/
theorem find?_fixedPaths_eq_none {start : String} (h : ∀ p ∈ fixedPaths, start.toList.isPrefixOf p.1.toList = false)
    (segment : List Char) : (fixedPaths.find? fun p => p.1.toList == start.toList ++ segment) = none := by
  refine List.find?_eq_none.2 fun p hp heq => ?_
  have hprefix : start.toList.isPrefixOf p.1.toList = true := by
    rw [beq_iff_eq.1 heq]
    exact List.isPrefixOf_iff_prefix.2 (List.prefix_append _ _)
  rw [h p hp] at hprefix
  exact absurd hprefix Bool.false_ne_true

/-- **A path to a schema.** -/
theorem ofPath?_schema {segment : List Char} (hne : segment ≠ []) (hslash : '/' ∉ segment) :
    ofPath? ("/api/schemas/".toList ++ segment) = some (.schema segment) := by
  rw [ofPath?, find?_fixedPaths_eq_none (by decide), freeSegment?_append _ hne hslash]

/-- **A path to a customer.** -/
theorem ofPath?_customer {segment : List Char} (hne : segment ≠ []) (hslash : '/' ∉ segment) :
    ofPath? ("/api/customers/".toList ++ segment) = some (.customer segment) := by
  have hother : freeSegment? "/api/schemas/" ("/api/customers/".toList ++ segment) = none := by
    rfl
  rw [ofPath?, find?_fixedPaths_eq_none (by decide), hother, freeSegment?_append _ hne hslash]
  rfl

end Endpoint

end MockBank
