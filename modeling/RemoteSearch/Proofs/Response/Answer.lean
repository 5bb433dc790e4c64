import RemoteSearch.Proofs.Response.Grammar

set_option autoImplicit false

/-! # What a server answers

For the matches of a search a server sends as much as the mode asks for. Where this is within the
limits of the reader, the answer is of the grammar of responses (`encodes_answer`), and the
occurrences in it show the matches themselves (`shown_occurrencesFor`).
-/

namespace RemoteSearch

namespace Wire.WideText

theorem length_bytes_ofChars (order : Endian) (s : List Char) :
    (ofChars order s).bytes.length = unitSize * s.length := by
  have hbytes : (ofChars order s).bytes = (s.map Char.val).flatMap order.encode := by
    rw [List.flatMap_map]
    rfl
  rw [hbytes, Endian.length_flatMap_encode, List.length_map, unitSize]

theorem toString_ofChars (order : Endian) (s : String) :
    (ofChars order s.toList).toString order = s := by
  rw [toString, toChars_ofChars, String.ofList_toList]

end Wire.WideText

/-- True of an occurrence that is within the limit of a dialect, and whose sizes fit into signed
words. -/
def Occurrence.Within (d : Dialect) (o : Occurrence) : Prop :=
  o.data.length ≤ min d.fieldLimit (2 ^ 31 - 1) ∧
    ∀ t ∈ o.needle, t.bytes.length ≤ d.fieldLimit ∧ t.length ≤ 2 ^ 31 - 1

instance (d : Dialect) (o : Occurrence) : Decidable (o.Within d) :=
  inferInstanceAs (Decidable (_ ∧ _))

namespace Response

theorem needle_occurrenceFor (order : Wire.Endian) (mode : Mode) (found : List UInt8 × String) :
    (occurrenceFor order mode found).needle =
      if mode.hasNeedle then some (.ofChars order found.2.toList) else none := rfl

theorem fits_occurrenceFor {d : Dialect} {mode : Mode} {found : List UInt8 × String}
    (h : (occurrenceFor d.order mode found).Within d) :
    Fits d mode (occurrenceFor d.order mode found) := by
  obtain ⟨hdata, hneedle⟩ := h
  rw [needle_occurrenceFor] at hneedle
  by_cases hm : mode.hasNeedle
  · rw [if_pos hm] at hneedle
    obtain ⟨hwithin, hlength⟩ := hneedle _ rfl
    have hsize := Wire.WideText.length_bytes_ofChars d.order found.2.toList
    refine ⟨hdata, ?_, fun t ht => ?_⟩
    · rw [needle_occurrenceFor, if_pos hm, hm]
      rfl
    · rw [needle_occurrenceFor, if_pos hm] at ht
      cases ht
      simp only [Wire.WideText.length, hsize, Wire.unitSize] at hlength
      refine ⟨?_, hwithin, ?_⟩
      · rw [hsize]
        exact Nat.mul_mod_right _ _
      · rw [hsize]
        simp only [Wire.unitSize]
        omega
  · refine ⟨hdata, ?_, fun t ht => ?_⟩
    · rw [needle_occurrenceFor, if_neg hm, Bool.eq_false_iff.2 hm]
      rfl
    · rw [needle_occurrenceFor, if_neg hm] at ht
      cases ht

/-- What a server sends for its matches is a response with their occurrences. -/
theorem encodes_answer {d : Dialect} {mode : Mode} {matched : List (List UInt8 × String)}
    (h : ∀ o ∈ occurrencesFor d.order mode matched, o.Within d) :
    Encodes d mode (occurrencesFor d.order mode matched) (answer d.order mode matched) := by
  refine Dialect.encodes_iff.2 ⟨fun o ho => ?_, fun hstops => ?_, -1, by decide, rfl⟩
  · have hmem : o ∈ matched.map (occurrenceFor d.order mode) := by
      unfold occurrencesFor at ho
      simp only [] at ho
      split at ho
      · exact List.mem_of_mem_take ho
      · exact ho
    obtain ⟨found, -, rfl⟩ := List.mem_map.1 hmem
    exact fits_occurrenceFor (h _ ho)
  · unfold occurrencesFor
    rw [if_pos hstops, List.length_take]
    exact Nat.min_le_left _ _

/-- The occurrences that a server sends show its matches in their order: no more than the first
where the mode stops there, each with what the mode asks for. -/
theorem shown_occurrencesFor (order : Wire.Endian) (mode : Mode)
    (matched : List (List UInt8 × String)) :
    (occurrencesFor order mode matched).map
        (fun o => (o.data, o.needle.map (·.toString order))) =
      (if mode.stopsAtFirst then matched.take 1 else matched).map fun found =>
        (if mode.hasUserData then found.1 else [],
          if mode.hasNeedle then some found.2 else none) := by
  have key : ∀ found : List UInt8 × String,
      ((occurrenceFor order mode found).data,
        (occurrenceFor order mode found).needle.map (·.toString order)) =
      (if mode.hasUserData then found.1 else [],
        if mode.hasNeedle then some found.2 else none) := by
    intro found
    rw [needle_occurrenceFor]
    by_cases hm : mode.hasNeedle
    · rw [if_pos hm, if_pos hm, Option.map_some, Wire.WideText.toString_ofChars]
      rfl
    · rw [if_neg hm, if_neg hm]
      rfl
  unfold occurrencesFor
  by_cases hstops : mode.stopsAtFirst
  · rw [if_pos hstops, if_pos hstops, ← List.map_take, List.map_map]
    exact List.map_congr_left fun found _ => key found
  · rw [if_neg hstops, if_neg hstops, List.map_map]
    exact List.map_congr_left fun found _ => key found

end Response

end RemoteSearch
