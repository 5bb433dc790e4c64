import RemoteSearch.Proofs.Response.Answer
import RemoteSearch.Proofs.Wire.WideText

set_option autoImplicit false

/-! # The text of needles

A needle is kept as the bytes that came, and read as text when it is shown. Whatever the bytes are,
the text has one character for each whole unit, and says what the bytes say as far as they are
scalar values (`needle_text`). A needle that was read from a response has whole units only, as many
as the word before it gives.
-/

namespace RemoteSearch

namespace Response

/-- A needle with what stands for it in a response: a word that gives its length, and its bytes. -/
structure ReceivedNeedle (order : Wire.Endian) (t : Wire.WideText) (wire : List UInt8) : Prop where
  whole : Wire.unitSize ∣ t.bytes.length
  announced : ∃ w : Int32, w.toInt = t.length ∧ wire = order.encodeSigned w ++ t.bytes
  empty : t.isEmpty = true ↔ t.length = 0

theorem isEmpty_iff_of_whole {t : Wire.WideText} (h : Wire.unitSize ∣ t.bytes.length) :
    t.isEmpty = true ↔ t.length = 0 := by
  rw [Wire.WideText.isEmpty, List.isEmpty_iff_length_eq_zero, Wire.WideText.length]
  rw [Wire.unitSize] at h ⊢
  omega

theorem NeedleFits.received {d : Dialect} {t : Wire.WideText} (h : NeedleFits d t) :
    ReceivedNeedle d.order t (count d.order t.length ++ t.bytes) where
  whole := Nat.dvd_of_mod_eq_zero h.whole
  announced := ⟨Int32.ofNat t.length, Int32.toInt_ofNat_of_lt h.length_lt, rfl⟩
  empty := isEmpty_iff_of_whole (Nat.dvd_of_mod_eq_zero h.whole)

/-- A response has the record of each of its occurrences, after those of the ones before it. -/
theorem Encodes.record {d : Dialect} {mode : Mode} {before after : List Occurrence}
    {o : Occurrence} {bytes : List UInt8} (h : Encodes d mode (before ++ o :: after) bytes) :
    Fits d mode o ∧ ∃ later,
      bytes = before.flatMap (recordBytes d.order) ++ recordBytes d.order o ++ later := by
  generalize hos : before ++ o :: after = os at h
  cases h with
  | @all _ closing stops fits negative =>
    subst hos
    refine ⟨fits o (List.mem_append_right before (List.mem_cons_self ..)),
      after.flatMap (recordBytes d.order) ++ d.order.encodeSigned closing, ?_⟩
    rw [List.flatMap_append, List.flatMap_cons]
    simp only [List.append_assoc]
  | one stops fits =>
    obtain ⟨rfl, hone⟩ | ⟨_, _, hnone⟩ := List.append_eq_cons_iff.1 hos
    · obtain ⟨rfl, rfl⟩ := List.cons.inj hone
      exact ⟨fits, [], (List.append_nil _).symm⟩
    · cases (List.append_eq_nil_iff.1 hnone.symm).2
  | none => cases (List.append_eq_nil_iff.1 hos).2

end Response

namespace Dialect

theorem received_of_readBody {d : Dialect} {mode : Mode} {size : Nat} {r r' : Reader}
    {o : Occurrence} (h : d.readBody mode size r = (.ok o, r')) {t : Wire.WideText}
    (ht : o.needle = some t) :
    ∃ wire, Response.ReceivedNeedle d.order t wire ∧ r.rest = o.data ++ wire ++ r'.rest := by
  unfold readBody at h
  split at h
  · cases h
  · next data r₁ hdata =>
    obtain ⟨hrest, -⟩ := Reader.rest_readField hdata
    split at h
    · split at h
      · cases h
      · next needle r₂ hneedle =>
        cases h
        cases ht
        obtain ⟨hfits, hrest'⟩ := needleFits_of_readNeedle hneedle
        refine ⟨_, hfits.received, ?_⟩
        rw [hrest, hrest', List.append_assoc data]
    · cases h
      cases ht

theorem received_of_readOccurrences {d : Dialect} {mode : Mode} {r r' : Reader}
    {before after : List Occurrence} {o : Occurrence}
    (h : d.readOccurrences mode r = (.ok (before ++ o :: after), r')) {t : Wire.WideText}
    (ht : o.needle = some t) :
    ∃ wire later, Response.ReceivedNeedle d.order t wire ∧
      r.rest = before.flatMap (Response.recordBytes d.order) ++
        (Response.count d.order o.data.length ++ o.data ++ wire) ++ later := by
  obtain ⟨bytes, hrest, hencodes⟩ := encodes_of_readOccurrences h
  obtain ⟨hfits, later, rfl⟩ := hencodes.record
  refine ⟨_, later ++ r'.rest, (hfits.needleFits t ht).received, ?_⟩
  rw [hrest, Response.recordBytes_eq, ht]
  simp only [List.append_assoc]

end Dialect

namespace Wire

/-- Bytes that are read as text have one character for each whole unit, which is the one of the
unit's scalar value or else `U+FFFD`. Writing the text again gives the bytes back if and only if
nothing was lost, and text that is written is read as it was. Texts of whole units can be put
together. Needles that were received are such texts, and as long as the wire says. -/
theorem needle_text :
    (∀ (order : Endian) (t : WideText),
      (t.toString order).toList.length = t.length ∧ t.length = t.bytes.length / 4 ∧
      (∀ i < t.length, ∃ a b c d, t.HasUnit i a b c d ∧
        (t.toString order).toList[i]? = some (shownAs (order.codePoint a b c d))) ∧
      (WideText.ofChars order (t.toString order).toList = t ↔ t.Faithful order)) ∧
    (∀ (order : Endian) (s : String), (WideText.ofChars order s.toList).toString order = s) ∧
    (∀ (order : Endian) (left right : List UInt8), unitSize ∣ left.length →
      WideText.toString order ⟨left ++ right⟩ =
        WideText.toString order ⟨left⟩ ++ WideText.toString order ⟨right⟩) ∧
    (∀ (d : Dialect) (mode : Mode) (size : Nat) (r r' : Reader) (o : Occurrence) (t : WideText),
      d.readBody mode size r = (.ok o, r') → o.needle = some t →
      ∃ wire, Response.ReceivedNeedle d.order t wire ∧ r.rest = o.data ++ wire ++ r'.rest) ∧
    (∀ (d : Dialect) (mode : Mode) (r r' : Reader) (before after : List Occurrence)
      (o : Occurrence) (t : WideText),
      d.readOccurrences mode r = (.ok (before ++ o :: after), r') → o.needle = some t →
      ∃ wire later, Response.ReceivedNeedle d.order t wire ∧
        r.rest = before.flatMap (Response.recordBytes d.order) ++
          (Response.count d.order o.data.length ++ o.data ++ wire) ++ later) := by
  refine ⟨fun order t => ?_, WideText.toString_ofChars,
    fun order left right h => WideText.toString_append order h right,
    fun d mode size r r' o t h ht => Dialect.received_of_readBody h ht,
    fun d mode r r' before after o t h ht => Dialect.received_of_readOccurrences h ht⟩
  rw [WideText.toString, String.toList_ofList]
  exact ⟨WideText.length_toChars order t, rfl, fun i hi => WideText.exists_hasUnit order hi,
    WideText.ofChars_toChars_iff order t⟩

end Wire

end RemoteSearch
