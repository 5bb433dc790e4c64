import RemoteSearch.Proofs.Reading.Flow
import RemoteSearch.Proofs.Response.Parallel

set_option autoImplicit false

/-! # Responses are a matter of the flow

Two readers with the same flow give the same response and keep the same flow, be one of them
buffered or not (`readOccurrences_flow`), and so it can go on from response to response. Where a
stream brings nothing but bytes, the outcome is therefore a function of those bytes,
`Dialect.decode`.
-/

namespace RemoteSearch

namespace Dialect

/-- Two readers with the same flow. -/
def SameFlow (r s : Reader) : Prop := r.Ready ∧ s.Ready ∧ r.flow = s.flow

theorem readField_sameFlow (field : Field) (size : Nat) {r s : Reader} (h : SameFlow r s) :
    (r.readField field size).1 = (s.readField field size).1 ∧
      SameFlow (r.readField field size).2 (s.readField field size).2 := by
  obtain ⟨hr, hs, hflow⟩ := h
  obtain ⟨ho, hf⟩ := Reader.readField_flow field size hr
  obtain ⟨ho', hf'⟩ := Reader.readField_flow field size hs
  refine ⟨by rw [ho, ho', hflow], ?_, ?_, by rw [hf, hf', hflow]⟩
  · exact Reader.ready_of_advance (.readField field size r) hr
  · exact Reader.ready_of_advance (.readField field size s) hs

theorem readOccurrences_flow (d : Dialect) (mode : Mode) {r s : Reader} (h : SameFlow r s) :
    (d.readOccurrences mode r).1 = (d.readOccurrences mode s).1 ∧
      SameFlow (d.readOccurrences mode r).2 (d.readOccurrences mode s).2 :=
  (Parallel.lockstep d SameFlow readField_sameFlow).readOccurrences mode h

/-! ## Responses one after the other -/

/-- Reads responses one after the other, also after one that fails. -/
def readSeries (d : Dialect) : List Mode → Reader →
    List (Except Failure (List Occurrence)) × Reader
  | [], r => ([], r)
  | mode :: modes, r =>
    let (outcome, r) := d.readOccurrences mode r
    let (outcomes, r) := d.readSeries modes r
    (outcome :: outcomes, r)

/-! ## Decoding bytes -/

/-- A reader of bytes after which the stream ends. -/
def readerOf (bytes : List UInt8) : Reader := .direct { arrivals := [.data bytes] }

theorem flow_readerOf (bytes : List UInt8) : (readerOf bytes).flow = Flow.ofBytes bytes :=
  List.append_nil _

theorem rest_readerOf (bytes : List UInt8) : (readerOf bytes).rest = bytes := by
  rw [← Reader.bytes_flow, flow_readerOf, Flow.bytes_ofBytes]

theorem ready_readerOf (bytes : List UInt8) : (readerOf bytes).Ready := nofun

/-- The outcome of reading a response off bytes after which the stream ends, and the number of
bytes it took. -/
def decode (d : Dialect) (mode : Mode) (bytes : List UInt8) :
    Except Failure (List Occurrence) × Nat :=
  match d.readOccurrences mode (readerOf bytes) with
  | (outcome, r) => (outcome, r.connection.taken)

/-- A reader without room to read ahead has taken what is no longer to come. -/
theorem taken_of_unbuffered {r r' : Reader} (h : Reader.Advance r r') (hr : r.Unbuffered) :
    r'.connection.taken + r'.rest.length = r.connection.taken + r.rest.length := by
  rw [(hr.of_advance h).rest, hr.rest]
  exact h.taken

/-- The bytes that are decoded and the bytes that are left are all there are. -/
theorem rest_decode (d : Dialect) (mode : Mode) (bytes : List UInt8) :
    (d.decode mode bytes).2 ≤ bytes.length ∧
      (d.readOccurrences mode (readerOf bytes)).2.rest = bytes.drop (d.decode mode bytes).2 := by
  have hadv := advance_readOccurrences d mode (readerOf bytes)
  have hcount := taken_of_unbuffered hadv (.direct _)
  have hzero : (readerOf bytes).connection.taken = 0 := rfl
  rw [rest_readerOf, hzero, Nat.zero_add] at hcount
  have hsuffix := List.suffix_iff_eq_drop.1 hadv.rest
  rw [rest_readerOf] at hsuffix
  have htaken : (d.decode mode bytes).2 =
    (d.readOccurrences mode (readerOf bytes)).2.connection.taken := rfl
  refine ⟨by omega, ?_⟩
  rw [hsuffix]
  congr 1
  omega

/-- Where certain bytes are left to come, those before them were decoded. -/
theorem decode_of_flow {d : Dialect} {mode : Mode} {bytes after : List UInt8}
    (h : (d.readOccurrences mode (readerOf (bytes ++ after))).2.flow = Flow.ofBytes after) :
    (d.decode mode (bytes ++ after)).2 = bytes.length := by
  obtain ⟨hle, hrest⟩ := rest_decode d mode (bytes ++ after)
  rw [← Reader.bytes_flow, h, Flow.bytes_ofBytes] at hrest
  have hlength := congrArg List.length hrest
  rw [List.length_drop] at hlength
  rw [List.length_append] at hle hlength
  omega

/-- Where nothing is left to come, all bytes were decoded. -/
theorem decode_of_flow_nil {d : Dialect} {mode : Mode} {bytes : List UInt8}
    (h : (d.readOccurrences mode (readerOf bytes)).2.flow = []) :
    (d.decode mode bytes).2 = bytes.length := by
  have key := @decode_of_flow d mode bytes []
  rw [List.append_nil] at key
  exact key h

/-- Bytes are decoded in the same way wherever a reader finds them, and the bytes left over are
still to come. -/
theorem readOccurrences_of_delivers (d : Dialect) (mode : Mode) {r : Reader} (hr : r.Ready)
    (h : ∀ a ∈ r.connection.arrivals, a.Delivers) :
    (d.readOccurrences mode r).1 = (d.decode mode r.rest).1 ∧
      (d.readOccurrences mode r).2.rest = r.rest.drop (d.decode mode r.rest).2 := by
  have hsame : SameFlow r (readerOf r.rest) :=
    ⟨hr, ready_readerOf r.rest, by rw [flow_readerOf, Reader.flow_of_delivers h]⟩
  obtain ⟨ho, -, -, hflow⟩ := readOccurrences_flow d mode hsame
  refine ⟨ho, ?_⟩
  rw [← Reader.bytes_flow, hflow, Reader.bytes_flow]
  exact (rest_decode d mode r.rest).2

end Dialect

end RemoteSearch
