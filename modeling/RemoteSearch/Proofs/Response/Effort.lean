import Mathlib.Algebra.Order.BigOperators.Group.List
import Mathlib.Algebra.Order.Group.Nat
import Mathlib.Algebra.Ring.Nat
import RemoteSearch.Proofs.Reading.Effort
import RemoteSearch.Proofs.Response.Grammar

set_option autoImplicit false

/-! # What a response costs

Reading a response comes to an end on every stream, and a server cannot have more calls made than it
sends bytes, or more returned. All calls that are made are reads; each of them takes a byte or meets
an interruption, but for one at most, at which the reading fails. And the occurrences that are
returned are what was taken: the bytes of a response are the sizes of its occurrences and of the
closing word, where there is one (`readOccurrences_bounded`).

Nothing is said about the room for a field that is still to come. It may be made for the whole size
that was announced, up to the limit, before any byte of the field is there.

The count of calls goes through the response as any other property of fields
(`Parallel.spending`), and the sizes are read off the grammar.
-/

namespace RemoteSearch

/-! ## Calls -/

/-- A reader beside itself that has made no idle calls since the start, while nothing has failed. -/
def Parallel.spending (d : Dialect) (start : Reader) : Parallel d where
  readers r s := r = s ∧ r.Unbuffered ∧ Reader.Spends 0 start r
  outcomes x y := x = y ∧ x.2.Unbuffered ∧ Reader.Spends (Reader.idleOf x.1) start x.2
  value := by
    rintro _ o r _ _ ⟨rfl, hr, h⟩
    exact ⟨rfl, hr, h.mono (Nat.zero_le _)⟩
  andThen {_ _ x _ f g} h k := by
    obtain ⟨rfl, hr, h⟩ := h
    obtain ⟨o, r⟩ := x
    cases o with
    | error e => exact ⟨rfl, hr, h⟩
    | ok a => exact k a r r rfl ⟨rfl, hr, h⟩
  readField := by
    rintro field size r _ _ ⟨rfl, hr, h⟩
    have key := h.trans (Reader.spends_readField field size hr)
    rw [Nat.zero_add] at key
    exact ⟨rfl, hr.of_advance (.readField field size r), key⟩

/-- A response costs no more calls than it takes bytes and meets interruptions, and one if it
fails. -/
theorem Dialect.spends_readOccurrences (d : Dialect) (mode : Mode) {r : Reader}
    (h : r.Unbuffered) :
    Reader.Spends (Reader.idleOf (d.readOccurrences mode r).1) r (d.readOccurrences mode r).2 :=
  ((Parallel.spending d r).readOccurrences mode ⟨rfl, h, .refl r⟩).2.2

/-! ## Sizes -/

/-- The number of bytes of a record on the wire. -/
def Occurrence.wireSize (o : Occurrence) : Nat :=
  4 + o.data.length +
    match o.needle with
    | none => 0
    | some t => 4 + t.bytes.length

namespace Occurrence

theorem four_le_wireSize (o : Occurrence) : 4 ≤ o.wireSize := by
  rw [wireSize]
  omega

/-- With a needle there are two words at least. -/
theorem eight_le_wireSize {o : Occurrence} (h : o.needle.isSome = true) : 8 ≤ o.wireSize := by
  obtain ⟨t, ht⟩ := Option.isSome_iff_exists.1 h
  rw [wireSize, ht]
  show 8 ≤ 4 + o.data.length + (4 + t.bytes.length)
  omega

end Occurrence

namespace Response

/-- The number of bytes of the closing word, which is missing after the first occurrence in a mode
that stops there. -/
def closingSize (mode : Mode) (os : List Occurrence) : Nat :=
  match mode.stopsAtFirst, os with
  | true, _ :: _ => 0
  | _, _ => 4

theorem length_recordBytes (order : Wire.Endian) (o : Occurrence) :
    (recordBytes order o).length = o.wireSize := by
  rw [recordBytes_eq, Occurrence.wireSize]
  cases o.needle <;> simp only [List.length_append, length_count, List.length_nil]

/-- A response has the size of its occurrences and of its closing word. -/
theorem length_of_encodes {d : Dialect} {mode : Mode} {os : List Occurrence} {bytes : List UInt8}
    (h : Encodes d mode os bytes) :
    bytes.length = (os.map Occurrence.wireSize).sum + closingSize mode os := by
  cases h with
  | all stops =>
    rw [List.length_append, List.length_flatMap, Wire.Endian.length_encodeSigned]
    simp only [length_recordBytes, closingSize, stops]
  | one stops =>
    rw [length_recordBytes]
    simp [closingSize, stops]
  | none stops =>
    rw [Wire.Endian.length_encodeSigned]
    simp [closingSize, stops]

/-- Records of a least size are so many times that size at least. -/
theorem length_mul_le {least : Nat} {os : List Occurrence} (h : ∀ o ∈ os, least ≤ o.wireSize) :
    least * os.length ≤ (os.map Occurrence.wireSize).sum := by
  have key := List.card_nsmul_le_sum (os.map Occurrence.wireSize) least fun n hn => by
    obtain ⟨o, ho, rfl⟩ := List.mem_map.1 hn
    exact h o ho
  rwa [List.length_map, Nat.nsmul_eq_mul, Nat.mul_comm] at key

end Response

namespace Dialect

/-- The occurrences of a response are the bytes that it took. -/
theorem sizes_of_readOccurrences {d : Dialect} {mode : Mode} {r r' : Reader} (hr : r.Unbuffered)
    {os : List Occurrence} (h : d.readOccurrences mode r = (.ok os, r')) :
    r'.connection.taken =
        r.connection.taken + ((os.map Occurrence.wireSize).sum + Response.closingSize mode os) ∧
      ∀ o ∈ os, o.needle.isSome = mode.hasNeedle := by
  obtain ⟨bytes, hrest, hencodes⟩ := encodes_of_readOccurrences h
  have hadvance := d.advance_readOccurrences mode r
  rw [h] at hadvance
  have hcount : r'.connection.taken + r'.rest.length = r.connection.taken + r.rest.length :=
    taken_of_unbuffered hadvance hr
  have hbytes := Response.length_of_encodes hencodes
  rw [hrest, List.length_append] at hcount
  refine ⟨by omega, fun o ho => ?_⟩
  exact ((encodes_iff.1 hencodes).1 o ho).needle

/-- Reading a response ends on every stream, and neither reads more often nor returns more than it
is sent.

The calls it makes are reads. There are at most as many as bytes they took and interruptions they
met, and one more; and so there is a bound for them before the first one is made, in what the
stream has in store. Occurrences that are read have taken exactly their own bytes and those of the
closing word, so that each of them has taken four at least, and eight where needles are sent. -/
theorem readOccurrences_bounded (d : Dialect) (mode : Mode) (c : Connection) :
    let outcome := (d.readOccurrences mode (.direct c)).1
    let c' := (d.readOccurrences mode (.direct c)).2.connection
    ∃ (reads : List Call) (consumed : Nat), c'.history = c.history ++ reads ∧
      (∀ call ∈ reads, call.isRead = true) ∧ c'.taken = c.taken + consumed ∧
      reads.length ≤ consumed + reads.countP Call.isInterrupted + 1 ∧
      consumed ≤ (Arrival.bytes c.arrivals).length ∧
      reads.countP Call.isInterrupted ≤ c.arrivals.countP Arrival.isInterruption ∧
      ∀ os, outcome = .ok os →
        consumed = (os.map Occurrence.wireSize).sum + Response.closingSize mode os ∧
        (∀ o ∈ os, o.needle.isSome = mode.hasNeedle) ∧
        4 * os.length ≤ consumed ∧ (mode.hasNeedle = true → 8 * os.length ≤ consumed) := by
  intro outcome c'
  have hdirect : (Reader.direct c).Unbuffered := .direct c
  obtain ⟨reads, hhistory, hreads, hlength, hstore⟩ := d.spends_readOccurrences mode hdirect
  have htaken : c'.taken = c.taken + (reads.map Call.taken).sum :=
    Connection.taken_of_history hhistory
  have hidle : Reader.idleOf outcome ≤ 1 := by
    cases outcome with
    | ok os => exact Nat.zero_le 1
    | error e => exact Nat.le_refl 1
  have hbytes : c'.taken + (Arrival.bytes c'.arrivals).length =
      c.taken + (Arrival.bytes c.arrivals).length :=
    (d.advance_readOccurrences mode (.direct c)).taken
  have hinterruptions :
      reads.countP Call.isInterrupted + c'.arrivals.countP Arrival.isInterruption =
        c.arrivals.countP Arrival.isInterruption := hstore
  refine ⟨reads, (reads.map Call.taken).sum, hhistory, hreads, htaken, ?_, by omega, by omega,
    fun os hos => ?_⟩
  · exact Nat.le_trans hlength (Nat.add_le_add_left hidle _)
  · have hread : d.readOccurrences mode (.direct c) =
        (.ok os, (d.readOccurrences mode (.direct c)).2) := Prod.ext hos rfl
    obtain ⟨hsizes, hneedles⟩ := sizes_of_readOccurrences hdirect hread
    have hconsumed : (reads.map Call.taken).sum =
        (os.map Occurrence.wireSize).sum + Response.closingSize mode os := by
      have hsizes' : c'.taken =
        c.taken + ((os.map Occurrence.wireSize).sum + Response.closingSize mode os) := hsizes
      omega
    refine ⟨hconsumed, hneedles, ?_, fun hm => ?_⟩
    · have := Response.length_mul_le fun o (_ : o ∈ os) => o.four_le_wireSize
      omega
    · have := Response.length_mul_le fun o (ho : o ∈ os) =>
        Occurrence.eight_le_wireSize ((hneedles o ho).trans hm)
      omega

end Dialect

end RemoteSearch
