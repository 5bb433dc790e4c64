import RemoteSearch.Proofs.Response.Flow

set_option autoImplicit false

/-! # How a stream is cut

The network cuts a stream as it likes, brings as little as it likes to each read, and interrupts
reads. None of this shows in the responses that are read: two streams with the same flow give the
same outcomes one by one, and each outcome has taken the same number of bytes from either
(`readCounted_of_sameFlow`). In particular this holds for two streams that bring the same bytes and
nothing between them at which a field stops (`readCounted_of_same_bytes`).
-/

namespace RemoteSearch.Dialect

/-- Reads responses one after the other, also after one that fails. Each outcome stands with the
number of bytes that it has taken from the connection. -/
def readCounted (d : Dialect) : List Mode → Reader →
    List (Except Failure (List Occurrence) × Nat)
  | [], _ => []
  | mode :: modes, r =>
    let (outcome, r') := d.readOccurrences mode r
    (outcome, r'.connection.taken - r.connection.taken) :: d.readCounted modes r'

theorem readCounted_cons (d : Dialect) (mode : Mode) (modes : List Mode) (r : Reader) :
    d.readCounted (mode :: modes) r =
      ((d.readOccurrences mode r).1,
        (d.readOccurrences mode r).2.connection.taken - r.connection.taken) ::
      d.readCounted modes (d.readOccurrences mode r).2 := rfl

/-- Unbuffered readers with the same flow take the same number of bytes for a response. -/
theorem taken_of_sameFlow (d : Dialect) (mode : Mode) {r s : Reader} (h : SameFlow r s)
    (hr : r.Unbuffered) (hs : s.Unbuffered) :
    (d.readOccurrences mode r).2.connection.taken - r.connection.taken =
      (d.readOccurrences mode s).2.connection.taken - s.connection.taken := by
  have hrest : r.rest = s.rest := by
    rw [← Reader.bytes_flow, ← Reader.bytes_flow, h.2.2]
  obtain ⟨-, -, -, hflow'⟩ := d.readOccurrences_flow mode h
  have hrest' : (d.readOccurrences mode r).2.rest = (d.readOccurrences mode s).2.rest := by
    rw [← Reader.bytes_flow, ← Reader.bytes_flow, hflow']
  have hcount := taken_of_unbuffered (d.advance_readOccurrences mode r) hr
  have hcount' := taken_of_unbuffered (d.advance_readOccurrences mode s) hs
  rw [hrest, hrest'] at hcount
  omega

theorem readCounted_of_sameFlow (d : Dialect) (modes : List Mode) {r s : Reader}
    (h : SameFlow r s) (hr : r.Unbuffered) (hs : s.Unbuffered) :
    d.readCounted modes r = d.readCounted modes s := by
  induction modes generalizing r s with
  | nil => rfl
  | cons mode modes ih =>
    obtain ⟨ho, h'⟩ := d.readOccurrences_flow mode h
    have hr' := hr.of_advance (d.advance_readOccurrences mode r)
    have hs' := hs.of_advance (d.advance_readOccurrences mode s)
    rw [readCounted_cons, readCounted_cons, ho, d.taken_of_sameFlow mode h hr hs, ih h' hr' hs']

/-- Responses do not depend on how the bytes of a stream are cut. Two streams that bring the same
bytes, in whatever pieces, under whatever limits for one read and with whatever interruptions, give
the same outcomes one by one, be they occurrences or failures, and each outcome takes the same
number of bytes from either. -/
theorem readCounted_of_same_bytes (d : Dialect) (modes : List Mode) {c c' : Connection}
    (hlimit : c.readLimit ≠ some 0) (hlimit' : c'.readLimit ≠ some 0)
    (hdelivers : ∀ a ∈ c.arrivals, a.Delivers) (hdelivers' : ∀ a ∈ c'.arrivals, a.Delivers)
    (hbytes : Arrival.bytes c.arrivals = Arrival.bytes c'.arrivals) :
    d.readCounted modes (.direct c) = d.readCounted modes (.direct c') := by
  refine d.readCounted_of_sameFlow modes ⟨hlimit, hlimit', ?_⟩ (.direct c) (.direct c')
  calc (Reader.direct c).flow
      = Flow.ofBytes (Reader.direct c).rest := Reader.flow_of_delivers hdelivers
    _ = Flow.ofBytes (Reader.direct c').rest := congrArg Flow.ofBytes hbytes
    _ = (Reader.direct c').flow := (Reader.flow_of_delivers hdelivers').symm

/-- A response that stops at its first occurrence, a needle of negative length and data that are cut
short: once at one stroke, and once in pieces, with interruptions inside the fields. -/
theorem readCounted_of_same_bytes_in_pieces :
    let interrupted : Arrival := .failure (.ofKind .interrupted)
    let whole : Connection :=
      { arrivals := [.data [0, 0, 0, 1, 65, 0, 0, 0, 0, 255, 255, 255, 255, 0, 0, 0, 3, 66]] }
    let pieces : Connection :=
      { arrivals := [interrupted, .data [0, 0], .data [], interrupted, interrupted,
          .data [0, 1, 65], .data [0, 0, 0, 0, 255], interrupted,
          .data [255, 255, 255, 0, 0, 0, 3, 66], .data []]
        readLimit := some 3 }
    let outcomes := Dialect.readCounted ⟨.big, 16⟩ [.first, .needle, .empty] (.direct whole)
    Dialect.readCounted ⟨.big, 16⟩ [.first, .needle, .empty] (.direct pieces) = outcomes ∧
      outcomes = [(.ok [⟨[65], none⟩], 5), (.error (.protocol (.negativeNeedleLength (-1))), 8),
        (.error (.shortRead .data 3 1), 5)] := by
  intro interrupted whole pieces outcomes
  refine ⟨?_, by decide +kernel⟩
  exact @readCounted_of_same_bytes ⟨.big, 16⟩ [.first, .needle, .empty] pieces whole (by decide)
    (by decide) (by decide) (by decide) (by decide)

end RemoteSearch.Dialect
