import RemoteSearch.Proofs.Client.Receiving
import RemoteSearch.Proofs.Response.Continuation

set_option autoImplicit false

/-! # What decides an outcome

The outcome of reading a response is decided by the bytes it needs. A failure of the stream matters
only if it strikes before they have arrived, and then it is reported for what it is. This holds for
reading a stream directly and for receiving through a client, whose bytes read ahead come first.
-/

namespace RemoteSearch

/-- How reading a response goes when `later` arrives after the bytes that a reader brings by itself,
of which `alone` tells the outcome and the number that are decoded when the stream ends there. -/
structure DecidedBy (read : Reader → Except Failure (List Occurrence) × Reader)
    (alone : Except Failure (List Occurrence) × Nat) (r : Reader) (later : List Arrival) :
    Prop where
  /-- Without need of more bytes, the outcome is the same, the same bytes are decoded, and nothing
  of what comes later is taken. -/
  complete : NotShort alone.1 →
    (read (r.followedBy later)).1 = alone.1 ∧
      ∃ left, (read (r.followedBy later)).2.connection.arrivals = left ++ later ∧
        (read (r.followedBy later)).2.ahead ++ Arrival.bytes left = r.rest.drop alone.2
  /-- For want of more bytes, the end of the stream is a short read. -/
  ended : ∀ field expected got after, alone.1 = .error (.shortRead field expected got) →
    later = .ended :: after →
    (read (r.followedBy later)).1 = alone.1 ∧ (read (r.followedBy later)).2.ahead = [] ∧
      (read (r.followedBy later)).2.connection.arrivals = after
  /-- For want of more bytes, a failure of the stream is reported, as a timeout if it is one. -/
  failed : ∀ field expected got e after, alone.1 = .error (.shortRead field expected got) →
    later = .failure e :: after → e.kind ≠ .interrupted →
    (read (r.followedBy later)).1 =
        .error (if e.kind = .wouldBlock ∨ e.kind = .timedOut then .timeout .reading
          else .stream e) ∧
      (read (r.followedBy later)).2.ahead = [] ∧
      (read (r.followedBy later)).2.connection.arrivals = after

theorem Dialect.readOccurrences_decidedBy (d : Dialect) (mode : Mode) {r : Reader}
    (hr : r.Delivering) (later : List Arrival) :
    DecidedBy (d.readOccurrences mode) (d.decode mode r.rest) r later := by
  obtain ⟨halone, hrest⟩ := d.readOccurrences_of_delivers mode hr.ready hr.arrivals
  refine ⟨fun hlong => ?_, fun field expected got after hshort hlater => ?_,
    fun field expected got e after hshort hlater hkind => ?_⟩
  · rw [← halone] at hlong ⊢
    rw [d.readOccurrences_followedBy mode r hlong]
    exact ⟨rfl, _, rfl, hrest⟩
  · rw [hlater, hshort]
    exact d.readOccurrences_halted mode hr (halone.trans hshort) none nofun after
  · have hcause : Arrival.Halts (some e) := by
      rintro _ ⟨⟩
      exact decide_eq_false hkind
    rw [hlater, ← Failure.ofCall_eq]
    exact d.readOccurrences_halted mode hr (halone.trans hshort) (some e) hcause after

namespace Client

/-- What a client receives through a reader in place of its own. -/
def receiveFrom (c : Client) (mode : Mode) (deadline : Option Duration) (r : Reader) :
    Except Failure (List Occurrence) × Reader :=
  Prod.map id Client.reader (({ c with reader := r } : Client).receive mode deadline)

/-- The outcome of reading a response is decided by the bytes that the response needs, for a stream
that is read directly and for a client that has set its deadline. -/
theorem outcome_decided (d : Dialect) (mode : Mode) {r : Reader} (hready : r.Ready)
    (hdelivers : ∀ a ∈ r.connection.arrivals, a.Delivers) (later : List Arrival) :
    DecidedBy (d.readOccurrences mode) (d.decode mode r.rest) r later ∧
      ∀ (c : Client) (deadline : Option Duration), c.dialect = d →
        r.connection.deadlines.head?.join = none →
        DecidedBy (c.receiveFrom mode deadline) (d.decode mode r.rest) r later := by
  refine ⟨d.readOccurrences_decidedBy mode ⟨hready, hdelivers⟩ later, ?_⟩
  rintro c deadline rfl hdeadline
  -- Setting the deadline changes nothing of what the reader brings.
  have htimed : (({ c with reader := r } : Client).timed deadline).Delivering := ⟨hready, hdelivers⟩
  have key := c.dialect.readOccurrences_decidedBy mode htimed later
  have heq : c.receiveFrom mode deadline (r.followedBy later) =
      c.dialect.readOccurrences mode
        ((({ c with reader := r } : Client).timed deadline).followedBy later) := by
    unfold receiveFrom
    rw [receive_eq (c := { c with reader := r.followedBy later }) hdeadline]
    rfl
  refine ⟨?_, ?_, ?_⟩
  · rw [heq]
    exact key.complete
  · rw [heq]
    exact key.ended
  · rw [heq]
    exact key.failed

/-- Bytes in part read ahead and in part still in store, after which the stream runs out of time: a
response in want of more bytes fails, and one that stops at its first occurrence does not. -/
theorem outcome_decided_at_timeout :
    let d : Dialect := ⟨.big, 16⟩
    let c : Client :=
      { reader :=
          { connection := { arrivals := [.failure (.ofKind .interrupted), .data [1, 65, 0, 0]] }
            ahead := [0, 0, 0]
            capacity := 8 }
        dialect := d }
    let later : List Arrival := [.failure ⟨.timedOut, "late"⟩, .data [66]]
    let short := c.receiveFrom .empty none (c.reader.followedBy later)
    let whole := d.readOccurrences .first (c.reader.followedBy later)
    (short.1 = .error (.timeout .reading) ∧ short.2.ahead = [] ∧
        short.2.connection.arrivals = [.data [66]]) ∧
      whole.1 = .ok [⟨[65], none⟩] ∧
        ∃ left, whole.2.connection.arrivals = left ++ later ∧
          whole.2.ahead ++ Arrival.bytes left = [0, 0] := by
  intro d c later short whole
  have key := fun mode => outcome_decided d mode (r := c.reader) nofun (by decide) later
  have hshort : d.decode .empty c.reader.rest = (.error (.shortRead .dataSize 4 2), 7) := by
    decide +kernel
  have hwhole : d.decode .first c.reader.rest = (.ok [⟨[65], none⟩], 5) := by decide +kernel
  have hfailed := ((key .empty).2 c none rfl rfl).failed
  have hcomplete := (key .first).1.complete
  rw [hshort] at hfailed
  rw [hwhole] at hcomplete
  exact ⟨hfailed .dataSize 4 2 _ _ rfl rfl (by decide), hcomplete nofun⟩

end Client

end RemoteSearch
