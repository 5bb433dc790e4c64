import RemoteSearch.Client
import RemoteSearch.Proofs.Request.Sending
import RemoteSearch.Proofs.Response.Flow

set_option autoImplicit false

/-! # Receiving through a client

Receiving is setting a deadline and then reading a response. Where the deadline is set, what comes
of it is a matter of the flow of the client's reader, so that the bytes a client reads ahead never
show in what it receives.
-/

namespace RemoteSearch.Client

/-- The reader of a client whose deadline for reading has just been set. -/
def timed (deadline : Option Duration) (c : Client) : Reader :=
  { c.reader with
    connection := (c.connection.setDeadline .reading (Duration.limit? deadline)).2 }

/-- Where the deadline is set, receiving is reading a response. -/
theorem receive_eq {c : Client} (h : c.connection.deadlines.head?.join = none) (mode : Mode)
    (deadline : Option Duration) :
    c.receive mode deadline =
      ((c.dialect.readOccurrences mode (c.timed deadline)).1,
        { c with reader := (c.dialect.readOccurrences mode (c.timed deadline)).2 }) := by
  have hset : c.connection.setDeadline .reading (Duration.limit? deadline) =
      (none, (c.timed deadline).connection) := Prod.ext h rfl
  unfold receive
  rw [hset]
  rfl

theorem dialect_receive (c : Client) (mode : Mode) (deadline : Option Duration) :
    (c.receive mode deadline).2.dialect = c.dialect := by
  unfold receive
  split
  · rfl
  · rfl

/-- Every deadline that will be set is set. -/
def DeadlinesHold (c : Client) : Prop := ∀ o ∈ c.connection.deadlines, o = none

theorem DeadlinesHold.head {c : Client} (h : c.DeadlinesHold) :
    c.connection.deadlines.head?.join = none :=
  Connection.join_head?_of_forall h

/-! ## A client and a reader of its own -/

/-- A client and a reader without room to read ahead that are at the same place of one stream. -/
structure Mirrors (c : Client) (s : Reader) : Prop where
  sameFlow : Dialect.SameFlow c.reader s
  deadlines : c.DeadlinesHold
  capacity : c.reader.capacity = readAhead
  ahead : c.reader.ahead.length ≤ c.reader.capacity
  direct : s.capacity = 0
  empty : s.ahead = []
  total : c.connection.taken + (Arrival.bytes c.connection.arrivals).length =
    s.connection.taken + (Arrival.bytes s.connection.arrivals).length

namespace Mirrors

/-- What the client has taken beyond the reader is what it has read ahead. -/
theorem taken {c : Client} {s : Reader} (h : Mirrors c s) :
    c.connection.taken = s.connection.taken + c.reader.ahead.length := by
  have hrest : c.reader.rest = s.rest := by
    rw [← Reader.bytes_flow, ← Reader.bytes_flow, h.sameFlow.2.2]
  have hlength := congrArg List.length hrest
  rw [Reader.rest, Reader.rest, h.empty, List.nil_append, List.length_append] at hlength
  have htotal := h.total
  have hc : c.connection = c.reader.connection := rfl
  rw [hc] at htotal ⊢
  omega

theorem ofConnection {d : Dialect} {c : Connection} (hlimit : c.readLimit ≠ some 0)
    (hdeadlines : ∀ o ∈ c.deadlines, o = none) :
    Mirrors (Client.ofConnection d c) (.direct c) where
  sameFlow := ⟨hlimit, hlimit, rfl⟩
  deadlines := hdeadlines
  capacity := rfl
  ahead := Nat.zero_le _
  direct := rfl
  empty := rfl
  total := rfl

/-- One response on both sides: the same outcome, and both are at the same place again. -/
theorem receive {c : Client} {s : Reader} (h : Mirrors c s) (mode : Mode)
    (deadline : Option Duration) :
    (c.receive mode deadline).1 = (c.dialect.readOccurrences mode s).1 ∧
      Mirrors (c.receive mode deadline).2 (c.dialect.readOccurrences mode s).2 := by
  have hsame : Dialect.SameFlow (c.timed deadline) s := h.sameFlow
  obtain ⟨ho, hsame'⟩ := c.dialect.readOccurrences_flow mode hsame
  have hclient := c.dialect.advance_readOccurrences mode (c.timed deadline)
  have hbare := c.dialect.advance_readOccurrences mode s
  have hunbuffered := Reader.Unbuffered.of_advance ⟨h.direct, h.empty⟩ hbare
  rw [receive_eq h.deadlines.head]
  refine ⟨ho, ⟨hsame', ?_, ?_, ?_, ?_, ?_, ?_⟩⟩
  · -- Setting the deadline has used one outcome up, and reading uses none.
    intro o hmem
    have hdeadlines := congrArg Connection.deadlines hclient.writingSide
    have : o ∈ (c.timed deadline).connection.deadlines := hdeadlines ▸ hmem
    exact h.deadlines o (List.mem_of_mem_tail this)
  · exact hclient.capacity.trans h.capacity
  · exact hclient.ahead h.ahead
  · exact hunbuffered.capacity
  · exact hunbuffered.ahead
  · have hcall : (c.timed deadline).connection.taken = c.connection.taken :=
      Connection.taken_setDeadline _ _ _
    exact (hclient.taken.trans (hcall ▸ h.total)).trans hbare.taken.symm

/-- Any number of responses on both sides. -/
theorem run {c : Client} {s : Reader} (h : Mirrors c s) (steps : List (Mode × Option Duration)) :
    (c.run (steps.map fun step => .receive step.1 step.2)).1 =
        (c.dialect.readSeries (steps.map Prod.fst) s).1.map (·.map .found) ∧
      Mirrors (c.run (steps.map fun step => .receive step.1 step.2)).2
        (c.dialect.readSeries (steps.map Prod.fst) s).2 := by
  induction steps generalizing c s with
  | nil => exact ⟨rfl, h⟩
  | cons step steps ih =>
    obtain ⟨ho, h'⟩ := h.receive step.1 step.2
    have hd : (c.receive step.1 step.2).2.dialect = c.dialect := by
      rw [receive_eq h.deadlines.head]
    obtain ⟨hos, h''⟩ := ih h'
    rw [hd] at hos h''
    refine ⟨?_, h''⟩
    simp only [List.map_cons, Client.run, Client.step, Dialect.readSeries, Prod.map, id_eq]
    rw [ho, hos]

end Mirrors

/-! ## Buffering -/

/-- Reading ahead is not seen. A client that receives responses gives, one by one, the outcomes that
reading the same stream without a buffer gives, failures and what follows them included; and at
the end of any such series the client has taken exactly the bytes in its buffer more from the stream
than that, of which there are no more than its room to read ahead. -/
theorem receive_eq_unbuffered (d : Dialect) (c : Connection) (hlimit : c.readLimit ≠ some 0)
    (hdeadlines : ∀ o ∈ c.deadlines, o = none) (steps : List (Mode × Option Duration)) :
    let client := (ofConnection d c).run (steps.map fun step => .receive step.1 step.2)
    let unbuffered := d.readSeries (steps.map Prod.fst) (.direct c)
    client.1 = unbuffered.1.map (·.map .found) ∧
      client.2.connection.taken =
        unbuffered.2.connection.taken + client.2.reader.ahead.length ∧
      client.2.reader.ahead.length ≤ 8192 := by
  obtain ⟨hos, h⟩ := (Mirrors.ofConnection (d := d) hlimit hdeadlines).run steps
  exact ⟨hos, h.taken, Nat.le_trans h.ahead (Nat.le_of_eq h.capacity)⟩

/-- A timeout inside the first response, and a byte after the third that only the client has
taken. -/
theorem receive_eq_unbuffered_after_timeout :
    let c : Connection :=
      { arrivals := [.data [0, 0], .failure ⟨.timedOut, "late"⟩,
          .data [0, 0, 0, 1, 65, 0, 0, 0, 1, 66, 255]] }
    let client := (ofConnection ⟨.big, 16⟩ c).run
      [.receive .first none, .receive .first none, .receive .first none]
    client.1 = [.error (.timeout .reading), .ok (.found [⟨[65], none⟩]),
        .ok (.found [⟨[66], none⟩])] ∧
      client.2.connection.taken = 12 + client.2.reader.ahead.length ∧
      client.2.reader.ahead = [255] := by
  intro c client
  obtain ⟨hfound, htaken, -⟩ := receive_eq_unbuffered ⟨.big, 16⟩ c (by decide) (by decide)
    [(.first, none), (.first, none), (.first, none)]
  have hunbuffered : (Dialect.readSeries ⟨.big, 16⟩ [.first, .first, .first]
      (.direct c)).2.connection.taken = 12 := by decide +kernel
  refine ⟨hfound.trans (by decide +kernel), ?_, by decide +kernel⟩
  rw [← hunbuffered]
  exact htaken

end RemoteSearch.Client
