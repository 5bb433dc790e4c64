import RemoteSearch.Proofs.Request.Transcript
import RemoteSearch.Proofs.Response.Parallel

set_option autoImplicit false

/-! # The two sides of a connection

A connection reads and sends, and the one has nothing to do with the other. Its reading side are the
arrivals, its sending side the replies and the outcomes of flushing (`readingSide`, `sendingSide`).
Each side can be taken off the connection with a record of its own, and be put back with the calls
that were made on it meanwhile (`withReading`, `withSending`).

Whatever is read could as well be read off the reading side alone and then be put back, and whatever
is sent could as well be sent on the sending side alone: first single calls, then whole responses
(`Dialect.readOccurrences_eq`) and requests (`Request.send_eq`). So nothing but its own side bears
on either of them, and neither changes anything else. Of the calls that they make, those for a
request are writes and flushes, and those for a response are reads.
-/

namespace RemoteSearch

/-- The direction in which a call goes. -/
def Call.direction : Call → Direction
  | read _ _ => .reading
  | write _ _ => .writing
  | flush _ => .writing
  | setDeadline direction _ _ => direction

/-- True of a call by which bytes are sent: a write or a flush. -/
def Call.isSending : Call → Bool
  | write _ _ => true
  | flush _ => true
  | _ => false

namespace Connection

/-! ## Taking a side off and putting it back -/

/-- The side that reads. No call has been made on it. -/
def readingSide (c : Connection) : Connection :=
  { arrivals := c.arrivals, readLimit := c.readLimit }

/-- The side that writes. No call has been made on it. -/
def sendingSide (c : Connection) : Connection := { replies := c.replies, flushes := c.flushes }

/-- The connection with a reading side that stands in place of its own, and the calls made there. -/
def withReading (side c : Connection) : Connection :=
  { c with
    arrivals := side.arrivals
    readLimit := side.readLimit
    calls := side.calls ++ c.calls }

/-- The connection with a writing side that stands in place of its own, and the calls made there. -/
def withSending (side c : Connection) : Connection :=
  { c with
    replies := side.replies
    flushes := side.flushes
    calls := side.calls ++ c.calls }

theorem history_withReading (side c : Connection) :
    (side.withReading c).history = c.history ++ side.history := List.reverse_append

theorem history_withSending (side c : Connection) :
    (side.withSending c).history = c.history ++ side.history := List.reverse_append

theorem history_setDeadline (direction : Direction) (limit : Option Duration) (c : Connection) :
    (c.setDeadline direction limit).2.history =
      c.history ++ [.setDeadline direction limit c.deadlines.head?.join] := List.reverse_cons

/-! ## Sending -/

theorem write_withSending (offered : List UInt8) (side c : Connection) :
    (side.withSending c).write offered =
      ((side.write offered).1, (side.write offered).2.withSending c) := rfl

theorem flush_withSending (side c : Connection) :
    (side.withSending c).flush = (side.flush.1, side.flush.2.withSending c) := rfl

section

variable {b : UInt8} {rest : List UInt8} {c c' : Connection}

theorem writeAll_of_refused (h : c.write (b :: rest) = (.ok 0, c')) :
    c.writeAll (b :: rest) = (.error nothingAccepted, c') := by
  rw [writeAll]
  split
  · next h' => rw [h] at h'; cases h'; rfl
  · next h' => rw [h] at h'; cases h'
  · next h' => rw [h] at h'; cases h'

theorem writeAll_of_accepted {n : Nat} (h : c.write (b :: rest) = (.ok (n + 1), c')) :
    c.writeAll (b :: rest) = c'.writeAll (rest.drop n) := by
  rw [writeAll]
  split
  · next h' => rw [h] at h'; cases h'
  · next h' => rw [h] at h'; cases h'; rfl
  · next h' => rw [h] at h'; cases h'

theorem writeAll_of_error {e : StreamError} (h : c.write (b :: rest) = (.error e, c')) :
    c.writeAll (b :: rest) =
      if e.isInterruption then c'.writeAll (b :: rest) else (.error e, c') := by
  rw [writeAll]
  split
  · next h' => rw [h] at h'; cases h'
  · next h' => rw [h] at h'; cases h'
  · next h' => rw [h] at h'; cases h'; rfl

end

theorem writeAll_withSending (bytes : List UInt8) (side c : Connection) :
    (side.withSending c).writeAll bytes =
      ((side.writeAll bytes).1, (side.writeAll bytes).2.withSending c) := by
  -- The write comes to the same on the side alone, so that both go on in the same way.
  fun_induction writeAll bytes side with
  | case1 side => rw [writeAll]
  | case2 side b rest side' h =>
    have hwrite := write_withSending (b :: rest) side c
    rw [h] at hwrite
    rw [writeAll_of_refused hwrite]
  | case3 side b rest n side' h ih =>
    have hwrite := write_withSending (b :: rest) side c
    rw [h] at hwrite
    rw [writeAll_of_accepted hwrite]
    exact ih
  | case4 side b rest e side' h hi ih =>
    have hwrite := write_withSending (b :: rest) side c
    rw [h] at hwrite
    rw [writeAll_of_error hwrite, if_pos hi]
    exact ih
  | case5 side b rest e side' h hi =>
    have hwrite := write_withSending (b :: rest) side c
    rw [h] at hwrite
    rw [writeAll_of_error hwrite, if_neg hi]

theorem send_withSending (bytes : List UInt8) (side c : Connection) :
    (side.withSending c).send bytes =
      ((side.send bytes).1, (side.send bytes).2.withSending c) := by
  rw [send, writeAll_withSending, send]
  rcases side.writeAll bytes with ⟨e | _, side'⟩
  · rfl
  · simp only [flush_withSending]
    rcases side'.flush with ⟨_ | e, side''⟩ <;> rfl

end Connection

/-- A request is sent on the writing side. -/
theorem Request.send_withSending (order : Wire.Endian) (q : Request) (side c : Connection) :
    q.send order (side.withSending c) =
      ((q.send order side).1, (q.send order side).2.withSending c) := by
  rw [send, send]
  rcases q.frame order with e | bytes
  · rfl
  · exact Connection.send_withSending bytes side c

theorem Request.send_eq (order : Wire.Endian) (q : Request) (c : Connection) :
    q.send order c =
      ((q.send order c.sendingSide).1, (q.send order c.sendingSide).2.withSending c) :=
  send_withSending order q c.sendingSide c

theorem Transcript.isSending {bytes : List UInt8} {calls : List Call}
    {outcome : Except Failure Unit} (h : Transcript bytes calls outcome) :
    ∀ call ∈ calls, call.isSending = true := by
  induction h with
  | flushed | unflushed | refused | failed => exact List.forall_mem_singleton.2 rfl
  | accepted _ _ _ ih => exact List.forall_mem_cons.2 ⟨rfl, ih⟩
  | interrupted _ _ _ ih => exact List.forall_mem_cons.2 ⟨rfl, ih⟩

/-- What calls a request makes on the sending side. -/
theorem Request.conforms_history (order : Wire.Endian) (q : Request) (c : Connection) :
    Sent.Conforms order
      ⟨q, (q.send order c.sendingSide).1, (q.send order c.sendingSide).2.history⟩ := by
  obtain ⟨calls, hhistory, hconforms⟩ := conforms_send order q c.sendingSide
  rw [hhistory]
  exact hconforms

theorem Request.isSending_history (order : Wire.Endian) (q : Request) (c : Connection) :
    ∀ call ∈ (q.send order c.sendingSide).2.history, call.isSending = true := by
  cases hframe : q.frame order with
  | error e =>
    rw [send, hframe]
    exact List.forall_mem_nil _
  | ok bytes =>
    rw [send, hframe]
    obtain ⟨calls, hhistory, htranscript⟩ := c.sendingSide.transcript_send bytes
    rw [hhistory]
    exact htranscript.isSending

/-! ## Reading -/

namespace Reader

/-- The reader over the reading side of its connection. -/
def readingSide (r : Reader) : Reader := { r with connection := r.connection.readingSide }

/-- The reader with its connection put back as the reading side of another one. -/
def onto (c : Connection) (side : Reader) : Reader :=
  { side with connection := side.connection.withReading c }

theorem read_onto (asked : Nat) (side : Reader) (c : Connection) :
    (side.onto c).read asked = ((side.read asked).1, (side.read asked).2.onto c) := by
  by_cases ha : side.ahead = []
  · have ha' : (side.onto c).ahead = [] := ha
    by_cases hc : side.capacity ≤ asked
    · rw [read_straight ha hc, read_straight ha' hc]
      rfl
    · have hlt : asked < side.capacity := Nat.not_le.1 hc
      rw [read_refill ha hlt, read_refill ha' hlt]
      rfl
  · have ha' : (side.onto c).ahead ≠ [] := ha
    rw [read_served ha, read_served ha']
    rfl

/-- True of readers of which one has the connection of the other put back. -/
def Onto (c : Connection) (side r : Reader) : Prop := r = side.onto c

theorem readField_onto (c : Connection) (field : Field) (size : Nat) {side r : Reader}
    (h : Onto c side r) :
    (side.readField field size).1 = (r.readField field size).1 ∧
      Onto c (side.readField field size).2 (r.readField field size).2 := by
  have step : ∀ asked, asked ≠ 0 → asked ≤ size → ∀ side r, Onto c side r →
      (side.read asked).1 = (r.read asked).1 ∧ Onto c (side.read asked).2 (r.read asked).2 := by
    rintro asked - - side _ rfl
    rw [Onto, read_onto]
    exact ⟨rfl, rfl⟩
  exact complete_lockstep step field (Nat.le_refl size) h

end Reader

namespace Dialect

variable (d : Dialect) (mode : Mode)

/-- A response is read off the reading side. -/
theorem readOccurrences_onto (side : Reader) (c : Connection) :
    d.readOccurrences mode (side.onto c) =
      ((d.readOccurrences mode side).1, (d.readOccurrences mode side).2.onto c) := by
  obtain ⟨ho, hafter⟩ :=
    (Parallel.lockstep d (Reader.Onto c) (Reader.readField_onto c)).readOccurrences mode rfl
  exact Prod.ext ho.symm hafter

theorem readOccurrences_eq (r : Reader) :
    d.readOccurrences mode r =
      ((d.readOccurrences mode r.readingSide).1,
        (d.readOccurrences mode r.readingSide).2.onto r.connection) :=
  d.readOccurrences_onto mode r.readingSide r.connection

/-- The calls for a response on the reading side. -/
theorem isRead_history (r : Reader) :
    ∀ call ∈ (d.readOccurrences mode r.readingSide).2.connection.history,
      call.isRead = true := by
  intro call hmem
  -- Calls that read nothing are as before, and there were none.
  have hkept := (d.advance_readOccurrences mode r.readingSide).writingSide
  have hcalls : (d.readOccurrences mode r.readingSide).2.connection.calls.filter (!·.isRead) = [] :=
    congrArg Connection.calls hkept
  have hnot := List.filter_eq_nil_iff.1 hcalls call (List.mem_reverse.1 hmem)
  simpa using hnot

end Dialect

end RemoteSearch
