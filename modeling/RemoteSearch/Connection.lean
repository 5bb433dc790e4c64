import RemoteSearch.Duration
import RemoteSearch.Failure

set_option autoImplicit false

/-! # Connections

A connection is described by what it has in store for the calls made on it, and by the calls made
so far. In store are the arrivals that reads will meet, the replies that writes will get, and the
outcomes of flushing and of setting deadlines. A call takes what is in store for it and is entered
in the record, newest first; what was read, written, flushed and limited are views of the record.

A read never joins two arrivals. Where nothing is in store any more, reads bring no bytes, and all
other calls succeed.
-/

namespace RemoteSearch

/-! ## What is in store -/

/-- What a read can meet: bytes, a failure, or a read that brings no bytes although others may
follow. -/
inductive Arrival
  | data (bytes : List UInt8)
  | failure (e : StreamError)
  | ended
deriving DecidableEq

namespace Arrival

/-- One read of at most `most` bytes: what it gives and what is left. Empty data is passed over. -/
def deliver (most : Nat) : List Arrival → Except StreamError (List UInt8) × List Arrival
  | [] => (.ok [], [])
  | data [] :: rest => deliver most rest
  | data (b :: bytes) :: rest =>
    (.ok ((b :: bytes).take most), data ((b :: bytes).drop most) :: rest)
  | failure e :: rest => (.error e, rest)
  | ended :: rest => (.ok [], rest)

/-- The bytes in store, one after the other. -/
def bytes : List Arrival → List UInt8
  | [] => []
  | data bs :: rest => bs ++ bytes rest
  | failure _ :: rest => bytes rest
  | ended :: rest => bytes rest

/-- A read takes its bytes from the front of those in store. -/
theorem bytes_deliver_ok {most : Nat} {as as' : List Arrival} {got : List UInt8}
    (h : deliver most as = (.ok got, as')) : bytes as = got ++ bytes as' := by
  fun_induction deliver most as with
  | case1 => cases h; rfl
  | case2 rest ih => exact ih h
  | case3 b bs rest =>
    cases h
    rw [bytes, bytes, ← List.append_assoc, List.take_append_drop]
  | case4 => cases h
  | case5 => cases h; rfl

theorem length_deliver_ok {most : Nat} {as as' : List Arrival} {bytes : List UInt8}
    (h : deliver most as = (.ok bytes, as')) : as'.length ≤ as.length := by
  fun_induction deliver most as with
  | case1 => cases h; simp
  | case2 rest ih => simpa using Nat.le_succ_of_le (ih h)
  | case3 => cases h; simp
  | case4 => cases h
  | case5 => cases h; simp

theorem length_le_of_deliver {most : Nat} {as as' : List Arrival} {bytes : List UInt8}
    (h : deliver most as = (.ok bytes, as')) : bytes.length ≤ most := by
  fun_induction deliver most as with
  | case1 => cases h; simp
  | case2 rest ih => exact ih h
  | case3 => cases h; rw [List.length_take]; exact Nat.min_le_left _ _
  | case4 => cases h
  | case5 => cases h; simp

/-- A read that fails takes no bytes. -/
theorem bytes_deliver_error {most : Nat} {as as' : List Arrival} {e : StreamError}
    (h : deliver most as = (.error e, as')) : bytes as = bytes as' := by
  fun_induction deliver most as with
  | case1 => cases h
  | case2 rest ih => exact ih h
  | case3 => cases h
  | case4 => cases h; rfl
  | case5 => cases h

theorem length_deliver_error {most : Nat} {as as' : List Arrival} {e : StreamError}
    (h : deliver most as = (.error e, as')) : as'.length < as.length := by
  fun_induction deliver most as with
  | case1 => cases h
  | case2 rest ih => simpa using Nat.lt_succ_of_lt (ih h)
  | case3 => cases h
  | case4 => cases h; simp
  | case5 => cases h

end Arrival

/-- The reply to a write: all is accepted, so many bytes at most, or the write fails. -/
inductive Reply
  | all
  | upTo (limit : Nat)
  | failure (e : StreamError)
deriving DecidableEq

namespace Reply

/-- One write of `size` bytes: how many are accepted and what is left. -/
def answer (size : Nat) : List Reply → Except StreamError Nat × List Reply
  | [] => (.ok size, [])
  | all :: rest => (.ok size, rest)
  | upTo limit :: rest => (.ok (min limit size), rest)
  | failure e :: rest => (.error e, rest)

theorem length_answer_ok {size n : Nat} {rs rs' : List Reply} (h : answer size rs = (.ok n, rs')) :
    rs'.length ≤ rs.length ∧ n ≤ size := by
  unfold answer at h
  split at h
  · cases h; exact ⟨Nat.le_refl _, Nat.le_refl _⟩
  · cases h; exact ⟨Nat.le_succ _, Nat.le_refl _⟩
  · cases h; exact ⟨Nat.le_succ _, Nat.min_le_right _ _⟩
  · cases h

theorem length_answer_error {size : Nat} {rs rs' : List Reply} {e : StreamError}
    (h : answer size rs = (.error e, rs')) : rs'.length < rs.length := by
  unfold answer at h
  split at h <;> cases h
  simp

end Reply

/-! ## The record of calls -/

/-- A call made on a connection, with what it was given and how it ended. -/
inductive Call
  | read (asked : Nat) (outcome : Except StreamError Nat)
  | write (offered : List UInt8) (outcome : Except StreamError Nat)
  | flush (failed : Option StreamError)
  | setDeadline (direction : Direction) (limit : Option Duration) (failed : Option StreamError)
deriving DecidableEq

namespace Call

/-- The number of bytes the call took from the connection. -/
def taken : Call → Nat
  | read _ (.ok n) => n
  | _ => 0

/-- The bytes the connection accepted, of a write that succeeded. -/
def accepted? : Call → Option (List UInt8)
  | write offered (.ok n) => some (offered.take n)
  | _ => none

/-- True of a flush, whatever its outcome. -/
def isFlush : Call → Bool
  | flush _ => true
  | _ => false

/-- The limit given, of a call that sets a deadline. -/
def deadline? : Call → Option (Direction × Option Duration)
  | setDeadline direction limit _ => some (direction, limit)
  | _ => none

end Call

/-- A connection: what it has in store, and the calls made on it with the newest first. No read
brings more than `readLimit` bytes. -/
structure Connection where
  arrivals : List Arrival := []
  readLimit : Option Nat := none
  replies : List Reply := []
  flushes : List (Option StreamError) := []
  deadlines : List (Option StreamError) := []
  calls : List Call := []
deriving DecidableEq

namespace Connection

/-- The calls in the order in which they were made. -/
def history (c : Connection) : List Call := c.calls.reverse

/-- The number of bytes read in all. -/
def taken (c : Connection) : Nat := c.calls.foldl (fun n call => n + call.taken) 0

/-- The bytes accepted, by successful write. -/
def accepted (c : Connection) : List (List UInt8) := c.history.filterMap Call.accepted?

/-- The bytes sent in all. -/
def sent (c : Connection) : List UInt8 := c.accepted.flatten

/-- The number of flushes. -/
def flushCount (c : Connection) : Nat := c.calls.countP Call.isFlush

/-- The deadlines that were set or attempted. -/
def deadlinesSet (c : Connection) : List (Direction × Option Duration) :=
  c.history.filterMap Call.deadline?

/-! ## Calls -/

/-- Reads at most `asked` bytes. No bytes means that the stream has ended. -/
def read (asked : Nat) (c : Connection) : Except StreamError (List UInt8) × Connection :=
  let most := match c.readLimit with
    | none => asked
    | some limit => min asked limit
  let (outcome, arrivals) := Arrival.deliver most c.arrivals
  (outcome, { c with arrivals, calls := .read asked (outcome.map List.length) :: c.calls })

/-- Offers bytes and tells how many of them were accepted. -/
def write (offered : List UInt8) (c : Connection) : Except StreamError Nat × Connection :=
  let (outcome, replies) := Reply.answer offered.length c.replies
  (outcome, { c with replies, calls := .write offered outcome :: c.calls })

/-- Flushes what was written. -/
def flush (c : Connection) : Option StreamError × Connection :=
  let failed := c.flushes.head?.join
  (failed, { c with flushes := c.flushes.tail, calls := .flush failed :: c.calls })

/-- Sets or removes the deadline for each call of one direction. -/
def setDeadline (direction : Direction) (limit : Option Duration) (c : Connection) :
    Option StreamError × Connection :=
  let failed := c.deadlines.head?.join
  (failed,
    { c with
      deadlines := c.deadlines.tail
      calls := .setDeadline direction limit failed :: c.calls })

theorem bytes_read_ok {asked : Nat} {c c' : Connection} {bytes : List UInt8}
    (h : c.read asked = (.ok bytes, c')) :
    Arrival.bytes c.arrivals = bytes ++ Arrival.bytes c'.arrivals := by
  simp only [read, Prod.mk.injEq] at h
  obtain ⟨h, rfl⟩ := h
  exact Arrival.bytes_deliver_ok (Prod.ext h rfl)

theorem length_read_ok {asked : Nat} {c c' : Connection} {bytes : List UInt8}
    (h : c.read asked = (.ok bytes, c')) : c'.arrivals.length ≤ c.arrivals.length := by
  simp only [read, Prod.mk.injEq] at h
  obtain ⟨h, rfl⟩ := h
  exact Arrival.length_deliver_ok (Prod.ext h rfl)

theorem length_le_of_read {asked : Nat} {c c' : Connection} {bytes : List UInt8}
    (h : c.read asked = (.ok bytes, c')) : bytes.length ≤ asked := by
  simp only [read, Prod.mk.injEq] at h
  have := Arrival.length_le_of_deliver (Prod.ext h.1 rfl)
  split at this <;> omega

theorem bytes_read_error {asked : Nat} {c c' : Connection} {e : StreamError}
    (h : c.read asked = (.error e, c')) :
    Arrival.bytes c.arrivals = Arrival.bytes c'.arrivals := by
  simp only [read, Prod.mk.injEq] at h
  obtain ⟨h, rfl⟩ := h
  exact Arrival.bytes_deliver_error (Prod.ext h rfl)

theorem length_read_error {asked : Nat} {c c' : Connection} {e : StreamError}
    (h : c.read asked = (.error e, c')) : c'.arrivals.length < c.arrivals.length := by
  simp only [read, Prod.mk.injEq] at h
  obtain ⟨h, rfl⟩ := h
  exact Arrival.length_deliver_error (Prod.ext h rfl)

theorem length_write_ok {offered : List UInt8} {c c' : Connection} {n : Nat}
    (h : c.write offered = (.ok n, c')) :
    c'.replies.length ≤ c.replies.length ∧ n ≤ offered.length := by
  simp only [write, Prod.mk.injEq] at h
  obtain ⟨h, rfl⟩ := h
  exact Reply.length_answer_ok (Prod.ext h rfl)

theorem length_write_error {offered : List UInt8} {c c' : Connection} {e : StreamError}
    (h : c.write offered = (.error e, c')) : c'.replies.length < c.replies.length := by
  simp only [write, Prod.mk.injEq] at h
  obtain ⟨h, rfl⟩ := h
  exact Reply.length_answer_error (Prod.ext h rfl)

/-! ## Sending -/

/-- What a write reports that accepted nothing. -/
def nothingAccepted : StreamError := ⟨.writeZero, "failed to write whole buffer"⟩

/-- Writes until all bytes are accepted. The rest is offered again after a write that took only a
part, and all of it again after an interruption. -/
def writeAll (bytes : List UInt8) (c : Connection) : Except StreamError Unit × Connection :=
  match bytes with
  | [] => (.ok (), c)
  | b :: rest =>
    match _h : c.write (b :: rest) with
    | (.ok 0, c') =>
      -- Offering the same bytes again could go on for ever.
      (.error nothingAccepted, c')
    | (.ok (n + 1), c') => writeAll (rest.drop n) c'
    | (.error e, c') => if e.isInterruption then writeAll (b :: rest) c' else (.error e, c')
termination_by bytes.length + c.replies.length
decreasing_by
  · have := length_write_ok _h
    simp only [List.length_drop, List.length_cons]
    omega
  · have := length_write_error _h
    omega

/-- Writes all bytes, then flushes once. -/
def send (bytes : List UInt8) (c : Connection) : Except Failure Unit × Connection :=
  match c.writeAll bytes with
  | (.error e, c) => (.error (.ofCall .writing e), c)
  | (.ok (), c) =>
    match c.flush with
    | (some e, c) => (.error (.ofCall .writing e), c)
    | (none, c) => (.ok (), c)

end Connection

end RemoteSearch
