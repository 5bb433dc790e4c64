import RemoteSearch.Connection

set_option autoImplicit false

/-! # Reading ahead

A reader takes bytes from a connection through a store of bytes read ahead. While the store holds
bytes, reads are served from it alone. When it is empty, a read that asks for at least the
capacity goes straight to the connection, and any other read first asks the connection for as many
bytes as fit. A capacity of zero is therefore no reading ahead at all.

A field of a response is read by asking for what is still missing until nothing is. The main fact
is that a field read takes exactly its own bytes.
-/

namespace RemoteSearch

/-- A connection with the bytes read ahead from it. -/
structure Reader where
  connection : Connection
  ahead : List UInt8 := []
  capacity : Nat := 0
deriving DecidableEq

namespace Reader

/-- Reads straight from the connection. -/
def direct (c : Connection) : Reader := { connection := c }

/-- Reads ahead by up to `capacity` bytes. -/
def buffered (capacity : Nat) (c : Connection) : Reader := { connection := c, capacity }

/-- The bytes that reads can still bring: those read ahead, then those in store. -/
def rest (r : Reader) : List UInt8 := r.ahead ++ Arrival.bytes r.connection.arrivals

/-- Reads at most `asked` bytes. No bytes means that the stream has ended. -/
def read (asked : Nat) (r : Reader) : Except StreamError (List UInt8) × Reader :=
  match r.ahead with
  | b :: bytes =>
    -- Less than was asked for is no reason to turn to the connection.
    (.ok ((b :: bytes).take asked), { r with ahead := (b :: bytes).drop asked })
  | [] =>
    if r.capacity ≤ asked then
      match r.connection.read asked with
      | (outcome, c) => (outcome, { r with connection := c })
    else
      match r.connection.read r.capacity with
      | (.ok bytes, c) =>
        (.ok (bytes.take asked), { r with connection := c, ahead := bytes.drop asked })
      | (.error e, c) => (.error e, { r with connection := c })

/-- A read takes its bytes from the front of those to come. -/
theorem rest_read_ok {asked : Nat} {r r' : Reader} {bytes : List UInt8}
    (h : r.read asked = (.ok bytes, r')) : r.rest = bytes ++ r'.rest := by
  unfold read at h
  split at h
  · next hr =>
    cases h
    rw [rest, rest, hr, ← List.append_assoc, List.take_append_drop]
  · next hr =>
    split at h
    · split at h
      · next hc =>
        cases h
        rw [rest, rest, hr, Connection.bytes_read_ok hc]
        rfl
    · split at h
      · next hc =>
        cases h
        simp only [rest, hr, List.nil_append, Connection.bytes_read_ok hc]
        rw [← List.append_assoc, List.take_append_drop]
      · cases h

theorem length_read_ok {asked : Nat} {r r' : Reader} {bytes : List UInt8}
    (h : r.read asked = (.ok bytes, r')) :
    r'.connection.arrivals.length ≤ r.connection.arrivals.length ∧ bytes.length ≤ asked := by
  unfold read at h
  split at h
  · cases h
    simp only [List.length_take]
    omega
  · split at h
    · split at h
      · next outcome c hc =>
        cases h
        exact ⟨Connection.length_read_ok hc, Connection.length_le_of_read hc⟩
    · split at h
      · next got c hc =>
        cases h
        have := Connection.length_read_ok hc
        simp only [List.length_take]
        omega
      · cases h

/-- A read that fails takes no bytes. -/
theorem rest_read_error {asked : Nat} {r r' : Reader} {e : StreamError}
    (h : r.read asked = (.error e, r')) : r.rest = r'.rest := by
  unfold read at h
  split at h
  · cases h
  · split at h
    · split at h
      · next hc =>
        cases h
        rw [rest, rest, Connection.bytes_read_error hc]
    · split at h
      · cases h
      · next hc =>
        cases h
        rw [rest, rest, Connection.bytes_read_error hc]

theorem length_read_error {asked : Nat} {r r' : Reader} {e : StreamError}
    (h : r.read asked = (.error e, r')) :
    r'.connection.arrivals.length < r.connection.arrivals.length := by
  unfold read at h
  split at h
  · cases h
  · split at h
    · split at h
      · next outcome c hc =>
        cases h
        exact Connection.length_read_error hc
    · split at h
      · cases h
      · next c hc =>
        cases h
        exact Connection.length_read_error hc

/-! ## Fields -/

/-- Reads the `missing` bytes of a field of which `got` bytes are there, given newest first. An
interrupted read is made again. -/
def complete (field : Field) (got missing : Nat) (newest : List UInt8) (r : Reader) :
    Except Failure (List UInt8) × Reader :=
  if missing = 0 then (.ok newest.reverse, r)
  else
    match _h : r.read missing with
    | (.ok [], r') => (.error (.shortRead field (got + missing) got), r')
    | (.ok (b :: bytes), r') =>
      complete field (got + (b :: bytes).length) (missing - (b :: bytes).length)
        ((b :: bytes).reverseAux newest) r'
    | (.error e, r') =>
      if e.isInterruption then complete field got missing newest r'
      else (.error (.ofCall .reading e), r')
termination_by missing + r.connection.arrivals.length
decreasing_by
  · have := length_read_ok _h
    simp only [List.length_cons] at this ⊢
    omega
  · have := length_read_error _h
    omega

/-- Reads a field of `size` bytes. Bytes read before a failure are lost. -/
def readField (field : Field) (size : Nat) (r : Reader) : Except Failure (List UInt8) × Reader :=
  complete field 0 size [] r

theorem rest_complete {field : Field} {got missing : Nat} {newest bytes : List UInt8}
    {r r' : Reader} (h : r.complete field got missing newest = (.ok bytes, r')) :
    newest.reverse ++ r.rest = bytes ++ r'.rest ∧ bytes.length = newest.length + missing := by
  fun_induction complete field got missing newest r with
  | case1 => cases h; simp
  | case2 => cases h
  | case3 got missing newest r hm b more r1 hr ih =>
    have hl := (length_read_ok hr).2
    have hi := ih h
    rw [rest_read_ok hr, ← hi.1, hi.2]
    simp only [List.length_cons, List.reverseAux_eq, List.length_append, List.length_reverse,
      List.reverse_append, List.reverse_reverse, List.append_assoc, true_and] at hl ⊢
    omega
  | case4 got missing newest r hm e r1 hr hi ih =>
    rw [rest_read_error hr]
    exact ih h
  | case5 => cases h

/-- A field that is read holds its bytes from the front of those to come, as many as were asked
for. -/
theorem rest_readField {field : Field} {size : Nat} {bytes : List UInt8} {r r' : Reader}
    (h : r.readField field size = (.ok bytes, r')) :
    r.rest = bytes ++ r'.rest ∧ bytes.length = size := by
  simpa using rest_complete h

end Reader

end RemoteSearch
