import RemoteSearch.Proofs.Reading.Lockstep

set_option autoImplicit false

/-! # What reading leaves as it was

A read is served in one of three ways: from the bytes read ahead, straight from the connection, or
from bytes read ahead on its behalf (`read_served`, `read_straight`, `read_refill`). From these
follows once and for all what any number of reads keeps (`Reader.Advance`): the side of the
connection that writes, the number of bytes taken together with those still in store, that no more
is read ahead than there is room for, and that bytes go from the front of those to come.
-/

namespace RemoteSearch

/-! ## The writing side of a connection -/

/-- True of a read, whatever its outcome. -/
def Call.isRead : Call → Bool
  | .read _ _ => true
  | _ => false

namespace Connection

/-- A connection without its arrivals and without the reads that were made. -/
def writingSide (c : Connection) : Connection :=
  { c with arrivals := [], calls := c.calls.filter (!·.isRead) }

/-- A view of the record that no read shows up in is a view of the writing side. -/
theorem filterMap_filter_isRead {α : Type} {f : Call → Option α}
    (hf : ∀ call, call.isRead = true → f call = none) (calls : List Call) :
    (calls.filter (!·.isRead)).filterMap f = calls.filterMap f := by
  induction calls with
  | nil => rfl
  | cons call calls ih =>
    cases hc : call.isRead with
    | true => rw [List.filter_cons_of_neg (by simp [hc]), ih, List.filterMap_cons_none (hf call hc)]
    | false =>
      rw [List.filter_cons_of_pos (by simp [hc]), List.filterMap_cons, List.filterMap_cons, ih]

theorem sent_writingSide (c : Connection) : c.writingSide.sent = c.sent := by
  have hf : ∀ call : Call, call.isRead = true → call.accepted? = none := by
    intro call h
    cases call with
    | read => rfl
    | write | flush | setDeadline => cases h
  simp only [sent, accepted, history, writingSide, List.filterMap_reverse,
    filterMap_filter_isRead hf]

/-- A call takes its own bytes. -/
theorem taken_of_calls {c c' : Connection} {call : Call} (h : c'.calls = call :: c.calls) :
    c'.taken = call.taken + c.taken := by
  have key : ∀ (calls : List Call) (m n : Nat),
      calls.foldl (fun n call => n + call.taken) (m + n) =
        m + calls.foldl (fun n call => n + call.taken) n := by
    intro calls
    induction calls with
    | nil => exact fun _ _ => rfl
    | cons call calls ih =>
      intro m n
      rw [List.foldl_cons, List.foldl_cons, Nat.add_assoc]
      exact ih m (n + call.taken)
  rw [taken, h, List.foldl_cons, Nat.zero_add]
  exact key c.calls call.taken 0

/-- Setting a deadline takes no bytes. -/
theorem taken_setDeadline (direction : Direction) (limit : Option Duration) (c : Connection) :
    (c.setDeadline direction limit).2.taken = c.taken := by
  rw [taken_of_calls (c := c) rfl]
  exact Nat.zero_add _

theorem readLimit_of_writingSide {c c' : Connection} (h : c'.writingSide = c.writingSide) :
    c'.readLimit = c.readLimit := by
  have := congrArg Connection.readLimit h
  exact this

/-- Bytes are taken from those in store. -/
theorem taken_read {asked : Nat} {c c' : Connection} {o : Except StreamError (List UInt8)}
    (h : c.read asked = (o, c')) :
    c'.taken + (Arrival.bytes c'.arrivals).length =
      c.taken + (Arrival.bytes c.arrivals).length := by
  have hc : c'.calls = .read asked (o.map List.length) :: c.calls := by
    simp only [read, Prod.mk.injEq] at h
    obtain ⟨rfl, rfl⟩ := h
    rfl
  rw [taken_of_calls hc]
  cases o with
  | ok bytes =>
    rw [bytes_read_ok h, List.length_append]
    simp only [Except.map, Call.taken]
    omega
  | error e =>
    rw [bytes_read_error h]
    simp only [Except.map, Call.taken]
    omega

/-- The number of bytes that a read brings at most. -/
def most (asked : Nat) (c : Connection) : Nat :=
  match c.readLimit with
  | none => asked
  | some limit => min asked limit

theorem most_pos {asked : Nat} (hasked : 0 < asked) {c : Connection}
    (hlimit : c.readLimit ≠ some 0) : 0 < c.most asked := by
  unfold most
  split
  · exact hasked
  · next limit hc =>
    have : limit ≠ 0 := fun h0 => hlimit (by rw [hc, h0])
    omega

/-- What a read comes to that has met something in store. -/
def entered (asked : Nat) (c : Connection)
    (met : Except StreamError (List UInt8) × List Arrival) :
    Except StreamError (List UInt8) × Connection :=
  (met.1,
    { c with arrivals := met.2, calls := .read asked (met.1.map List.length) :: c.calls })

theorem read_eq (asked : Nat) (c : Connection) :
    c.read asked = c.entered asked (Arrival.deliver (c.most asked) c.arrivals) := rfl

end Connection

namespace Reader

/-! ## The three ways of a read -/

theorem read_served {asked : Nat} {r : Reader} (h : r.ahead ≠ []) :
    r.read asked = (.ok (r.ahead.take asked), { r with ahead := r.ahead.drop asked }) := by
  unfold read
  split
  · next hb => rw [hb]
  · next hb => exact absurd hb h

theorem read_straight {asked : Nat} {r : Reader} (h : r.ahead = []) (hc : r.capacity ≤ asked) :
    r.read asked =
      ((r.connection.read asked).1, { r with connection := (r.connection.read asked).2 }) := by
  unfold read
  split
  · next hb => rw [h] at hb; cases hb
  · rw [if_pos hc]

/-- The bytes of a read, none where it failed. -/
def fetched (o : Except StreamError (List UInt8)) : List UInt8 := o.toOption.getD []

theorem read_refill {asked : Nat} {r : Reader} (h : r.ahead = []) (hc : asked < r.capacity) :
    r.read asked =
      ((r.connection.read r.capacity).1.map (·.take asked),
        { r with
          connection := (r.connection.read r.capacity).2
          ahead := (fetched (r.connection.read r.capacity).1).drop asked }) := by
  unfold read
  split
  · next hb => rw [h] at hb; cases hb
  · rw [if_neg (Nat.not_le.2 hc)]
    split
    · next hr => rw [hr]; rfl
    · next hr => simp [hr, h, fetched, Except.toOption, Except.map]

/-! ## Any number of reads -/

/-- How a reader may stand after reads that were made of it. -/
structure Advance (before after : Reader) : Prop where
  writingSide : after.connection.writingSide = before.connection.writingSide
  capacity : after.capacity = before.capacity
  taken : after.connection.taken + (Arrival.bytes after.connection.arrivals).length =
    before.connection.taken + (Arrival.bytes before.connection.arrivals).length
  ahead : before.ahead.length ≤ before.capacity → after.ahead.length ≤ after.capacity
  rest : after.rest <:+ before.rest

namespace Advance

theorem refl (r : Reader) : Advance r r := ⟨rfl, rfl, rfl, id, List.suffix_rfl⟩

theorem trans {r s t : Reader} (h : Advance r s) (k : Advance s t) : Advance r t :=
  ⟨k.writingSide.trans h.writingSide, k.capacity.trans h.capacity, k.taken.trans h.taken,
    fun hr => k.ahead (h.ahead hr), k.rest.trans h.rest⟩

theorem rest_read (asked : Nat) (r : Reader) : (r.read asked).2.rest <:+ r.rest := by
  cases h : r.read asked with
  | mk o r' =>
    cases o with
    | ok bytes => exact ⟨bytes, (rest_read_ok h).symm⟩
    | error e => exact ⟨[], (rest_read_error h).symm⟩

/-- One read is an advance. -/
theorem read (asked : Nat) (r : Reader) : Advance r (r.read asked).2 := by
  have hrest := rest_read asked r
  by_cases h : r.ahead = []
  · by_cases hc : r.capacity ≤ asked
    · rw [read_straight h hc] at hrest ⊢
      exact ⟨rfl, rfl, Connection.taken_read rfl, id, hrest⟩
    · have hlt : asked < r.capacity := Nat.not_le.1 hc
      rw [read_refill h hlt] at hrest ⊢
      refine ⟨rfl, rfl, Connection.taken_read rfl, fun _ => ?_, hrest⟩
      -- No more is fetched than there is room for.
      have hl : (fetched (r.connection.read r.capacity).1).length ≤ r.capacity := by
        cases hr : r.connection.read r.capacity with
        | mk o c =>
          cases o with
          | ok bytes => exact Connection.length_le_of_read hr
          | error e => exact Nat.zero_le _
      simp only [List.length_drop]
      omega
  · rw [read_served h] at hrest ⊢
    refine ⟨rfl, rfl, rfl, fun hl => ?_, hrest⟩
    simp only [List.length_drop]
    omega

theorem complete (field : Field) (got missing : Nat) (newest : List UInt8) (r : Reader) :
    Advance r (r.complete field got missing newest).2 :=
  complete_keeps (fun asked s h => h.trans (read asked s)) field got missing newest (refl r)

theorem readField (field : Field) (size : Nat) (r : Reader) :
    Advance r (r.readField field size).2 := complete field 0 size [] r

end Advance

/-- A reader without room to read ahead. -/
structure Unbuffered (r : Reader) : Prop where
  capacity : r.capacity = 0
  ahead : r.ahead = []

namespace Unbuffered

theorem direct (c : Connection) : (Reader.direct c).Unbuffered := ⟨rfl, rfl⟩

theorem eq_direct {r : Reader} (h : r.Unbuffered) : r = .direct r.connection := by
  obtain ⟨hcapacity, hahead⟩ := h
  cases r
  cases hcapacity
  cases hahead
  rfl

theorem of_advance {r r' : Reader} (h : r.Unbuffered) (k : Advance r r') : r'.Unbuffered := by
  have hcapacity : r'.capacity = 0 := k.capacity.trans h.capacity
  have hahead := k.ahead (by rw [h.ahead]; exact Nat.zero_le _)
  rw [hcapacity] at hahead
  exact ⟨hcapacity, List.eq_nil_of_length_eq_zero (Nat.le_zero.1 hahead)⟩

theorem rest {r : Reader} (h : r.Unbuffered) : r.rest = Arrival.bytes r.connection.arrivals := by
  rw [Reader.rest, h.ahead, List.nil_append]

/-- A read of an unbuffered reader is a call on its connection. -/
theorem read_eq {r : Reader} (h : r.Unbuffered) (asked : Nat) :
    r.read asked =
      ((r.connection.read asked).1, { r with connection := (r.connection.read asked).2 }) := by
  have hcapacity : r.capacity ≤ asked := by
    rw [h.capacity]
    exact Nat.zero_le asked
  exact read_straight h.ahead hcapacity

theorem history_read {r : Reader} (h : r.Unbuffered) (asked : Nat) :
    (r.read asked).2.connection.history =
      r.connection.history ++ [.read asked ((r.read asked).1.map List.length)] := by
  rw [h.read_eq]
  exact List.reverse_cons

end Unbuffered

end Reader

end RemoteSearch
