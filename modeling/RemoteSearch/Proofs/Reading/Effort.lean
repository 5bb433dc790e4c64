import Mathlib.Algebra.Ring.Nat
import RemoteSearch.Proofs.Reading.Advance

set_option autoImplicit false

/-! # What reading costs

A read of an unbuffered reader is one call on its connection, and nearly every such call is paid
for: by the bytes that it takes, or by an interruption that the stream had in store. Only the call
that finds the end of the stream or a failure is not, and with that call the field is over. So a
field is read with at most as many calls as it takes bytes and meets interruptions, and one more
where it fails (`spends_readField`).

The account is kept by `Reader.Spends`, which adds up from read to read.
-/

namespace RemoteSearch

/-- True of a read that was interrupted. -/
def Call.isInterrupted : Call → Bool
  | .read _ (.error e) => e.isInterruption
  | _ => false

/-- True of an interruption in store. -/
def Arrival.isInterruption : Arrival → Bool
  | .failure e => e.isInterruption
  | _ => false

/-- A read that is interrupted uses up one interruption of those in store; no other read does. -/
theorem Arrival.interruptions_deliver (asked most : Nat) (as : List Arrival) :
    (if (Call.read asked ((deliver most as).1.map List.length)).isInterrupted then 1 else 0) +
        (deliver most as).2.countP isInterruption = as.countP isInterruption := by
  fun_induction deliver most as with
  | case1 => rfl
  | case2 rest ih =>
    rw [List.countP_cons_of_neg (by simp [isInterruption])]
    exact ih
  | case3 b bs rest => simp [Call.isInterrupted, isInterruption, Except.map]
  | case4 e rest =>
    rw [List.countP_cons]
    exact Nat.add_comm _ _
  | case5 rest => simp [Call.isInterrupted, isInterruption, Except.map]

namespace Connection

theorem taken_eq_sum (c : Connection) : c.taken = (c.history.map Call.taken).sum := by
  have key : ∀ calls : List Call,
      calls.foldr (fun call n => n + call.taken) 0 = (calls.map Call.taken).sum := by
    intro calls
    induction calls with
    | nil => rfl
    | cons call calls ih =>
      rw [List.foldr_cons, ih, List.map_cons, List.sum_cons, Nat.add_comm]
  rw [← key, history, List.foldr_reverse]
  rfl

/-- Calls that are added to the record add their bytes to those taken. -/
theorem taken_of_history {c c' : Connection} {calls : List Call}
    (h : c'.history = c.history ++ calls) :
    c'.taken = c.taken + (calls.map Call.taken).sum := by
  rw [taken_eq_sum, taken_eq_sum, h, List.map_append, List.sum_append]

end Connection

namespace Reader

/-- The reader has come from one place to the other by reads alone. There are at most as many of
them as bytes they took and interruptions they met, and so many idle ones; and the interruptions are
those that are no longer in store. -/
def Spends (idle : Nat) (before after : Reader) : Prop :=
  ∃ reads : List Call, after.connection.history = before.connection.history ++ reads ∧
    (∀ call ∈ reads, call.isRead = true) ∧
    reads.length ≤ (reads.map Call.taken).sum + reads.countP Call.isInterrupted + idle ∧
    reads.countP Call.isInterrupted + after.connection.arrivals.countP Arrival.isInterruption =
      before.connection.arrivals.countP Arrival.isInterruption

namespace Spends

theorem refl (r : Reader) : Spends 0 r r :=
  ⟨[], (List.append_nil _).symm, nofun, Nat.le_refl _, Nat.zero_add _⟩

theorem trans {m n : Nat} {r s t : Reader} (h : Spends m r s) (k : Spends n s t) :
    Spends (m + n) r t := by
  obtain ⟨reads, hhistory, hreads, hlength, hstore⟩ := h
  obtain ⟨more, hhistory', hmore, hlength', hstore'⟩ := k
  refine ⟨reads ++ more, ?_, ?_, ?_, ?_⟩
  · rw [hhistory', hhistory, List.append_assoc]
  · intro call hcall
    rcases List.mem_append.1 hcall with hcall | hcall
    · exact hreads call hcall
    · exact hmore call hcall
  · simp only [List.length_append, List.map_append, List.sum_append, List.countP_append]
    omega
  · rw [List.countP_append]
    omega

theorem mono {m n : Nat} {r s : Reader} (h : Spends m r s) (hmn : m ≤ n) : Spends n r s := by
  obtain ⟨reads, hhistory, hreads, hlength, hstore⟩ := h
  exact ⟨reads, hhistory, hreads, by omega, hstore⟩

end Spends

/-- How many idle calls a read makes: one where it brings nothing, unless it is interrupted. -/
def idleCalls : Except StreamError (List UInt8) → Nat
  | .ok [] => 1
  | .ok (_ :: _) => 0
  | .error e => if e.isInterruption then 0 else 1

theorem spends_read (asked : Nat) {r : Reader} (h : r.Unbuffered) :
    Spends (idleCalls (r.read asked).1) r (r.read asked).2 := by
  rw [h.read_eq]
  let outcome := (r.connection.read asked).1
  have hstore := Arrival.interruptions_deliver asked (r.connection.most asked) r.connection.arrivals
  refine ⟨[.read asked (outcome.map List.length)], List.reverse_cons, by simp [Call.isRead], ?_, ?_⟩
  · show 1 ≤ _ + _ + idleCalls outcome
    rcases outcome with e | _ | ⟨b, bs⟩
    · cases hi : e.isInterruption <;>
        simp [idleCalls, Call.taken, Call.isInterrupted, Except.map, hi]
    · simp [idleCalls]
    · simp [idleCalls, Call.taken, Call.isInterrupted, Except.map]
  · rw [List.countP_singleton]
    exact hstore

/-- The idle calls of a field: one where it fails. -/
def idleOf {α : Type} : Except Failure α → Nat
  | .ok _ => 0
  | .error _ => 1

theorem spends_complete (field : Field) (got missing : Nat) (newest : List UInt8) {r : Reader}
    (h : r.Unbuffered) :
    Spends (idleOf (r.complete field got missing newest).1) r
      (r.complete field got missing newest).2 := by
  -- The calls that go on are paid for; a call that is not ends the field.
  fun_induction complete field got missing newest r with
  | case1 got newest r => exact .refl r
  | case2 got missing newest r hm r' hr =>
    have key := spends_read missing h
    rwa [hr] at key
  | case3 got missing newest r hm b bs r' hr ih =>
    have key := spends_read missing h
    have h' := h.of_advance (.read missing r)
    rw [hr] at key h'
    have hrest := key.trans (ih h')
    rwa [idleCalls, Nat.zero_add] at hrest
  | case4 got missing newest r hm e r' hr hi ih =>
    have key := spends_read missing h
    have h' := h.of_advance (.read missing r)
    rw [hr] at key h'
    have hrest := key.trans (ih h')
    rwa [idleCalls, if_pos hi, Nat.zero_add] at hrest
  | case5 got missing newest r hm e r' hr hi =>
    have key := spends_read missing h
    rw [hr] at key
    rwa [idleCalls, if_neg hi] at key

/-- A field costs no more calls than it takes bytes and meets interruptions, and one if it fails. -/
theorem spends_readField (field : Field) (size : Nat) {r : Reader} (h : r.Unbuffered) :
    Spends (idleOf (r.readField field size).1) r (r.readField field size).2 :=
  spends_complete field 0 size [] h

end Reader

end RemoteSearch
