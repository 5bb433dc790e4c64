import RemoteSearch.Proofs.Request.Sending

set_option autoImplicit false

/-! # What sending puts on the wire

Sending a frame is a row of calls on the connection: writes, of which each offers what the ones
before it have not got accepted, and a flush when all is accepted. Which rows there are is said by
`Transcript`, one rule for each way in which a call can go, and a frame is always sent by one of
them (`transcript_send`).

From this follows all that matters to whoever is at the other end of the wire (`Sending`): that it
gets the front of the frame and nothing else, and that the outcome tells whether this is all of it.
Requests that are sent one after the other, be it on a connection that has failed before, are each
sent in this way (`sendSeries_sending`).
-/

namespace RemoteSearch

namespace Call

/-- The bytes that calls got accepted, one after the other. -/
def acceptedBytes (calls : List Call) : List UInt8 := (calls.filterMap accepted?).flatten

variable (calls : List Call)

@[simp] theorem acceptedBytes_nil : acceptedBytes [] = [] := rfl

theorem acceptedBytes_append (more : List Call) :
    acceptedBytes (calls ++ more) = acceptedBytes calls ++ acceptedBytes more := by
  rw [acceptedBytes, List.filterMap_append, List.flatten_append, acceptedBytes, acceptedBytes]

@[simp] theorem acceptedBytes_write_ok (offered : List UInt8) (n : Nat) :
    acceptedBytes (.write offered (.ok n) :: calls) = offered.take n ++ acceptedBytes calls := rfl

@[simp] theorem acceptedBytes_flush (failed : Option StreamError) :
    acceptedBytes (.flush failed :: calls) = acceptedBytes calls := rfl

/-- The failure with which a call ends the sending. An interrupted write does not end it. -/
def failure? : Call → Option Failure
  | write _ (.ok 0) => some (.stream ⟨.writeZero, "failed to write whole buffer"⟩)
  | write _ (.error e) =>
    if e.kind = .interrupted then none
    else some (if e.kind = .wouldBlock ∨ e.kind = .timedOut then .timeout .writing else .stream e)
  | flush (some e) =>
    some (if e.kind = .wouldBlock ∨ e.kind = .timedOut then .timeout .writing else .stream e)
  | _ => none

theorem failure?_refused (offered : List UInt8) : (write offered (.ok 0)).failure? =
    some (.ofCall .writing Connection.nothingAccepted) := rfl

theorem failure?_accepted (offered : List UInt8) {n : Nat} (hn : 0 < n) :
    (write offered (.ok n)).failure? = none := by
  cases n with
  | zero => exact absurd hn (Nat.lt_irrefl 0)
  | succ n => rfl

theorem failure?_interrupted (offered : List UInt8) {e : StreamError} (he : e.kind = .interrupted) :
    (write offered (.error e)).failure? = none :=
  if_pos he

theorem failure?_failed (offered : List UInt8) {e : StreamError} (he : e.kind ≠ .interrupted) :
    (write offered (.error e)).failure? = some (.ofCall .writing e) := by
  rw [Failure.ofCall_eq]
  exact if_neg he

theorem failure?_unflushed (e : StreamError) :
    (flush (some e)).failure? = some (.ofCall .writing e) := by
  rw [Failure.ofCall_eq]
  rfl

end Call

open Call

/-! ## Calls in a row -/

/-- The calls by which bytes are sent, and what comes of it. -/
inductive Transcript : List UInt8 → List Call → Except Failure Unit → Prop
  | flushed : Transcript [] [.flush none] (.ok ())
  | unflushed (e : StreamError) : Transcript [] [.flush (some e)] (.error (.ofCall .writing e))
  | accepted {bytes : List UInt8} {n : Nat} {calls : List Call} {outcome : Except Failure Unit}
      (progress : 0 < n) (most : n ≤ bytes.length)
      (onward : Transcript (bytes.drop n) calls outcome) :
      Transcript bytes (.write bytes (.ok n) :: calls) outcome
  | interrupted {bytes : List UInt8} {e : StreamError} {calls : List Call}
      {outcome : Except Failure Unit} (left : bytes ≠ []) (retry : e.kind = .interrupted)
      (onward : Transcript bytes calls outcome) :
      Transcript bytes (.write bytes (.error e) :: calls) outcome
  | refused {bytes : List UInt8} (left : bytes ≠ []) :
      Transcript bytes [.write bytes (.ok 0)]
        (.error (.ofCall .writing Connection.nothingAccepted))
  | failed {bytes : List UInt8} {e : StreamError} (left : bytes ≠ [])
      (final : e.kind ≠ .interrupted) :
      Transcript bytes [.write bytes (.error e)] (.error (.ofCall .writing e))

namespace Connection

theorem history_write {offered : List UInt8} {o : Except StreamError Nat} {c c' : Connection}
    (h : c.write offered = (o, c')) : c'.history = c.history ++ [.write offered o] := by
  simp only [write, Prod.mk.injEq] at h
  obtain ⟨rfl, rfl⟩ := h
  exact List.reverse_cons

/-- Calls that come after a write stand behind it in the record. -/
theorem history_of_write {offered : List UInt8} {o : Except StreamError Nat}
    {c c' after : Connection} {calls : List Call} (h : c.write offered = (o, c'))
    (hafter : after.history = c'.history ++ calls) :
    after.history = c.history ++ .write offered o :: calls := by
  rw [hafter, history_write h, List.append_assoc, List.singleton_append]

theorem history_flush (c : Connection) : c.flush.2.history = c.history ++ [.flush c.flush.1] :=
  List.reverse_cons

/-- However the connection answers, bytes are sent by calls that stand in the record as one of
the rules has it. -/
theorem transcript_send (bytes : List UInt8) (c : Connection) :
    ∃ calls, (c.send bytes).2.history = c.history ++ calls ∧
      Transcript bytes calls (c.send bytes).1 := by
  unfold send
  fun_induction writeAll bytes c with
  | case1 c =>
    -- All is accepted, and it is left to the flush how the sending ends.
    have hhistory := c.history_flush
    simp only []
    rcases hflush : c.flush with ⟨_ | e, c'⟩
    · rw [hflush] at hhistory
      exact ⟨_, hhistory, .flushed⟩
    · rw [hflush] at hhistory
      exact ⟨_, hhistory, .unflushed e⟩
  | case2 c b rest c' h => exact ⟨_, history_write h, .refused (List.cons_ne_nil b rest)⟩
  | case3 c b rest n c' h ih =>
    obtain ⟨calls, hhistory, htranscript⟩ := ih
    refine ⟨.write (b :: rest) (.ok (n + 1)) :: calls, history_of_write h hhistory, ?_⟩
    exact .accepted (Nat.succ_pos n) (length_write_ok h).2 htranscript
  | case4 c b rest e c' h hi ih =>
    obtain ⟨calls, hhistory, htranscript⟩ := ih
    refine ⟨.write (b :: rest) (.error e) :: calls, history_of_write h hhistory, ?_⟩
    exact .interrupted (List.cons_ne_nil b rest) (of_decide_eq_true hi) htranscript
  | case5 c b rest e c' h hi =>
    have hfinal : e.kind ≠ .interrupted := fun hkind => hi (decide_eq_true hkind)
    exact ⟨_, history_write h, .failed (List.cons_ne_nil b rest) hfinal⟩

end Connection

namespace Transcript

variable {bytes : List UInt8} {calls : List Call} {outcome : Except Failure Unit}

/-- After the first call, the others send what it has left over. -/
theorem tail {call : Call} (h : Transcript bytes (call :: calls) outcome) (hcalls : calls ≠ []) :
    Transcript (bytes.drop (acceptedBytes [call]).length) calls outcome := by
  cases h with
  | flushed => exact absurd rfl hcalls
  | unflushed => exact absurd rfl hcalls
  | @accepted _ n _ _ progress most onward =>
    have hlength : (acceptedBytes [.write bytes (.ok n)]).length = n := by
      rw [acceptedBytes_write_ok, acceptedBytes_nil, List.append_nil, List.length_take_of_le most]
    rwa [hlength]
  | interrupted left retry onward => exact onward
  | refused => exact absurd rfl hcalls
  | failed => exact absurd rfl hcalls

/-- At any time, the calls still to come send what is not yet accepted. -/
theorem onward {earlier later : List Call} (h : Transcript bytes (earlier ++ later) outcome)
    (hlater : later ≠ []) :
    Transcript (bytes.drop (acceptedBytes earlier).length) later outcome := by
  induction earlier generalizing bytes with
  | nil => exact h
  | cons call earlier ih =>
    have key := ih (tail h (List.append_ne_nil_of_right_ne_nil earlier hlater))
    rwa [List.drop_drop, ← List.length_append, ← acceptedBytes_append] at key

theorem acceptedBytes_isPrefix (h : Transcript bytes calls outcome) :
    acceptedBytes calls <+: bytes := by
  induction h with
  | flushed => exact List.prefix_rfl
  | unflushed => exact List.prefix_rfl
  | @accepted bytes n calls outcome progress most onward ih =>
    have key := (List.prefix_append_right_inj (bytes.take n)).2 ih
    rwa [List.take_append_drop] at key
  | interrupted left retry onward ih => exact ih
  | refused => exact List.nil_prefix
  | failed => exact List.nil_prefix

/-- Either all is accepted and flushed once, or it is not and there is no flush. -/
theorem flushed_or (h : Transcript bytes calls outcome) :
    acceptedBytes calls = bytes ∧ calls.countP Call.isFlush = 1 ∨
      acceptedBytes calls ≠ bytes ∧ calls.countP Call.isFlush = 0 := by
  induction h with
  | flushed => exact .inl ⟨rfl, rfl⟩
  | unflushed => exact .inl ⟨rfl, rfl⟩
  | @accepted bytes n calls outcome progress most onward ih =>
    have hsplit := List.take_append_drop n bytes
    have hall : acceptedBytes (.write bytes (.ok n) :: calls) = bytes ↔
        acceptedBytes calls = bytes.drop n := by
      constructor
      · intro hall
        exact List.append_cancel_left (hall.trans hsplit.symm)
      · intro hall
        rw [acceptedBytes_write_ok, hall, hsplit]
    rwa [ne_eq, hall, List.countP_cons_of_neg Bool.false_ne_true]
  | interrupted left retry onward ih => exact ih
  | refused left => exact .inr ⟨left.symm, rfl⟩
  | failed left => exact .inr ⟨left.symm, rfl⟩

/-- A write offers all that is left. -/
theorem of_write {offered : List UInt8} {result : Except StreamError Nat}
    (h : Transcript bytes (.write offered result :: calls) outcome) : offered = bytes := by
  cases h <;> rfl

/-- As long as bytes are left, the next call is a write. -/
theorem starts (h : Transcript bytes calls outcome) (hleft : bytes ≠ []) :
    ∃ result later, calls = .write bytes result :: later := by
  cases h with
  | flushed => exact absurd rfl hleft
  | unflushed => exact absurd rfl hleft
  | accepted => exact ⟨_, _, rfl⟩
  | interrupted => exact ⟨_, _, rfl⟩
  | refused => exact ⟨_, _, rfl⟩
  | failed => exact ⟨_, _, rfl⟩

theorem of_interrupted {offered : List UInt8} {e : StreamError}
    (h : Transcript bytes (.write offered (.error e) :: calls) outcome)
    (he : e.kind = .interrupted) : ∃ result later, calls = .write offered result :: later := by
  cases h with
  | interrupted left retry onward => exact starts onward left
  | failed left final => exact absurd he final

theorem of_flush {failed : Option StreamError}
    (h : Transcript bytes (.flush failed :: calls) outcome) :
    bytes = [] ∧ calls = [] ∧ (failed = none → outcome = .ok ()) := by
  cases h with
  | flushed => exact ⟨rfl, rfl, fun _ => rfl⟩
  | unflushed => exact ⟨rfl, rfl, nofun⟩

/-- When nothing is left, only the flush is still to come. -/
theorem of_nil (h : Transcript [] calls outcome) : ∃ failed, calls = [.flush failed] := by
  cases h with
  | flushed => exact ⟨none, rfl⟩
  | unflushed e => exact ⟨some e, rfl⟩
  | accepted progress most => exact absurd progress (Nat.not_lt.2 most)
  | interrupted left => exact absurd rfl left
  | refused left => exact absurd rfl left
  | failed left => exact absurd rfl left

theorem of_write_all {offered : List UInt8} {n : Nat}
    (h : Transcript bytes (.write offered (.ok n) :: calls) outcome) (hn : n = bytes.length) :
    ∃ failed, calls = [.flush failed] := by
  cases h with
  | accepted progress most onward =>
    rw [hn, List.drop_length] at onward
    exact of_nil onward
  | refused left => exact absurd (List.length_eq_zero_iff.1 hn.symm) left

/-! ## The outcome -/

theorem of_ok (h : Transcript bytes calls outcome) (hok : outcome = .ok ()) :
    acceptedBytes calls = bytes ∧ .flush none ∈ calls := by
  induction h with
  | flushed => exact ⟨rfl, List.mem_singleton_self _⟩
  | unflushed => cases hok
  | @accepted bytes n calls outcome progress most onward ih =>
    obtain ⟨hall, hflush⟩ := ih hok
    refine ⟨?_, List.mem_cons_of_mem _ hflush⟩
    rw [acceptedBytes_write_ok, hall, List.take_append_drop]
  | interrupted left retry onward ih =>
    obtain ⟨hall, hflush⟩ := ih hok
    exact ⟨hall, List.mem_cons_of_mem _ hflush⟩
  | refused => cases hok
  | failed => cases hok

theorem of_error (h : Transcript bytes calls outcome) {f : Failure} (hf : outcome = .error f) :
    ∃ call ∈ calls, call.failure? = some f := by
  induction h with
  | flushed => cases hf
  | unflushed e =>
    cases hf
    exact ⟨_, List.mem_singleton_self _, failure?_unflushed e⟩
  | accepted progress most onward ih =>
    obtain ⟨call, hmem, hcall⟩ := ih hf
    exact ⟨call, List.mem_cons_of_mem _ hmem, hcall⟩
  | interrupted left retry onward ih =>
    obtain ⟨call, hmem, hcall⟩ := ih hf
    exact ⟨call, List.mem_cons_of_mem _ hmem, hcall⟩
  | @refused bytes left =>
    cases hf
    exact ⟨_, List.mem_singleton_self _, failure?_refused bytes⟩
  | @failed bytes e left final =>
    cases hf
    exact ⟨_, List.mem_singleton_self _, failure?_failed bytes final⟩

/-- A call that fails for good is the last one, and its failure is the outcome. -/
theorem of_failure {call : Call} {f : Failure} (h : Transcript bytes (call :: calls) outcome)
    (hf : call.failure? = some f) : outcome = .error f := by
  cases h with
  | flushed => cases hf
  | unflushed e => rw [Option.some.inj ((failure?_unflushed e).symm.trans hf)]
  | accepted progress => cases (failure?_accepted bytes progress).symm.trans hf
  | interrupted left retry => cases (failure?_interrupted bytes retry).symm.trans hf
  | refused => rw [Option.some.inj ((failure?_refused bytes).symm.trans hf)]
  | failed left final => rw [Option.some.inj ((failure?_failed bytes final).symm.trans hf)]

end Transcript

/-! ## What becomes of bytes that are sent -/

/-- Calls that put bytes on the wire as they should, and their outcome. -/
structure Sending (bytes : List UInt8) (outcome : Except Failure Unit) (calls : List Call) :
    Prop where
  /-- What is accepted, over all calls, is the front of the bytes. -/
  accepted : acceptedBytes calls <+: bytes
  /-- Each write offers all that is not yet accepted. -/
  offered : ∀ earlier offered result later, calls = earlier ++ .write offered result :: later →
    offered = bytes.drop (acceptedBytes earlier).length
  /-- It succeeds if and only if all bytes are accepted and the flush succeeds. -/
  ok_iff : outcome = .ok () ↔ acceptedBytes calls = bytes ∧ .flush none ∈ calls
  /-- It fails with the failure of one of its calls. -/
  error_iff : ∀ f, outcome = .error f ↔ ∃ call ∈ calls, call.failure? = some f
  /-- After an interrupted write the same bytes are offered again. -/
  again : ∀ earlier offered e later, calls = earlier ++ .write offered (.error e) :: later →
    e.kind = .interrupted → ∃ result after, later = .write offered result :: after
  /-- There is one flush if all bytes are accepted, and none otherwise. -/
  flushes : calls.countP Call.isFlush = if acceptedBytes calls = bytes then 1 else 0
  /-- The flush comes last, when all bytes are accepted. -/
  flush : ∀ earlier failed later, calls = earlier ++ .flush failed :: later →
    acceptedBytes earlier = bytes ∧ later = []
  /-- Bytes that are all accepted by the first write are not followed by another one. -/
  atOnce : ∀ offered later, calls = .write offered (.ok bytes.length) :: later →
    ∃ failed, later = [.flush failed]

theorem Transcript.sending {bytes : List UInt8} {calls : List Call} {outcome : Except Failure Unit}
    (h : Transcript bytes calls outcome) : Sending bytes outcome calls where
  accepted := acceptedBytes_isPrefix h
  offered earlier offered result later hcalls := by
    rw [hcalls] at h
    exact of_write (onward h nofun)
  ok_iff := by
    refine ⟨of_ok h, fun ⟨_, hflush⟩ => ?_⟩
    obtain ⟨earlier, later, rfl⟩ := List.append_of_mem hflush
    exact (of_flush (onward h nofun)).2.2 rfl
  error_iff f := by
    refine ⟨of_error h, fun ⟨call, hmem, hcall⟩ => ?_⟩
    obtain ⟨earlier, later, rfl⟩ := List.append_of_mem hmem
    exact of_failure (onward h nofun) hcall
  again earlier offered e later hcalls he := by
    rw [hcalls] at h
    exact of_interrupted (onward h nofun) he
  flushes := by
    rcases flushed_or h with ⟨hall, hcount⟩ | ⟨hall, hcount⟩
    · rw [hcount, if_pos hall]
    · rw [hcount, if_neg hall]
  flush earlier failed later hcalls := by
    rw [hcalls] at h
    -- Nothing is left to offer, so what was accepted is no mere front of the bytes.
    obtain ⟨hleft, hlater, -⟩ := of_flush (onward h nofun)
    have hfront := acceptedBytes_isPrefix h
    rw [hlater, acceptedBytes_append, acceptedBytes_flush, acceptedBytes_nil,
      List.append_nil] at hfront
    exact ⟨hfront.eq_of_length_le (List.drop_eq_nil_iff.1 hleft), hlater⟩
  atOnce offered later hcalls := by
    rw [hcalls] at h
    exact of_write_all h rfl

namespace Request

variable (order : Wire.Endian)

/-- A request, what came of sending it, and the calls that were made for this. -/
structure Sent where
  request : Request
  outcome : Except Failure Unit
  calls : List Call

/-- Its frame is put on the wire as far as it gets. A request without a frame fails before any call
is made. -/
def Sent.Conforms (x : Sent) : Prop :=
  match x.request.frame order with
  | .ok bytes => Sending bytes x.outcome x.calls
  | .error e => x.outcome = .error e ∧ x.calls = []

/-- Sends requests one after the other, also after one that fails. -/
def sendSeries : List Request → Connection → List Sent × Connection
  | [], c => ([], c)
  | q :: qs, c =>
    let (outcome, c₁) := q.send order c
    let (sent, c₂) := sendSeries qs c₁
    (⟨q, outcome, c₁.history.drop c.history.length⟩ :: sent, c₂)

theorem conforms_send (q : Request) (c : Connection) :
    ∃ calls, (q.send order c).2.history = c.history ++ calls ∧
      Sent.Conforms order ⟨q, (q.send order c).1, calls⟩ := by
  cases hframe : q.frame order with
  | error e =>
    have hsend : q.send order c = (.error e, c) := by rw [send, hframe]
    rw [hsend]
    refine ⟨[], (List.append_nil _).symm, ?_⟩
    simp only [Sent.Conforms, hframe, and_self]
  | ok bytes =>
    have hsend : q.send order c = c.send bytes := by rw [send, hframe]
    obtain ⟨calls, hhistory, htranscript⟩ := c.transcript_send bytes
    rw [hsend]
    refine ⟨calls, hhistory, ?_⟩
    simp only [Sent.Conforms, hframe]
    exact htranscript.sending

/-- Of requests that are sent in turn, each has its own frame put on the wire as far as it gets,
whatever became of the ones before. -/
theorem sendSeries_sending (qs : List Request) (c : Connection) :
    (sendSeries order qs c).1.map Sent.request = qs ∧
      (∀ x ∈ (sendSeries order qs c).1, x.Conforms order) ∧
      (sendSeries order qs c).2.history =
        c.history ++ (sendSeries order qs c).1.flatMap Sent.calls := by
  induction qs generalizing c with
  | nil => exact ⟨rfl, nofun, (List.append_nil _).symm⟩
  | cons q qs ih =>
    obtain ⟨calls, hhistory, hconforms⟩ := conforms_send order q c
    obtain ⟨hqs, hsent, hafter⟩ := ih (q.send order c).2
    have hcalls : (q.send order c).2.history.drop c.history.length = calls := by
      rw [hhistory, List.drop_left]
    have hseries : sendSeries order (q :: qs) c =
        (⟨q, (q.send order c).1, calls⟩ :: (sendSeries order qs (q.send order c).2).1,
          (sendSeries order qs (q.send order c).2).2) := by
      rw [← hcalls]
      rfl
    rw [hseries]
    refine ⟨congrArg (q :: ·) hqs, List.forall_mem_cons.2 ⟨hconforms, hsent⟩, ?_⟩
    rw [hafter, hhistory, List.append_assoc, List.flatMap_cons]

/-- The rest of a frame that is cut off after two bytes is not sent with the next request. -/
example :
    let late : StreamError := ⟨.timedOut, "late"⟩
    let c : Connection := { replies := [.upTo 2, .failure late, .failure (.ofKind .interrupted)] }
    (sendSeries .big [⟨.first, [104]⟩, ⟨.empty, []⟩] c).1.map
        (fun x => (x.outcome, Call.acceptedBytes x.calls)) =
      [(.error (.timeout .writing), [1, 0]), (.ok (), [0, 0, 0, 0, 0])] := by
  decide +kernel

end Request

end RemoteSearch
