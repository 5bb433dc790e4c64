import RemoteSearch.Proofs.Client.Receiving
import RemoteSearch.Proofs.Connection.Sides

set_option autoImplicit false

/-! # Searches in two halves

A search can be made in two halves, of which the one sends and the other receives. Where the
deadline of a half is set, all of it happens on one side of the connection (`send_of_set`,
`receive_of_set`): the half does not see what was done on the other side, and nothing of it shows
there.

So requests may be sent long before their responses are received. In whatever way sends and receives
are mixed, each half gives what it gives as long as its own steps come in the same order
(`interleavings_agree`). What carries this over a run is `Alike`: a client that takes all the steps
is like one that takes only those of one direction.
-/

namespace RemoteSearch

/-! ## Calls by direction -/

namespace Connection

/-- The calls in one direction. -/
def callsIn (direction : Direction) (c : Connection) : List Call :=
  c.history.filter (·.direction = direction)

/-- The deadlines that were set in one direction. -/
def deadlinesIn (direction : Direction) (c : Connection) : List (Direction × Option Duration) :=
  c.deadlinesSet.filter (·.1 = direction)

theorem flushCount_eq_callsIn (c : Connection) :
    c.flushCount = (c.callsIn .writing).countP Call.isFlush := by
  have hflush : ∀ call ∈ c.history,
      call.isFlush = (call.isFlush && decide (call.direction = .writing)) := by
    intro call _
    cases call <;> rfl
  calc c.flushCount
      = c.history.countP Call.isFlush := List.countP_reverse.symm
    _ = c.history.countP fun call => call.isFlush && decide (call.direction = .writing) :=
        List.countP_congr fun call hmem => by rw [← hflush call hmem]
    _ = (c.callsIn .writing).countP Call.isFlush := List.countP_filter.symm

theorem deadlinesIn_eq_callsIn (direction : Direction) (c : Connection) :
    c.deadlinesIn direction = (c.callsIn direction).filterMap Call.deadline? := by
  rw [deadlinesIn, deadlinesSet, callsIn, List.filter_filterMap, List.filterMap_filter]
  congr 1
  funext call
  cases call with
  | setDeadline way limit failed =>
    by_cases hway : way = direction <;> simp [Call.direction, Call.deadline?, hway]
  | read | write | flush => exact (ite_self none).symm

theorem taken_eq_callsIn (c : Connection) :
    c.taken = (c.callsIn .reading).foldr (fun call n => n + call.taken) 0 := by
  rw [taken, callsIn, List.foldr_filter, history, List.foldr_reverse]
  congr 1
  funext n call
  cases call with
  | read | write | flush => rfl
  | setDeadline direction limit failed => exact (ite_self n).symm

end Connection

namespace Client

/-! ## A half on its own side -/

/-- Where the deadline is set, a request is sent on the sending side. -/
theorem send_of_set {c : Client} (h : c.connection.deadlines.head?.join = none) (mode : Mode)
    (text : String) (deadline : Option Duration) :
    c.send mode text deadline =
      (((Request.ofText mode text).send c.dialect.order c.connection.sendingSide).1,
        c.onConnection
          (((Request.ofText mode text).send c.dialect.order c.connection.sendingSide).2.withSending
            (c.connection.setDeadline .writing (Duration.limit? deadline)).2)) := by
  have hset : c.connection.setDeadline .writing (Duration.limit? deadline) =
      (none, (c.connection.setDeadline .writing (Duration.limit? deadline)).2) := Prod.ext h rfl
  unfold send
  rw [hset]
  simp only []
  rw [Request.send_eq]
  rfl

/-- Where the deadline is set, a response is received on the reading side. -/
theorem receive_of_set {c : Client} (h : c.connection.deadlines.head?.join = none) (mode : Mode)
    (deadline : Option Duration) :
    c.receive mode deadline =
      ((c.dialect.readOccurrences mode c.reader.readingSide).1,
        { c with
          reader := (c.dialect.readOccurrences mode c.reader.readingSide).2.onto
            (c.connection.setDeadline .reading (Duration.limit? deadline)).2 }) := by
  rw [receive_eq h, Dialect.readOccurrences_eq]
  rfl

theorem history_send {c : Client} (h : c.connection.deadlines.head?.join = none) (mode : Mode)
    (text : String) (deadline : Option Duration) :
    (c.send mode text deadline).2.connection.history =
      c.connection.history ++ .setDeadline .writing (Duration.limit? deadline) none ::
        ((Request.ofText mode text).send c.dialect.order c.connection.sendingSide).2.history := by
  rw [send_of_set h]
  refine (Connection.history_withSending _ _).trans ?_
  rw [Connection.history_setDeadline, h, List.append_assoc, List.singleton_append]

theorem history_receive {c : Client} (h : c.connection.deadlines.head?.join = none) (mode : Mode)
    (deadline : Option Duration) :
    (c.receive mode deadline).2.connection.history =
      c.connection.history ++ .setDeadline .reading (Duration.limit? deadline) none ::
        (c.dialect.readOccurrences mode c.reader.readingSide).2.connection.history := by
  rw [receive_of_set h]
  refine (Connection.history_withReading _ _).trans ?_
  rw [Connection.history_setDeadline, h, List.append_assoc, List.singleton_append]

/-! ## Turns -/

/-- A step that was taken, what came of it, and the calls that were made for it. -/
structure Turn where
  step : Step
  outcome : Except Failure Outcome
  calls : List Call

/-- The turn of a step that is taken next. -/
def turn (s : Step) (c : Client) : Turn :=
  ⟨s, (c.step s).1, (c.step s).2.connection.history.drop c.connection.history.length⟩

/-- The turns of a run. -/
def turns : List Step → Client → List Turn
  | [], _ => []
  | s :: steps, c => c.turn s :: (c.step s).2.turns steps

theorem turn_of_history {s : Step} {c : Client} {calls : List Call}
    (h : (c.step s).2.connection.history = c.connection.history ++ calls) :
    c.turn s = ⟨s, (c.step s).1, calls⟩ := by
  rw [turn, h, List.drop_left]

theorem step_send {c : Client} (h : c.connection.deadlines.head?.join = none) (text : String)
    (mode : Mode) (deadline : Option Duration) :
    let sent := (Request.ofText mode text).send c.dialect.order c.connection.sendingSide
    c.step (.send text mode deadline) =
      (sent.1.map fun _ => .done, c.onConnection (sent.2.withSending
        (c.connection.setDeadline .writing (Duration.limit? deadline)).2)) := by
  intro sent
  rw [step, send_of_set h]
  rfl

theorem step_receive {c : Client} (h : c.connection.deadlines.head?.join = none) (mode : Mode)
    (deadline : Option Duration) :
    let got := c.dialect.readOccurrences mode c.reader.readingSide
    c.step (.receive mode deadline) =
      (got.1.map .found,
        { c with reader :=
            got.2.onto (c.connection.setDeadline .reading (Duration.limit? deadline)).2 }) := by
  intro got
  rw [step, receive_of_set h]
  rfl

theorem turn_send {c : Client} (h : c.connection.deadlines.head?.join = none) (text : String)
    (mode : Mode) (deadline : Option Duration) :
    let sent := (Request.ofText mode text).send c.dialect.order c.connection.sendingSide
    c.turn (.send text mode deadline) =
      ⟨.send text mode deadline, sent.1.map fun _ => .done,
        .setDeadline .writing (Duration.limit? deadline) none :: sent.2.history⟩ := by
  intro sent
  have hturn : c.turn (.send text mode deadline) = ⟨_, _, _⟩ :=
    turn_of_history (history_send h mode text deadline)
  rw [hturn, step_send h]

theorem turn_receive {c : Client} (h : c.connection.deadlines.head?.join = none) (mode : Mode)
    (deadline : Option Duration) :
    let got := c.dialect.readOccurrences mode c.reader.readingSide
    c.turn (.receive mode deadline) =
      ⟨.receive mode deadline, got.1.map .found,
        .setDeadline .reading (Duration.limit? deadline) none :: got.2.connection.history⟩ := by
  intro got
  have hturn : c.turn (.receive mode deadline) = ⟨_, _, _⟩ :=
    turn_of_history (history_receive h mode deadline)
  rw [hturn, step_receive h]

/-! ## Steps of one direction -/

/-- The direction of a step that makes one half of a search. -/
def Step.direction? : Step → Option Direction
  | .send _ _ _ => some .writing
  | .receive _ _ => some .reading
  | _ => none

/-- True of a half in the direction. -/
def Step.goes (direction : Direction) (s : Step) : Bool := s.direction? = some direction

variable {direction : Direction} {c c' : Client} {s : Step}

/-- A half makes no call in the other direction. -/
theorem direction_turn (h : c.DeadlinesHold) (hs : s.direction? = some direction) :
    ∀ call ∈ (c.turn s).calls, call.direction = direction := by
  cases s with
  | send text mode deadline =>
    cases hs
    rw [turn_send h.head]
    refine List.forall_mem_cons.2 ⟨rfl, fun call hmem => ?_⟩
    have hsending := Request.isSending_history _ _ _ call hmem
    cases call with
    | write | flush => rfl
    | read | setDeadline => cases hsending
  | receive mode deadline =>
    cases hs
    rw [turn_receive h.head]
    refine List.forall_mem_cons.2 ⟨rfl, fun call hmem => ?_⟩
    have hread := Dialect.isRead_history _ _ _ call hmem
    cases call with
    | read => rfl
    | write | flush | setDeadline => cases hread
  | search | query | renew | withMode | withTimeouts => cases hs

theorem history_step (h : c.DeadlinesHold) (hs : s.direction? = some direction) :
    (c.step s).2.connection.history = c.connection.history ++ (c.turn s).calls := by
  cases s with
  | send text mode deadline =>
    rw [turn_send h.head]
    exact history_send h.head mode text deadline
  | receive mode deadline =>
    rw [turn_receive h.head]
    exact history_receive h.head mode deadline
  | search | query | renew | withMode | withTimeouts => cases hs

/-- A half adds its calls to the record of its own direction. -/
theorem callsIn_step (h : c.DeadlinesHold) (hs : s.direction? = some direction) :
    (c.step s).2.connection.callsIn direction =
      c.connection.callsIn direction ++ (c.turn s).calls := by
  have hall : ∀ call ∈ (c.turn s).calls, decide (call.direction = direction) = true :=
    fun call hmem => decide_eq_true (direction_turn h hs call hmem)
  rw [Connection.callsIn, history_step h hs, List.filter_append, List.filter_eq_self.2 hall]
  rfl

theorem callsIn_step_of_ne (h : c.DeadlinesHold) {other : Direction}
    (hs : s.direction? = some other) (hne : other ≠ direction) :
    (c.step s).2.connection.callsIn direction = c.connection.callsIn direction := by
  have hnone : ∀ call ∈ (c.turn s).calls, ¬ decide (call.direction = direction) = true := by
    intro call hmem hcall
    exact hne ((direction_turn h hs call hmem).symm.trans (of_decide_eq_true hcall))
  rw [Connection.callsIn, history_step h hs, List.filter_append, List.filter_eq_nil_iff.2 hnone,
    List.append_nil]
  rfl

theorem DeadlinesHold.step (h : c.DeadlinesHold) (hs : s.direction? = some direction) :
    (c.step s).2.DeadlinesHold := by
  -- A half uses up one outcome, for its own deadline.
  have hdeadlines : (c.step s).2.connection.deadlines = c.connection.deadlines.tail := by
    cases s with
    | send text mode deadline =>
      rw [step_send h.head]
      rfl
    | receive mode deadline =>
      rw [step_receive h.head]
      rfl
    | search | query | renew | withMode | withTimeouts => cases hs
  intro o hmem
  rw [hdeadlines] at hmem
  exact h o (List.mem_of_mem_tail hmem)

theorem dialect_step (h : c.DeadlinesHold) (hs : s.direction? = some direction) :
    (c.step s).2.dialect = c.dialect := by
  cases s with
  | send text mode deadline => rw [step_send h.head, onConnection]
  | receive mode deadline => rw [step_receive h.head]
  | search | query | renew | withMode | withTimeouts => cases hs

/-! ## What a direction sees -/

/-- What there is on one side of a client, without any calls. -/
def side (direction : Direction) (c : Client) : Reader :=
  match direction with
  | .reading => c.reader.readingSide
  | .writing => .direct c.connection.sendingSide

/-- What a half comes to is a matter of its own side. -/
theorem turn_of_side (h : c.DeadlinesHold) (h' : c'.DeadlinesHold)
    (hdialect : c.dialect = c'.dialect)
    (hside : c.side direction = c'.side direction) (hs : s.direction? = some direction) :
    c.turn s = c'.turn s ∧ (c.step s).2.side direction = (c'.step s).2.side direction := by
  cases s with
  | send text mode deadline =>
    cases hs
    have hsending : c.connection.sendingSide = c'.connection.sendingSide :=
      congrArg Reader.connection hside
    rw [turn_send h.head, turn_send h'.head, step_send h.head, step_send h'.head, hdialect,
      hsending]
    exact ⟨rfl, rfl⟩
  | receive mode deadline =>
    cases hs
    have hreading : c.reader.readingSide = c'.reader.readingSide := hside
    rw [turn_receive h.head, turn_receive h'.head, step_receive h.head, step_receive h'.head,
      hdialect, hreading]
    exact ⟨rfl, rfl⟩
  | search | query | renew | withMode | withTimeouts => cases hs

/-- Nothing of a half shows on the other side. -/
theorem side_step_of_ne (h : c.DeadlinesHold) {other : Direction}
    (hs : s.direction? = some other) (hne : other ≠ direction) :
    (c.step s).2.side direction = c.side direction := by
  cases s with
  | send text mode deadline =>
    cases hs
    rw [step_send h.head]
    cases direction with
    | reading => rfl
    | writing => exact absurd rfl hne
  | receive mode deadline =>
    cases hs
    rw [step_receive h.head]
    cases direction with
    | reading => exact absurd rfl hne
    | writing => rfl
  | search | query | renew | withMode | withTimeouts => cases hs

/-- Clients that cannot be told apart from what is done in one direction. -/
structure Alike (direction : Direction) (c c' : Client) : Prop where
  dialect : c.dialect = c'.dialect
  holds : c.DeadlinesHold
  holds' : c'.DeadlinesHold
  side : c.side direction = c'.side direction
  calls : c.connection.callsIn direction = c'.connection.callsIn direction

namespace Alike

theorem refl (h : c.DeadlinesHold) (direction : Direction) : Alike direction c c :=
  ⟨rfl, h, h, rfl, rfl⟩

/-- A step in the direction is the same turn for both, and they are alike again. -/
theorem step (h : Alike direction c c') (hs : s.direction? = some direction) :
    c.turn s = c'.turn s ∧ Alike direction (c.step s).2 (c'.step s).2 := by
  obtain ⟨hturn, hside⟩ := turn_of_side h.holds h.holds' h.dialect h.side hs
  have hdialect : (c.step s).2.dialect = (c'.step s).2.dialect := by
    rw [dialect_step h.holds hs, dialect_step h.holds' hs, h.dialect]
  refine ⟨hturn, hdialect, h.holds.step hs, h.holds'.step hs, hside, ?_⟩
  rw [callsIn_step h.holds hs, callsIn_step h.holds' hs, h.calls, hturn]

/-- A step in the other direction makes no difference. -/
theorem aside (h : Alike direction c c') {other : Direction} (hs : s.direction? = some other)
    (hne : other ≠ direction) : Alike direction (c.step s).2 c' where
  dialect := (dialect_step h.holds hs).trans h.dialect
  holds := h.holds.step hs
  holds' := h.holds'
  side := (side_step_of_ne h.holds hs hne).trans h.side
  calls := (callsIn_step_of_ne h.holds hs hne).trans h.calls

/-- A run of halves in both directions has the turns of a run of those in one direction only. -/
theorem run (h : Alike direction c c') {steps : List Step}
    (hsteps : ∀ s ∈ steps, s.direction? ≠ none) :
    (c.turns steps).filter (·.step.goes direction) = c'.turns (steps.filter (·.goes direction)) ∧
      Alike direction (c.run steps).2 (c'.run (steps.filter (·.goes direction))).2 := by
  induction steps generalizing c c' with
  | nil => exact ⟨rfl, h⟩
  | cons s steps ih =>
    obtain ⟨hs, hrest⟩ := List.forall_mem_cons.1 hsteps
    obtain ⟨other, hother⟩ := Option.ne_none_iff_exists'.1 hs
    rw [turns, List.filter_cons, List.filter_cons]
    by_cases heq : other = direction
    · subst heq
      have hgoes : s.goes other = true := decide_eq_true hother
      have hgoes' : (c.turn s).step.goes other = true := hgoes
      obtain ⟨hturn, hafter⟩ := h.step hother
      obtain ⟨hturns, hrun⟩ := ih hafter hrest
      rw [if_pos hgoes', if_pos hgoes, turns, hturn, hturns]
      exact ⟨rfl, hrun⟩
    · have hnot : ¬ s.goes direction = true := by
        rw [Step.goes, hother]
        simpa using heq
      have hnot' : ¬ (c.turn s).step.goes direction = true := hnot
      obtain ⟨hturns, hrun⟩ := ih (h.aside hother heq) hrest
      rw [if_neg hnot', if_neg hnot]
      exact ⟨hturns, hrun⟩

/-! What a direction sees is a matter of its side and of its calls. -/

theorem deadlinesIn (h : Alike direction c c') :
    c.connection.deadlinesIn direction = c'.connection.deadlinesIn direction := by
  rw [Connection.deadlinesIn_eq_callsIn, Connection.deadlinesIn_eq_callsIn, h.calls]

theorem flushCount (h : Alike .writing c c') :
    c.connection.flushCount = c'.connection.flushCount := by
  rw [Connection.flushCount_eq_callsIn, Connection.flushCount_eq_callsIn, h.calls]

theorem taken (h : Alike .reading c c') : c.connection.taken = c'.connection.taken := by
  rw [Connection.taken_eq_callsIn, Connection.taken_eq_callsIn, h.calls]

theorem ahead (h : Alike .reading c c') : c.reader.ahead = c'.reader.ahead :=
  (congrArg Reader.ahead h.side :)

theorem arrivals (h : Alike .reading c c') : c.connection.arrivals = c'.connection.arrivals :=
  (congrArg (·.connection.arrivals) h.side :)

end Alike

/-! ## Interleavings -/

/-- Sends and receives mixed into one row, in which each of both are in their order. -/
inductive Interleaving : List Step → List Step → List Step → Prop
  | nil : Interleaving [] [] []
  | send (text : String) (mode : Mode) (deadline : Option Duration)
      {sends receives steps : List Step} (onward : Interleaving sends receives steps) :
      Interleaving (.send text mode deadline :: sends) receives (.send text mode deadline :: steps)
  | receive (mode : Mode) (deadline : Option Duration) {sends receives steps : List Step}
      (onward : Interleaving sends receives steps) :
      Interleaving sends (.receive mode deadline :: receives) (.receive mode deadline :: steps)

namespace Interleaving

variable {sends receives steps : List Step}

theorem direction?_ne_none (h : Interleaving sends receives steps) :
    ∀ s ∈ steps, s.direction? ≠ none := by
  induction h with
  | nil => exact List.forall_mem_nil _
  | send _ _ _ _ ih | receive _ _ _ ih => exact List.forall_mem_cons.2 ⟨nofun, ih⟩

/-- Both orders are kept. -/
theorem filter_eq (h : Interleaving sends receives steps) :
    steps.filter (·.goes .writing) = sends ∧
      steps.filter (·.goes .reading) = receives := by
  induction h with
  | nil => exact ⟨rfl, rfl⟩
  | send text mode deadline _ ih => exact ⟨congrArg (_ :: ·) ih.1, ih.2⟩
  | receive mode deadline _ ih => exact ⟨ih.1, congrArg (_ :: ·) ih.2⟩

end Interleaving

/-- What can be seen of the sending in a run: each send with what came of it and its calls, the
number of flushes, and the deadlines for writing. -/
structure Outbound where
  turns : List Turn
  flushes : Nat
  deadlines : List (Direction × Option Duration)

/-- What can be seen of the receiving in a run: each receive with what came of it and its calls, the
deadlines for reading, and at the end the number of bytes taken, those read ahead and those still in
store. -/
structure Inbound where
  turns : List Turn
  deadlines : List (Direction × Option Duration)
  taken : Nat
  ahead : List UInt8
  arrivals : List Arrival

def outbound (steps : List Step) (c : Client) : Outbound where
  turns := (c.turns steps).filter (·.step.goes .writing)
  flushes := (c.run steps).2.connection.flushCount
  deadlines := (c.run steps).2.connection.deadlinesIn .writing

def inbound (steps : List Step) (c : Client) : Inbound where
  turns := (c.turns steps).filter (·.step.goes .reading)
  deadlines := (c.run steps).2.connection.deadlinesIn .reading
  taken := (c.run steps).2.connection.taken
  ahead := (c.run steps).2.reader.ahead
  arrivals := (c.run steps).2.connection.arrivals

section

variable {sends receives steps : List Step}

/-- The sending in a row of sends and receives is that of the sends alone. -/
theorem outbound_eq (h : c.DeadlinesHold) (hsteps : Interleaving sends receives steps) :
    c.outbound steps =
      { turns := c.turns sends
        flushes := (c.run sends).2.connection.flushCount
        deadlines := (c.run sends).2.connection.deadlinesIn .writing } := by
  obtain ⟨hturns, halike⟩ := (Alike.refl h .writing).run hsteps.direction?_ne_none
  rw [hsteps.filter_eq.1] at hturns halike
  rw [outbound, hturns, halike.flushCount, halike.deadlinesIn]

/-- The receiving in a row of sends and receives is that of the receives alone. -/
theorem inbound_eq (h : c.DeadlinesHold) (hsteps : Interleaving sends receives steps) :
    c.inbound steps =
      { turns := c.turns receives
        deadlines := (c.run receives).2.connection.deadlinesIn .reading
        taken := (c.run receives).2.connection.taken
        ahead := (c.run receives).2.reader.ahead
        arrivals := (c.run receives).2.connection.arrivals } := by
  obtain ⟨hturns, halike⟩ := (Alike.refl h .reading).run hsteps.direction?_ne_none
  rw [hsteps.filter_eq.2] at hturns halike
  rw [inbound, hturns, halike.deadlinesIn, halike.taken, halike.ahead, halike.arrivals]

end

/-- Halves of searches are independent. Sends and receives can be interleaved in any way: as long as
the sends are the same, so is all that is sent, whatever is received in between, and as long as the
receives are the same, so is all that is received, whatever is sent in between. -/
theorem interleavings_agree (h : c.DeadlinesHold)
    {sends sends' receives receives' steps steps' : List Step}
    (hsteps : Interleaving sends receives steps) (hsteps' : Interleaving sends' receives' steps') :
    (sends = sends' → c.outbound steps = c.outbound steps') ∧
      (receives = receives' → c.inbound steps = c.inbound steps') := by
  constructor
  · rintro rfl
    rw [outbound_eq h hsteps, outbound_eq h hsteps']
  · rintro rfl
    rw [inbound_eq h hsteps, inbound_eq h hsteps']

/-- Two requests, of which the first is cut off, and two responses, of which the first comes too
late: all requests first, or each before its response. -/
theorem interleavings_agree_in_batch :
    let late : StreamError := ⟨.timedOut, "late"⟩
    let c : Client := .ofConnection ⟨.big, 16⟩
      { arrivals := [.data [0, 0], .failure late, .data [0, 0, 0, 1, 65, 0, 0, 0, 0]]
        replies := [.upTo 3, .failure late] }
    let batch : List Step :=
      [.send "a" .first none, .send "b" .first none, .receive .first none, .receive .first none]
    let inTurn : List Step :=
      [.send "a" .first none, .receive .first none, .send "b" .first none, .receive .first none]
    c.outbound batch = c.outbound inTurn ∧ c.inbound batch = c.inbound inTurn ∧
      (c.outbound inTurn).turns.map Turn.outcome = [.error (.timeout .writing), .ok .done] ∧
      (c.outbound inTurn).flushes = 1 ∧
      (c.inbound inTurn).turns.map Turn.outcome =
        [.error (.timeout .reading), .ok (.found [⟨[65], none⟩])] ∧
      (c.inbound inTurn).ahead = [0, 0, 0, 0] := by
  intro late c batch inTurn
  have hbatch : Interleaving [.send "a" .first none, .send "b" .first none]
      [.receive .first none, .receive .first none] batch :=
    .send _ _ _ (.send _ _ _ (.receive _ _ (.receive _ _ .nil)))
  have hinTurn : Interleaving [.send "a" .first none, .send "b" .first none]
      [.receive .first none, .receive .first none] inTurn :=
    .send _ _ _ (.receive _ _ (.send _ _ _ (.receive _ _ .nil)))
  have hholds : c.DeadlinesHold := List.forall_mem_nil _
  obtain ⟨hout, hin⟩ := interleavings_agree hholds hbatch hinTurn
  exact ⟨hout rfl, hin rfl, by decide +kernel, by decide +kernel, by decide +kernel,
    by decide +kernel⟩

end Client

end RemoteSearch
