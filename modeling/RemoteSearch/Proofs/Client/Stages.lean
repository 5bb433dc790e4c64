import RemoteSearch.Proofs.Client.Halves

set_option autoImplicit false

/-! # The stages of a search

A search sets the deadline for sending, sends its request, sets the deadline for receiving and
decodes the response. It ends at the first of these stages that fails, or else with whatever the
decoding gives. `Course` tells for each stage which calls a search makes that ends there, and its
outcome; `search_ends_at_stage` says that every search ends at one stage and no other.

A search that ends before the decoding has touched nothing of the response (`Untouched`). Later
receives find all as if it had not been tried, so that it is the caller's to say what comes next.
-/

namespace RemoteSearch

namespace Call

/-- What came of setting deadlines, one after the other. -/
def deadlineOutcomes (calls : List Call) : List (Option StreamError) :=
  calls.filterMap fun
    | .setDeadline _ _ failed => some failed
    | _ => none

theorem deadlineOutcomes_setDeadline (direction : Direction) (limit : Option Duration)
    (failed : Option StreamError) (calls : List Call) :
    deadlineOutcomes (.setDeadline direction limit failed :: calls) =
      failed :: deadlineOutcomes calls := rfl

theorem deadlineOutcomes_append (calls more : List Call) :
    deadlineOutcomes (calls ++ more) = deadlineOutcomes calls ++ deadlineOutcomes more :=
  List.filterMap_append

theorem deadlineOutcomes_of_isSending {calls : List Call}
    (h : ∀ call ∈ calls, call.isSending = true) : deadlineOutcomes calls = [] := by
  rw [deadlineOutcomes, List.filterMap_eq_nil_iff]
  intro call hmem
  have hsending := h call hmem
  cases call with
  | write | flush => rfl
  | read | setDeadline => cases hsending

theorem deadlineOutcomes_of_isRead {calls : List Call}
    (h : ∀ call ∈ calls, call.isRead = true) : deadlineOutcomes calls = [] := by
  rw [deadlineOutcomes, List.filterMap_eq_nil_iff]
  intro call hmem
  have hread := h call hmem
  cases call with
  | read => rfl
  | write | flush | setDeadline => cases hread

end Call

namespace Client

/-! ## Courses -/

/-- Where a search ends. -/
inductive Stage
  | preparing
  | sending
  | awaiting
  | decoding
deriving DecidableEq

/-- The stage at which a search ends, by what came of setting its deadlines. -/
def Stage.ofDeadlines : List (Option StreamError) → Stage
  | [some _] => .preparing
  | [none] => .sending
  | [none, some _] => .awaiting
  | _ => .decoding

/-- Calls by which the whole frame of a request was accepted and then flushed, once. -/
structure Delivered (order : Wire.Endian) (q : Request) (calls : List Call) : Prop where
  whole : q.frame order = .ok (Call.acceptedBytes calls)
  flushed : .flush none ∈ calls
  once : calls.countP Call.isFlush = 1
  sending : ∀ call ∈ calls, call.isSending = true

/-- What is sent by a request that succeeds. -/
theorem Delivered.of_conforms {order : Wire.Endian} {q : Request} {calls : List Call}
    (h : Request.Sent.Conforms order ⟨q, .ok (), calls⟩)
    (hcalls : ∀ call ∈ calls, call.isSending = true) : Delivered order q calls := by
  cases hframe : q.frame order with
  | error e =>
    simp only [Request.Sent.Conforms, hframe] at h
    cases h.1
  | ok bytes =>
    simp only [Request.Sent.Conforms, hframe] at h
    obtain ⟨hwhole, hflushed⟩ := h.ok_iff.1 rfl
    have honce := h.flushes
    rw [if_pos hwhole] at honce
    exact ⟨by rw [hframe, hwhole], hflushed, honce, hcalls⟩

/-- The connection of a client once the deadline for sending is set. -/
def readyToSend (c : Client) : Connection :=
  (c.connection.setDeadline .writing (Duration.limit? c.writeTimeout)).2

/-- The calls of a search that ends at a stage, and its outcome. -/
inductive Course (c : Client) (mode : Mode) (text : String) :
    Stage → List Call → Except Failure (List Occurrence) → Prop
  | preparing (e : StreamError) :
      Course c mode text .preparing
        [.setDeadline .writing (Duration.limit? c.writeTimeout) (some e)] (.error (.stream e))
  | sending {sends : List Call} {f : Failure}
      (failed : ((Request.ofText mode text).send c.dialect.order c.readyToSend).1 = .error f)
      (conforms : Request.Sent.Conforms c.dialect.order ⟨.ofText mode text, .error f, sends⟩)
      (only : ∀ call ∈ sends, call.isSending = true) :
      Course c mode text .sending
        (.setDeadline .writing (Duration.limit? c.writeTimeout) none :: sends) (.error f)
  | awaiting {sends : List Call} (e : StreamError)
      (delivered : Delivered c.dialect.order (.ofText mode text) sends) :
      Course c mode text .awaiting
        (.setDeadline .writing (Duration.limit? c.writeTimeout) none :: sends ++
          [.setDeadline .reading (Duration.limit? c.readTimeout) (some e)])
        (.error (.stream e))
  | decoding {sends reads : List Call}
      (delivered : Delivered c.dialect.order (.ofText mode text) sends)
      (only : ∀ call ∈ reads, call.isRead = true) :
      Course c mode text .decoding
        (.setDeadline .writing (Duration.limit? c.writeTimeout) none :: sends ++
          .setDeadline .reading (Duration.limit? c.readTimeout) none :: reads)
        (c.dialect.readOccurrences mode c.reader).1

/-- The calls alone tell at which stage a search ended. -/
theorem Course.stage_eq {c : Client} {mode : Mode} {text : String} {stage : Stage}
    {calls : List Call} {outcome : Except Failure (List Occurrence)}
    (h : Course c mode text stage calls outcome) :
    stage = .ofDeadlines (Call.deadlineOutcomes calls) := by
  cases h with
  | preparing e => rfl
  | sending failed conforms only =>
    rw [Call.deadlineOutcomes_setDeadline, Call.deadlineOutcomes_of_isSending only]
    rfl
  | awaiting e delivered =>
    rw [Call.deadlineOutcomes_append, Call.deadlineOutcomes_setDeadline,
      Call.deadlineOutcomes_of_isSending delivered.sending]
    rfl
  | decoding delivered only =>
    rw [Call.deadlineOutcomes_append, Call.deadlineOutcomes_setDeadline,
      Call.deadlineOutcomes_of_isSending delivered.sending, Call.deadlineOutcomes_setDeadline,
      Call.deadlineOutcomes_of_isRead only]
    rfl

/-! ## Deadlines that are not set -/

theorem receive_of_unset {c : Client} {e : StreamError}
    (h : c.connection.deadlines.head?.join = some e) (mode : Mode) (deadline : Option Duration) :
    c.receive mode deadline =
      (.error (.stream e),
        c.onConnection (c.connection.setDeadline .reading (Duration.limit? deadline)).2) := by
  have hset : c.connection.setDeadline .reading (Duration.limit? deadline) =
      (some e, (c.connection.setDeadline .reading (Duration.limit? deadline)).2) := Prod.ext h rfl
  unfold receive
  rw [hset]

theorem send_of_unset {c : Client} {e : StreamError}
    (h : c.connection.deadlines.head?.join = some e) (mode : Mode) (text : String)
    (deadline : Option Duration) :
    c.send mode text deadline =
      (.error (.stream e),
        c.onConnection (c.connection.setDeadline .writing (Duration.limit? deadline)).2) := by
  have hset : c.connection.setDeadline .writing (Duration.limit? deadline) =
      (some e, (c.connection.setDeadline .writing (Duration.limit? deadline)).2) := Prod.ext h rfl
  unfold send
  rw [hset]

theorem turn_receive_of_unset {c : Client} {e : StreamError}
    (h : c.connection.deadlines.head?.join = some e) (mode : Mode) (deadline : Option Duration) :
    c.turn (.receive mode deadline) =
      ⟨.receive mode deadline, .error (.stream e),
        [.setDeadline .reading (Duration.limit? deadline) (some e)]⟩ := by
  have hhistory : (c.receive mode deadline).2.connection.history =
      c.connection.history ++ [.setDeadline .reading (Duration.limit? deadline) (some e)] := by
    rw [receive_of_unset h, ← h]
    exact Connection.history_setDeadline .reading (Duration.limit? deadline) c.connection
  have hturn : c.turn (.receive mode deadline) = ⟨_, _, _⟩ := turn_of_history hhistory
  rw [hturn, step, receive_of_unset h]
  rfl

/-! ## Receiving later -/

/-- Clients that have the same still to read, and the same to come of setting deadlines. -/
structure SamePlace (c c' : Client) : Prop where
  dialect : c.dialect = c'.dialect
  reading : c.reader.readingSide = c'.reader.readingSide
  deadlines : c.connection.deadlines = c'.connection.deadlines

namespace SamePlace

variable {c c' : Client}

/-- A receive is the same turn for both, and they are at the same place again. -/
theorem receive (h : SamePlace c c') (mode : Mode) (deadline : Option Duration) :
    c.turn (.receive mode deadline) = c'.turn (.receive mode deadline) ∧
      SamePlace (c.receive mode deadline).2 (c'.receive mode deadline).2 := by
  have htail := congrArg List.tail h.deadlines
  rcases hc : c.connection.deadlines.head?.join with _ | e
  · have hc' : c'.connection.deadlines.head?.join = none := by rw [← h.deadlines, hc]
    rw [turn_receive hc, turn_receive hc', receive_of_set hc, receive_of_set hc', h.dialect,
      h.reading]
    exact ⟨rfl, rfl, rfl, htail⟩
  · have hc' : c'.connection.deadlines.head?.join = some e := by rw [← h.deadlines, hc]
    rw [turn_receive_of_unset hc, turn_receive_of_unset hc', receive_of_unset hc,
      receive_of_unset hc']
    exact ⟨rfl, h.dialect, h.reading, htail⟩

/-- And so are any number of receives. -/
theorem run (h : SamePlace c c') (receives : List (Mode × Option Duration)) :
    c.turns (receives.map fun r => .receive r.1 r.2) =
        c'.turns (receives.map fun r => .receive r.1 r.2) ∧
      SamePlace (c.run (receives.map fun r => .receive r.1 r.2)).2
        (c'.run (receives.map fun r => .receive r.1 r.2)).2 := by
  induction receives generalizing c c' with
  | nil => exact ⟨rfl, h⟩
  | cons r receives ih =>
    obtain ⟨hturn, hafter⟩ := h.receive r.1 r.2
    obtain ⟨hturns, hrun⟩ := ih hafter
    refine ⟨?_, hrun⟩
    rw [List.map_cons, turns, turns, hturn]
    exact congrArg (_ :: ·) hturns

end SamePlace

/-- The client with other outcomes in store for its deadlines. -/
def facing (outcomes : List (Option StreamError)) (c : Client) : Client :=
  c.onConnection { c.connection with deadlines := outcomes }

/-- How a client stands of whose response nothing was touched: what is still to be read is as it was
before, and so is each later receive with the calls it makes, if the same comes of its deadlines. -/
structure Untouched (before after : Client) : Prop where
  ahead : after.reader.ahead = before.reader.ahead
  arrivals : after.connection.arrivals = before.connection.arrivals
  later : ∀ (outcomes : List (Option StreamError)) (receives : List (Mode × Option Duration)),
    let steps := receives.map fun r => Step.receive r.1 r.2
    (after.facing outcomes).turns steps = (before.facing outcomes).turns steps ∧
      ((after.facing outcomes).run steps).2.reader.readingSide =
        ((before.facing outcomes).run steps).2.reader.readingSide

theorem Untouched.of_reading {before after : Client} (hdialect : after.dialect = before.dialect)
    (hreading : after.reader.readingSide = before.reader.readingSide) :
    Untouched before after where
  ahead := (congrArg Reader.ahead hreading :)
  arrivals := (congrArg (·.connection.arrivals) hreading :)
  later outcomes receives := by
    have hplace : SamePlace (after.facing outcomes) (before.facing outcomes) :=
      ⟨hdialect, hreading, rfl⟩
    obtain ⟨hturns, hrun⟩ := hplace.run receives
    exact ⟨hturns, hrun.reading⟩

/-! ## Every search -/

/-- Clients that were set up in the same way. -/
structure SameSettings (c c' : Client) : Prop where
  dialect : c.dialect = c'.dialect
  mode : c.mode = c'.mode
  readTimeout : c.readTimeout = c'.readTimeout
  writeTimeout : c.writeTimeout = c'.writeTimeout

/-- A search that has ended at a stage, with its outcome and the client after it. -/
structure EndsAt (c : Client) (mode : Mode) (text : String) (stage : Stage)
    (outcome : Except Failure (List Occurrence)) (after : Client) : Prop where
  /-- The calls and the outcome are those of the stage. -/
  course : ∃ calls, after.connection.history = c.connection.history ++ calls ∧
    Course c mode text stage calls outcome
  /-- Before the decoding, nothing of the response is touched. -/
  untouched : stage ≠ .decoding → Untouched c after
  /-- The decoding leaves the stream as if nothing had been sent before. -/
  decoded : stage = .decoding →
    after.reader.ahead = (c.dialect.readOccurrences mode c.reader).2.ahead ∧
      after.connection.arrivals = (c.dialect.readOccurrences mode c.reader).2.connection.arrivals
  settings : SameSettings after c

section

variable {c c' : Client} {mode : Mode} {text : String}

theorem EndsAt.unique {stage other : Stage} {outcome : Except Failure (List Occurrence)}
    (h : EndsAt c mode text stage outcome c') (k : EndsAt c mode text other outcome c') :
    other = stage := by
  obtain ⟨calls, hhistory, hcourse⟩ := h.course
  obtain ⟨calls', hhistory', hcourse'⟩ := k.course
  have hcalls : calls = calls' := List.append_cancel_left (hhistory.symm.trans hhistory')
  rw [hcourse.stage_eq, hcourse'.stage_eq, hcalls]

theorem SameSettings.onConnection (connection : Connection) :
    SameSettings (c.onConnection connection) c := ⟨rfl, rfl, rfl, rfl⟩

/-- Nothing of the response is touched by what leaves the reading side as it was. -/
theorem Untouched.onConnection {connection : Connection}
    (h : connection.readingSide = c.connection.readingSide) :
    Untouched c (c.onConnection connection) :=
  .of_reading rfl (congrArg (fun side => { c.reader with connection := side }) h)

theorem search_of_send_error {f : Failure}
    (h : c.send mode text c.writeTimeout = (.error f, c')) :
    c.search mode text = (.error f, c') := by
  unfold search
  rw [h]

theorem search_of_send_ok (h : c.send mode text c.writeTimeout = (.ok (), c')) :
    c.search mode text = c'.receive mode c'.readTimeout := by
  unfold search
  rw [h]

/-- The request of a search, as it is sent on the sending side. -/
def requested (mode : Mode) (text : String) (c : Client) : Except Failure Unit × Connection :=
  (Request.ofText mode text).send c.dialect.order c.connection.sendingSide

/-- The client after that. -/
def afterRequest (mode : Mode) (text : String) (c : Client) : Client :=
  c.onConnection ((c.requested mode text).2.withSending c.readyToSend)

/-- The request goes to the connection whose deadline was set. -/
theorem requested_eq :
    ((Request.ofText mode text).send c.dialect.order c.readyToSend).1 =
      (c.requested mode text).1 := by
  rw [Request.send_eq]
  rfl

theorem send_eq_requested (h : c.connection.deadlines.head?.join = none) (mode : Mode)
    (text : String) :
    c.send mode text c.writeTimeout = ((c.requested mode text).1, c.afterRequest mode text) :=
  send_of_set h mode text c.writeTimeout

theorem history_afterRequest (h : c.connection.deadlines.head?.join = none) :
    (c.afterRequest mode text).connection.history =
      c.connection.history ++ .setDeadline .writing (Duration.limit? c.writeTimeout) none ::
        (c.requested mode text).2.history := by
  have hhistory := history_send h mode text c.writeTimeout
  rw [send_eq_requested h mode text] at hhistory
  exact hhistory

theorem isSending_requested : ∀ call ∈ (c.requested mode text).2.history, call.isSending = true :=
  Request.isSending_history c.dialect.order (.ofText mode text) c.connection

theorem conforms_requested (c : Client) (mode : Mode) (text : String) :
    Request.Sent.Conforms c.dialect.order
      ⟨.ofText mode text, (c.requested mode text).1, (c.requested mode text).2.history⟩ :=
  Request.conforms_history c.dialect.order (.ofText mode text) c.connection

theorem delivered_requested (hok : (c.requested mode text).1 = .ok ()) :
    Delivered c.dialect.order (.ofText mode text) (c.requested mode text).2.history := by
  have hconforms := c.conforms_requested mode text
  rw [hok] at hconforms
  exact .of_conforms hconforms isSending_requested

namespace EndsAt

theorem preparing {e : StreamError} (h : c.connection.deadlines.head?.join = some e) :
    EndsAt c mode text .preparing (c.search mode text).1 (c.search mode text).2 := by
  rw [search_of_send_error (send_of_unset h mode text c.writeTimeout)]
  show EndsAt c mode text .preparing (.error (.stream e)) (c.onConnection c.readyToSend)
  have hhistory := Connection.history_setDeadline .writing (Duration.limit? c.writeTimeout)
    c.connection
  rw [h] at hhistory
  exact ⟨⟨_, hhistory, .preparing e⟩, fun _ => .onConnection rfl, nofun, .onConnection _⟩

theorem sending (h : c.connection.deadlines.head?.join = none) {f : Failure}
    (hf : (c.requested mode text).1 = .error f) :
    EndsAt c mode text .sending (c.search mode text).1 (c.search mode text).2 := by
  have hsend := send_eq_requested h mode text
  rw [hf] at hsend
  rw [search_of_send_error hsend]
  show EndsAt c mode text .sending (.error f) (c.afterRequest mode text)
  have hconforms := c.conforms_requested mode text
  rw [hf] at hconforms
  have hcourse := Course.sending (requested_eq.trans hf) hconforms isSending_requested
  exact ⟨⟨_, history_afterRequest h, hcourse⟩, fun _ => .onConnection rfl, nofun, .onConnection _⟩

theorem awaiting (h : c.connection.deadlines.head?.join = none)
    (hok : (c.requested mode text).1 = .ok ()) {e : StreamError}
    (hunset : (c.afterRequest mode text).connection.deadlines.head?.join = some e) :
    EndsAt c mode text .awaiting (c.search mode text).1 (c.search mode text).2 := by
  have hsend := send_eq_requested h mode text
  rw [hok] at hsend
  rw [search_of_send_ok hsend, receive_of_unset hunset]
  show EndsAt c mode text .awaiting (.error (.stream e)) (c.onConnection
    ((c.afterRequest mode text).connection.setDeadline .reading (Duration.limit? c.readTimeout)).2)
  have hhistory := Connection.history_setDeadline .reading (Duration.limit? c.readTimeout)
    (c.afterRequest mode text).connection
  rw [hunset, history_afterRequest h, List.append_assoc] at hhistory
  have hcourse := Course.awaiting e (delivered_requested hok)
  exact ⟨⟨_, hhistory, hcourse⟩, fun _ => .onConnection rfl, nofun, .onConnection _⟩

theorem decoding (h : c.connection.deadlines.head?.join = none)
    (hok : (c.requested mode text).1 = .ok ())
    (hset : (c.afterRequest mode text).connection.deadlines.head?.join = none) :
    EndsAt c mode text .decoding (c.search mode text).1 (c.search mode text).2 := by
  have hsend := send_eq_requested h mode text
  rw [hok] at hsend
  have hdecoded := c.dialect.readOccurrences_eq mode c.reader
  -- Nothing that was sent shows on the reading side.
  have hreading : (c.afterRequest mode text).reader.readingSide = c.reader.readingSide := rfl
  have hreceived := receive_of_set hset mode c.readTimeout
  have hhistory := history_receive hset mode c.readTimeout
  rw [hreading] at hreceived hhistory
  rw [history_afterRequest h, List.append_assoc] at hhistory
  rw [search_of_send_ok hsend]
  have houtcome : ((c.afterRequest mode text).receive mode c.readTimeout).1 =
      (c.dialect.readOccurrences mode c.reader).1 := by
    rw [hreceived, hdecoded]
    rfl
  have hcourse : Course c mode text .decoding _ (c.dialect.readOccurrences mode c.reader).1 :=
    .decoding (delivered_requested hok) (c.dialect.isRead_history mode c.reader)
  rw [← houtcome] at hcourse
  refine ⟨⟨_, hhistory, hcourse⟩, fun hne => absurd rfl hne, fun _ => ?_, ?_⟩
  · show ((c.afterRequest mode text).receive mode c.readTimeout).2.reader.ahead = _ ∧
      ((c.afterRequest mode text).receive mode c.readTimeout).2.connection.arrivals = _
    rw [hreceived, hdecoded]
    exact ⟨rfl, rfl⟩
  · show SameSettings ((c.afterRequest mode text).receive mode c.readTimeout).2 c
    rw [hreceived]
    exact ⟨rfl, rfl, rfl, rfl⟩

end EndsAt

/-- Every search ends at one of its stages, with the calls, the outcome and the client that this
stage leaves. A query is a search in the client's own mode. -/
theorem search_ends_at_stage (c : Client) (mode : Mode) (text : String) :
    (∃ stage, EndsAt c mode text stage (c.search mode text).1 (c.search mode text).2 ∧
      ∀ other, EndsAt c mode text other (c.search mode text).1 (c.search mode text).2 →
        other = stage) ∧
      c.query text = c.search c.mode text := by
  refine ⟨?_, rfl⟩
  have key : ∃ stage, EndsAt c mode text stage (c.search mode text).1 (c.search mode text).2 := by
    rcases h : c.connection.deadlines.head?.join with _ | e
    · rcases hrequested : (c.requested mode text).1 with f | _
      · exact ⟨_, .sending h hrequested⟩
      · rcases hset : (c.afterRequest mode text).connection.deadlines.head?.join with _ | e
        · exact ⟨_, .decoding h hrequested hset⟩
        · exact ⟨_, .awaiting h hrequested hset⟩
    · exact ⟨_, .preparing h⟩
  obtain ⟨stage, hends⟩ := key
  exact ⟨stage, hends, fun _ hother => hends.unique hother⟩

end

/-- The same failure is a timeout where bytes are sent or read, and not where a deadline is set. -/
example :
    let late : StreamError := ⟨.wouldBlock, "late"⟩
    let connections : List Connection :=
      [{ deadlines := [some late] }, { replies := [.failure late] },
        { deadlines := [none, some late] }, { arrivals := [.failure late] }]
    connections.map (fun c => ((ofConnection ⟨.big, 16⟩ c).search .first "a").1) =
      [.error (.stream late), .error (.timeout .writing), .error (.stream late),
        .error (.timeout .reading)] := by
  decide +kernel

end Client

end RemoteSearch
