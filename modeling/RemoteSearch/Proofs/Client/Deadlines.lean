import RemoteSearch.Proofs.Client.Stages

set_option autoImplicit false

/-! # Deadlines

A deadline, once set, is in force on its connection until another one is set for the same direction.
So a client that once forgot to set or to remove one would wait for as long as some earlier step
wanted. What a step sets is listed by `Step.limits`, in which a search counts with the timeouts that
were last given to the client (`lastGiven`).

The calls of a step are `Limited` by that list: they set exactly these deadlines, and each read,
write or flush among them comes after one of its own direction that was set in the same step and
took effect. Sending and receiving are so (`limited_send`, `limited_receive`), and therefore all
that is made of them. Whatever was done before, then, no deadline of an earlier step is in force
when bytes are moved (`calls_under_own_deadline`).
-/

namespace RemoteSearch

namespace Duration

/-- A deadline as it is meant, where zero stands for none. -/
def proper : Option Duration → Option Duration
  | some ⟨0⟩ => none
  | d => d

theorem limit?_eq_proper (d : Option Duration) : limit? d = proper d := by
  rcases d with _ | ⟨_ | n⟩
  · rfl
  · rfl
  · exact Option.filter_some_pos (decide_eq_true (Nat.succ_pos n))

theorem proper_ne_zero (d : Option Duration) : proper d ≠ some ⟨0⟩ := by
  rw [← limit?_eq_proper]
  exact limit?_ne_zero d

end Duration

namespace Call

/-- What was set, of a call that sets a deadline in a direction: the limit and what came of it. -/
def deadlineIn? (direction : Direction) : Call → Option (Option Duration × Option StreamError)
  | setDeadline way limit failed => if way = direction then some (limit, failed) else none
  | _ => none

/-- The last deadline that calls set in a direction, which is the one in force after them unless it
failed. -/
def lastDeadline (direction : Direction) (calls : List Call) :
    Option (Option Duration × Option StreamError) :=
  (calls.filterMap (deadlineIn? direction)).getLast?

theorem lastDeadline_append (direction : Direction) (calls more : List Call) :
    lastDeadline direction (calls ++ more) =
      (lastDeadline direction more).or (lastDeadline direction calls) := by
  rw [lastDeadline, List.filterMap_append, List.getLast?_append]
  rfl

/-- A deadline stays the last one as long as none is set. -/
theorem lastDeadline_of_set (direction : Direction) (limit : Option Duration)
    (failed : Option StreamError) {calls : List Call} (h : ∀ call ∈ calls, call.deadline? = none) :
    lastDeadline direction (.setDeadline direction limit failed :: calls) =
      some (limit, failed) := by
  have hnone : calls.filterMap (deadlineIn? direction) = [] := by
    rw [List.filterMap_eq_nil_iff]
    intro call hmem
    have hcall := h call hmem
    cases call with
    | read | write | flush => rfl
    | setDeadline => cases hcall
  have hset : (setDeadline direction limit failed).deadlineIn? direction = some (limit, failed) :=
    if_pos rfl
  rw [lastDeadline, List.filterMap_cons_some hset, hnone]
  rfl

end Call

namespace Client

/-! ## Calls within limits -/

/-- Calls that set exactly the given deadlines, and of which every other call is made under one of
them: the last one in its direction, which took effect. -/
structure Limited (limits : List (Direction × Option Duration)) (calls : List Call) : Prop where
  deadlines : calls.filterMap Call.deadline? = limits
  own : ∀ earlier call later, calls = earlier ++ call :: later → call.deadline? = none →
    ∃ limit, (call.direction, limit) ∈ limits ∧
      Call.lastDeadline call.direction earlier = some (limit, none)

namespace Limited

theorem nil : Limited [] [] :=
  ⟨rfl, fun earlier _ _ h => absurd h.symm (List.append_ne_nil_of_right_ne_nil earlier nofun)⟩

/-- A deadline that fails, with nothing after it. -/
theorem unset (direction : Direction) (limit : Option Duration) (e : StreamError) :
    Limited [(direction, limit)] [.setDeadline direction limit (some e)] where
  deadlines := rfl
  own earlier call later h hcall := by
    rcases List.cons_eq_append_iff.1 h with ⟨-, hfirst⟩ | ⟨rest, -, hrest⟩
    · cases hfirst
      cases hcall
    · exact absurd hrest.symm (List.append_ne_nil_of_right_ne_nil rest nofun)

/-- A deadline that takes effect, and then calls in its direction. -/
theorem set (direction : Direction) (limit : Option Duration) {calls : List Call}
    (h : ∀ call ∈ calls, call.direction = direction ∧ call.deadline? = none) :
    Limited [(direction, limit)] (.setDeadline direction limit none :: calls) where
  deadlines := by
    have hnone : calls.filterMap Call.deadline? = [] :=
      List.filterMap_eq_nil_iff.2 fun call hmem => (h call hmem).2
    show (direction, limit) :: calls.filterMap Call.deadline? = [(direction, limit)]
    rw [hnone]
  own earlier call later hcalls hcall := by
    rcases List.cons_eq_append_iff.1 hcalls with ⟨-, hfirst⟩ | ⟨rest, rfl, rfl⟩
    · cases hfirst
      cases hcall
    · -- The deadline comes first, and those between it and the call set none.
      have hmem : call ∈ rest ++ call :: later := List.mem_append_right rest (List.mem_cons_self ..)
      have hdirection := (h call hmem).1
      rw [hdirection]
      refine ⟨limit, List.mem_singleton_self _, Call.lastDeadline_of_set direction limit none ?_⟩
      intro call' hmem'
      exact (h call' (List.mem_append_left _ hmem')).2

/-- Calls after other ones keep within their own limits. -/
theorem append {limits more : List (Direction × Option Duration)} {calls next : List Call}
    (h : Limited limits calls) (k : Limited more next) :
    Limited (limits ++ more) (calls ++ next) where
  deadlines := by rw [List.filterMap_append, h.deadlines, k.deadlines]
  own earlier call later hcalls hcall := by
    rcases List.append_eq_append_iff.1 hcalls with ⟨rest, rfl, hnext⟩ | ⟨rest, hcalls', hrest⟩
    · obtain ⟨limit, hmem, hlast⟩ := k.own rest call later hnext hcall
      refine ⟨limit, List.mem_append_right limits hmem, ?_⟩
      rw [Call.lastDeadline_append, hlast]
      rfl
    · rcases List.cons_eq_append_iff.1 hrest with ⟨rfl, hnext⟩ | ⟨rest', rfl, -⟩
      · -- The call is the first one of those that come after.
        rw [List.append_nil] at hcalls'
        obtain ⟨limit, -, hlast⟩ := k.own [] call later hnext hcall
        cases hlast
      · obtain ⟨limit, hmem, hlast⟩ := h.own earlier call rest' hcalls' hcall
        exact ⟨limit, List.mem_append_left more hmem, hlast⟩

end Limited

/-! ## Halves of a search -/

variable (c : Client)

theorem limited_send (mode : Mode) (text : String) (deadline : Option Duration) :
    ∃ calls, (c.send mode text deadline).2.connection.history = c.connection.history ++ calls ∧
      Limited [(.writing, Duration.proper deadline)] calls := by
  rw [← Duration.limit?_eq_proper]
  rcases h : c.connection.deadlines.head?.join with _ | e
  · refine ⟨_, history_send h mode text deadline, .set _ _ fun call hmem => ?_⟩
    have hsending := Request.isSending_history _ _ _ call hmem
    cases call with
    | write | flush => exact ⟨rfl, rfl⟩
    | read | setDeadline => cases hsending
  · have hhistory :=
      Connection.history_setDeadline .writing (Duration.limit? deadline) c.connection
    rw [h] at hhistory
    rw [send_of_unset h]
    exact ⟨_, hhistory, .unset _ _ e⟩

theorem limited_receive (mode : Mode) (deadline : Option Duration) :
    ∃ calls, (c.receive mode deadline).2.connection.history = c.connection.history ++ calls ∧
      Limited [(.reading, Duration.proper deadline)] calls := by
  rw [← Duration.limit?_eq_proper]
  rcases h : c.connection.deadlines.head?.join with _ | e
  · refine ⟨_, history_receive h mode deadline, .set _ _ fun call hmem => ?_⟩
    have hread := Dialect.isRead_history _ _ _ call hmem
    cases call with
    | read => exact ⟨rfl, rfl⟩
    | write | flush | setDeadline => cases hread
  · have hhistory :=
      Connection.history_setDeadline .reading (Duration.limit? deadline) c.connection
    rw [h] at hhistory
    rw [receive_of_unset h]
    exact ⟨_, hhistory, .unset _ _ e⟩

/-! ## Timeouts and the limits of a step -/

/-- How long a client waits in its searches. -/
structure Timeouts where
  reading : Option Duration
  writing : Option Duration

/-- The timeouts of a client. -/
def timeouts : Timeouts := ⟨c.readTimeout, c.writeTimeout⟩

variable (mode : Mode) (text : String) (deadline : Option Duration)

theorem timeouts_send : (c.send mode text deadline).2.timeouts = c.timeouts := by
  rcases h : c.connection.deadlines.head?.join with _ | e
  · rw [send_of_set h]
    rfl
  · rw [send_of_unset h]
    rfl

theorem timeouts_receive : (c.receive mode deadline).2.timeouts = c.timeouts := by
  rcases h : c.connection.deadlines.head?.join with _ | e
  · rw [receive_of_set h]
    rfl
  · rw [receive_of_unset h]
    rfl

theorem timeouts_search : (c.search mode text).2.timeouts = c.timeouts := by
  have hsent := c.timeouts_send mode text c.writeTimeout
  rcases hsend : c.send mode text c.writeTimeout with ⟨e | _, c'⟩
  · rw [hsend] at hsent
    rw [search_of_send_error hsend]
    exact hsent
  · rw [hsend] at hsent
    rw [search_of_send_ok hsend, timeouts_receive]
    exact hsent

/-- The timeouts that a step gives to the client. A new client has none. -/
def Step.timeouts? : Step → Option Timeouts
  | .withTimeouts readTimeout writeTimeout => some ⟨readTimeout, writeTimeout⟩
  | .renew => some ⟨none, none⟩
  | _ => none

/-- The timeouts that were given last, if any were since the first ones. -/
def lastGiven (first : Timeouts) (steps : List Step) : Timeouts :=
  (steps.filterMap Step.timeouts?).getLast?.getD first

/-- What a search limits, by what came of its sending: it has to wait for a response only if its
request was sent. -/
def Timeouts.limits (t : Timeouts) : Except Failure Unit → List (Direction × Option Duration)
  | .error _ => [(.writing, Duration.proper t.writing)]
  | .ok () => [(.writing, Duration.proper t.writing), (.reading, Duration.proper t.reading)]

/-- The deadlines to be set by a step of a client, with these timeouts for its searches. -/
def Step.limits (t : Timeouts) (c : Client) : Step → List (Direction × Option Duration)
  | .send _ _ deadline => [(.writing, Duration.proper deadline)]
  | .receive _ deadline => [(.reading, Duration.proper deadline)]
  | .search text mode => t.limits (c.send mode text t.writing).1
  | .query text => t.limits (c.send c.mode text t.writing).1
  | .renew | .withMode _ | .withTimeouts _ _ => []

theorem Timeouts.limits_ne_zero (t : Timeouts) (sent : Except Failure Unit) :
    ∀ x ∈ t.limits sent, x.2 ≠ some ⟨0⟩ := by
  cases sent with
  | error => exact List.forall_mem_singleton.2 (Duration.proper_ne_zero _)
  | ok =>
    exact List.forall_mem_cons.2
      ⟨Duration.proper_ne_zero _, List.forall_mem_singleton.2 (Duration.proper_ne_zero _)⟩

theorem Step.limits_ne_zero (t : Timeouts) (s : Step) : ∀ x ∈ s.limits t c, x.2 ≠ some ⟨0⟩ := by
  cases s with
  | send | receive => exact List.forall_mem_singleton.2 (Duration.proper_ne_zero _)
  | search | query => exact t.limits_ne_zero _
  | renew | withMode | withTimeouts => exact List.forall_mem_nil _

theorem limited_search :
    ∃ calls, (c.search mode text).2.connection.history = c.connection.history ++ calls ∧
      Limited (c.timeouts.limits (c.send mode text c.writeTimeout).1) calls := by
  obtain ⟨sends, hsent, hsends⟩ := c.limited_send mode text c.writeTimeout
  have hkept := c.timeouts_send mode text c.writeTimeout
  rcases hsend : c.send mode text c.writeTimeout with ⟨e | _, c'⟩
  · rw [hsend] at hsent
    rw [search_of_send_error hsend]
    exact ⟨sends, hsent, hsends⟩
  · rw [hsend] at hsent hkept
    obtain ⟨receives, hreceived, hreceives⟩ := c'.limited_receive mode c'.readTimeout
    have htimeout : c'.readTimeout = c.readTimeout := congrArg Timeouts.reading hkept
    rw [search_of_send_ok hsend]
    refine ⟨sends ++ receives, ?_, ?_⟩
    · rw [hreceived, hsent, List.append_assoc]
    · rw [htimeout] at hreceives
      exact hsends.append hreceives

/-- Every step keeps within its limits, whatever comes of it. -/
theorem limited_step (s : Step) :
    ∃ calls, (c.step s).2.connection.history = c.connection.history ++ calls ∧
      Limited (s.limits c.timeouts c) calls := by
  cases s with
  | send text mode deadline => exact c.limited_send mode text deadline
  | receive mode deadline => exact c.limited_receive mode deadline
  | search text mode => exact c.limited_search mode text
  | query text => exact c.limited_search c.mode text
  | renew | withMode | withTimeouts => exact ⟨[], (List.append_nil _).symm, .nil⟩

theorem limited_turn (s : Step) :
    (c.step s).2.connection.history = c.connection.history ++ (c.turn s).calls ∧
      Limited (s.limits c.timeouts c) (c.turn s).calls := by
  obtain ⟨calls, hhistory, hlimited⟩ := c.limited_step s
  rw [turn_of_history hhistory]
  exact ⟨hhistory, hlimited⟩

/-! ## Runs -/

/-- What a client does stands in the record, turn after turn. -/
theorem history_run (steps : List Step) :
    (c.run steps).2.connection.history =
      c.connection.history ++ (c.turns steps).flatMap Turn.calls := by
  induction steps generalizing c with
  | nil => exact (List.append_nil _).symm
  | cons s steps ih =>
    show ((c.step s).2.run steps).2.connection.history = _
    rw [ih, (c.limited_turn s).1, turns, List.flatMap_cons, List.append_assoc]

theorem turns_append (steps more : List Step) :
    c.turns (steps ++ more) = c.turns steps ++ (c.run steps).2.turns more := by
  induction steps generalizing c with
  | nil => rfl
  | cons s steps ih =>
    show c.turn s :: (c.step s).2.turns (steps ++ more) = _
    rw [ih]
    rfl

/-- A step gives the client its timeouts, or leaves them as they are. -/
theorem timeouts_step (s : Step) :
    (c.step s).2.timeouts = s.timeouts?.getD c.timeouts := by
  cases s with
  | send text mode deadline => exact c.timeouts_send mode text deadline
  | receive mode deadline => exact c.timeouts_receive mode deadline
  | search text mode => exact c.timeouts_search mode text
  | query text => exact c.timeouts_search c.mode text
  | renew | withMode | withTimeouts => rfl

theorem timeouts_run (steps : List Step) :
    (c.run steps).2.timeouts = lastGiven c.timeouts steps := by
  induction steps generalizing c with
  | nil => rfl
  | cons s steps ih =>
    show ((c.step s).2.run steps).2.timeouts = _
    rw [ih, timeouts_step, lastGiven, lastGiven]
    cases hs : s.timeouts? with
    | none => rw [List.filterMap_cons_none hs]; rfl
    | some t => rw [List.filterMap_cons_some hs, List.getLast?_cons]; rfl

/-- Whatever a client has done before, a step sets its own deadlines and no others, of which none is
zero. Each call by which it reads or writes is made under one of them: in the direction of the call,
it was the last deadline to be set on the connection, it was set in this step, and it took effect.
-/
theorem calls_under_own_deadline (past : List Step) (s : Step) (later : List Step) :
    let before := (c.run past).2
    let limits := s.limits (lastGiven c.timeouts past) before
    c.turns (past ++ s :: later) =
        c.turns past ++ before.turn s :: (before.step s).2.turns later ∧
      before.connection.history = c.connection.history ++ (c.turns past).flatMap Turn.calls ∧
      (before.turn s).calls.filterMap Call.deadline? = limits ∧
      (∀ x ∈ limits, x.2 ≠ some ⟨0⟩) ∧
      ∀ earlier call after, (before.turn s).calls = earlier ++ call :: after →
        call.deadline? = none →
        ∃ limit, (call.direction, limit) ∈ limits ∧
          Call.lastDeadline call.direction earlier = some (limit, none) ∧
          Call.lastDeadline call.direction (before.connection.history ++ earlier) =
            some (limit, none) := by
  intro before limits
  have hlimited := (before.limited_turn s).2
  rw [show before.timeouts = lastGiven c.timeouts past from c.timeouts_run past] at hlimited
  refine ⟨c.turns_append past (s :: later), c.history_run past, hlimited.deadlines,
    s.limits_ne_zero before _, ?_⟩
  intro earlier call after hcalls hcall
  obtain ⟨limit, hmem, hlast⟩ := hlimited.own earlier call after hcalls hcall
  refine ⟨limit, hmem, hlast, ?_⟩
  rw [Call.lastDeadline_append, hlast]
  rfl

/-- A deadline of zero is none, and a receive without one removes that of the receive before. -/
example :
    let c := ofConnection ⟨.big, 16⟩ { arrivals := [.data [0, 0, 0, 0, 255, 255, 255, 255]] }
    ((c.turns [.receive .first (some ⟨5⟩), .receive .first (some ⟨0⟩), .renew, .query ""]).map
        fun t => t.calls.filterMap Call.deadline?) =
      [[(.reading, some ⟨5⟩)], [(.reading, none)], [], [(.writing, none), (.reading, none)]] := by
  decide +kernel

end Client

end RemoteSearch
