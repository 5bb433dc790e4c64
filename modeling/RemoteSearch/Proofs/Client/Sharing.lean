import Mathlib.Data.List.Nodup
import RemoteSearch.Client.Shared

set_option autoImplicit false

/-! # A shared client is one client

Whatever is done by the handles of a shared client, in whatever order, is told by its events: each
is something done by a handle, with the answer to it. Which handles are there can be seen from the
events alone (`Live`), and `Answered` says what the answer to the next one is to be. Only searches
and queries bear on the client; so it is at any time the client that made just these, one after the
other (`run_single`), and all answers are as they are to be (`sharing_is_serial`).

The invariant that carries this is `Tracked`: the handles of the state are those that are live, and
there are as many as there are owners, so that a sole owner is a sole handle (`Tracked.sole_iff`).
-/

namespace RemoteSearch.Client.Shared

/-! ## What an action does -/

/-- The ways in which something is done by the handle of a number: the answer, and what is shared
afterwards. -/
inductive Acts (s : Shared) (number : Nat) : Action → Answer → Shared → Prop
  | share (live : number ∈ s.handles) :
      Acts s number .share (.handle s.issued)
        { s with
          handles := s.issued :: s.handles
          owners := s.owners + 1
          issued := s.issued + 1 }
  | search (live : number ∈ s.handles) (text : String) (mode : Mode) :
      Acts s number (.search text mode) (.searched (s.client.search mode text).1)
        { s with client := (s.client.search mode text).2 }
  | query (live : number ∈ s.handles) (text : String) :
      Acts s number (.query text) (.searched (s.client.query text).1)
        { s with client := (s.client.query text).2 }
  | release (live : number ∈ s.handles) : Acts s number .release .released (s.without number)
  | reclaim (live : number ∈ s.handles) (sole : s.owners = 1) :
      Acts s number .reclaim (.reclaimed s.client) (s.without number)
  | refuse (live : number ∈ s.handles) (shared : s.owners ≠ 1) :
      Acts s number .reclaim .stillShared s
  | dead (gone : number ∉ s.handles) (action : Action) : Acts s number action .noHandle s

theorem acts_act (number : Nat) (action : Action) (s : Shared) :
    Acts s number action (s.act number action).1 (s.act number action).2 := by
  unfold act
  by_cases hlive : number ∈ s.handles
  · rw [if_pos hlive]
    cases action with
    | share => exact .share hlive
    | search text mode => exact .search hlive text mode
    | query text => exact .query hlive text
    | release => exact .release hlive
    | reclaim =>
      by_cases hsole : s.owners = 1
      · simp only [if_pos hsole]
        exact .reclaim hlive hsole
      · simp only [if_neg hsole]
        exact .refuse hlive hsole
  · rw [if_neg hlive]
    exact .dead hlive action

/-! ## Events -/

/-- Something that was done by a handle, and the answer to it. -/
structure Event where
  number : Nat
  action : Action
  answer : Answer

/-- All that happens when things are done one after the other. -/
def events : List (Nat × Action) → Shared → List Event
  | [], _ => []
  | (number, action) :: rest, s =>
    ⟨number, action, (s.act number action).1⟩ :: (s.act number action).2.events rest

theorem actions_events (actions : List (Nat × Action)) (s : Shared) :
    (s.events actions).map (fun e => (e.number, e.action)) = actions := by
  induction actions generalizing s with
  | nil => rfl
  | cons x rest ih => exact congrArg (x :: ·) (ih _)

theorem answers_events (actions : List (Nat × Action)) (s : Shared) :
    (s.events actions).map Event.answer = (s.run actions).1 := by
  induction actions generalizing s with
  | nil => rfl
  | cons x rest ih => exact congrArg (_ :: ·) (ih _)

namespace Event

/-- The step of the client that an event is, if it is one. -/
def step? (e : Event) : Option Step :=
  match e.action, e.answer with
  | .search text mode, .searched _ => some (.search text mode)
  | .query text, .searched _ => some (.query text)
  | _, _ => none

/-- What comes of a search or a query. -/
def outcome? (e : Event) : Option (Except Failure Outcome) :=
  match e.answer with
  | .searched outcome => some (outcome.map .found)
  | _ => none

/-- True of the event by which a handle comes to its end. -/
def GivesUp (n : Nat) (e : Event) : Prop :=
  e.number = n ∧ (e.answer = .released ∨ ∃ client, e.answer = .reclaimed client)

end Event

/-! ## The client alone -/

/-- A search or a query is a step of the client, with the same outcome, and anything else does
nothing to it. -/
theorem Acts.single {s s' : Shared} {number : Nat} {action : Action} {answer : Answer}
    (h : Acts s number action answer s') (later : List Event) :
    let e : Event := ⟨number, action, answer⟩
    (s.client.run ((e :: later).filterMap Event.step?)).1 =
        e.outcome?.toList ++ (s'.client.run (later.filterMap Event.step?)).1 ∧
      (s.client.run ((e :: later).filterMap Event.step?)).2 =
        (s'.client.run (later.filterMap Event.step?)).2 := by
  cases h with
  | search | query | share | release | reclaim | refuse => exact ⟨rfl, rfl⟩
  | dead _ action => cases action <;> exact ⟨rfl, rfl⟩

/-- Of all that is done to a shared client, what shows is what its searches and queries do. -/
theorem run_single (actions : List (Nat × Action)) (s : Shared) :
    (s.events actions).filterMap Event.outcome? =
        (s.client.run ((s.events actions).filterMap Event.step?)).1 ∧
      (s.run actions).2.client =
        (s.client.run ((s.events actions).filterMap Event.step?)).2 := by
  induction actions generalizing s with
  | nil => exact ⟨rfl, rfl⟩
  | cons x rest ih =>
    obtain ⟨number, action⟩ := x
    obtain ⟨houtcomes, hclient⟩ := ih (s.act number action).2
    obtain ⟨hfirst, hafter⟩ :=
      (acts_act number action s).single ((s.act number action).2.events rest)
    rw [events]
    constructor
    · rw [hfirst, ← houtcomes, List.filterMap_cons]
      cases Event.outcome? ⟨number, action, (s.act number action).1⟩ <;> rfl
    · rw [hafter, ← hclient]
      rfl

/-! ## Live handles -/

/-- The first handle, or one that was made by an event. -/
def Made (past : List Event) (n : Nat) : Prop := n = 0 ∨ ∃ e ∈ past, e.answer = .handle n

/-- A handle that was made and never given up. -/
def Live (past : List Event) (n : Nat) : Prop := Made past n ∧ ∀ e ∈ past, ¬ e.GivesUp n

theorem made_concat (past : List Event) (e : Event) (n : Nat) :
    Made (past ++ [e]) n ↔ Made past n ∨ e.answer = .handle n := by
  simp only [Made, List.mem_append, List.mem_singleton, or_and_right, exists_or, exists_eq_left,
    or_assoc]

theorem live_concat (past : List Event) (e : Event) (n : Nat) :
    Live (past ++ [e]) n ↔
      (Made past n ∨ e.answer = .handle n) ∧ (∀ e' ∈ past, ¬ e'.GivesUp n) ∧ ¬ e.GivesUp n := by
  rw [Live, made_concat, List.forall_mem_append, List.forall_mem_singleton]

/-- The answer to what is done next, by what has happened so far and by how the client stands. -/
inductive Answered (past : List Event) (client : Client) : Event → Prop
  | share {n new : Nat} (live : Live past n) (fresh : ¬ Made past new) :
      Answered past client ⟨n, .share, .handle new⟩
  | search {n : Nat} (live : Live past n) (text : String) (mode : Mode) :
      Answered past client ⟨n, .search text mode, .searched (client.search mode text).1⟩
  | query {n : Nat} (live : Live past n) (text : String) :
      Answered past client ⟨n, .query text, .searched (client.query text).1⟩
  | release {n : Nat} (live : Live past n) : Answered past client ⟨n, .release, .released⟩
  | reclaim {n : Nat} (live : Live past n) (only : ∀ m, Live past m → m = n) :
      Answered past client ⟨n, .reclaim, .reclaimed client⟩
  | refuse {n m : Nat} (live : Live past n) (shared : Live past m) (other : m ≠ n) :
      Answered past client ⟨n, .reclaim, .stillShared⟩
  | dead {n : Nat} (gone : ¬ Live past n) (action : Action) :
      Answered past client ⟨n, action, .noHandle⟩

/-- The client is given back if and only if it is asked for by its only handle. -/
theorem Answered.reclaimed_iff {past : List Event} {client : Client} {e : Event}
    (h : Answered past client e) (hreclaim : e.action = .reclaim) :
    e.answer = .reclaimed client ↔ Live past e.number ∧ ∀ m, Live past m → m = e.number := by
  cases h with
  | share | search | query | release => cases hreclaim
  | reclaim live only => exact ⟨fun _ => ⟨live, only⟩, fun _ => rfl⟩
  | refuse live shared other =>
    constructor
    · nofun
    · rintro ⟨-, honly⟩
      exact absurd (honly _ shared) other
  | dead gone action =>
    constructor
    · nofun
    · rintro ⟨hlive, -⟩
      exact absurd hlive gone

/-- The handles of what is shared are those that are live, each is counted once, and the next one
will be new. -/
structure Tracked (past : List Event) (s : Shared) : Prop where
  nodup : s.handles.Nodup
  live : ∀ n, n ∈ s.handles ↔ Live past n
  owners : s.owners = s.handles.length
  fresh : ∀ n, Made past n → n < s.issued
  ended : ∀ n, ∀ e ∈ past, e.GivesUp n → Made past n

theorem Tracked.ofClient (client : Client) : Tracked [] (ofClient client) where
  nodup := List.nodup_singleton 0
  live n := by simp [Shared.ofClient, Live, Made]
  owners := rfl
  fresh n hn := by
    obtain rfl | ⟨e, hmem, _⟩ := hn
    · exact Nat.one_pos
    · cases hmem
  ended n := List.forall_mem_nil _

/-- A sole owner is a sole handle. -/
theorem Tracked.sole_iff {past : List Event} {s : Shared} (ht : Tracked past s) {number : Nat}
    (hlive : number ∈ s.handles) : s.owners = 1 ↔ s.handles = [number] := by
  rw [ht.owners]
  constructor
  · intro hsole
    obtain ⟨n, hn⟩ := List.length_eq_one_iff.1 hsole
    rw [hn, List.mem_singleton] at hlive
    rw [hn, hlive]
  · intro honly
    rw [honly]
    rfl

namespace Acts

variable {past : List Event} {s s' : Shared} {number : Nat} {action : Action} {answer : Answer}

/-- The answer is as it is to be. -/
theorem answered (h : Acts s number action answer s') (ht : Tracked past s) :
    Answered past s.client ⟨number, action, answer⟩ := by
  have hnumber := ht.live number
  cases h with
  | share live =>
    exact .share (hnumber.1 live) fun hmade => Nat.lt_irrefl _ (ht.fresh _ hmade)
  | search live text mode => exact .search (hnumber.1 live) text mode
  | query live text => exact .query (hnumber.1 live) text
  | release live => exact .release (hnumber.1 live)
  | reclaim live sole =>
    have hlive : ∀ m, Live past m ↔ m = number := by
      intro m
      rw [← ht.live, (ht.sole_iff live).1 sole, List.mem_singleton]
    exact .reclaim ((hlive number).2 rfl) fun m hm => (hlive m).1 hm
  | refuse live shared =>
    have hnot : s.handles ≠ [number] := mt (ht.sole_iff live).2 shared
    rcases (ht.nodup.ne_singleton_iff number).1 hnot with hnil | ⟨m, hm, hne⟩
    · rw [hnil] at live
      cases live
    · exact .refuse (hnumber.1 live) ((ht.live m).1 hm) hne
  | dead gone action => exact .dead (fun hlive => gone (hnumber.2 hlive)) action

/-- A handle is live after an event if the event made it, or if it was live and the event did not
give it up. -/
theorem live_iff (h : Acts s number action answer s') (ht : Tracked past s) (n : Nat) :
    Live (past ++ [⟨number, action, answer⟩]) n ↔
      Live past n ∧ ¬ Event.GivesUp n ⟨number, action, answer⟩ ∨ answer = .handle n := by
  rw [live_concat]
  constructor
  · rintro ⟨hmade | hmade, hpast, hlast⟩
    · exact .inl ⟨⟨hmade, hpast⟩, hlast⟩
    · exact .inr hmade
  · rintro (⟨⟨hmade, hpast⟩, hlast⟩ | hmade)
    · exact ⟨.inl hmade, hpast, hlast⟩
    · -- A new handle has a number that no event was about.
      refine ⟨.inr hmade, fun e hmem hended => ?_, ?_⟩
      · cases h with
        | share live =>
          cases hmade
          exact Nat.lt_irrefl _ (ht.fresh _ (ht.ended _ e hmem hended))
        | search | query | release | reclaim | refuse | dead => cases hmade
      · rintro ⟨-, hreleased | ⟨client, hreclaimed⟩⟩
        · cases hmade.symm.trans hreleased
        · cases hmade.symm.trans hreclaimed

theorem tracked (h : Acts s number action answer s') (ht : Tracked past s) :
    Tracked (past ++ [⟨number, action, answer⟩]) s' := by
  have hlive := h.live_iff ht
  constructor
  · cases h with
    | share live =>
      have hnew : s.issued ∉ s.handles := fun hmem =>
        Nat.lt_irrefl _ (ht.fresh _ ((ht.live _).1 hmem).1)
      exact List.nodup_cons.2 ⟨hnew, ht.nodup⟩
    | release | reclaim => exact ht.nodup.erase number
    | search | query | refuse | dead => exact ht.nodup
  · intro n
    rw [hlive n, ← ht.live n]
    cases h with
    | share live => simp [Event.GivesUp, eq_comm, or_comm]
    | release | reclaim =>
      simp [Event.GivesUp, without, ht.nodup.mem_erase_iff, eq_comm, and_comm]
    | search | query | refuse | dead => simp [Event.GivesUp]
  · have howners := ht.owners
    cases h with
    | share live => exact congrArg (· + 1) howners
    | release live | reclaim live =>
      show s.owners - 1 = (s.handles.erase number).length
      rw [List.length_erase_of_mem live, howners]
    | search | query | refuse | dead => exact howners
  · intro n hmade
    rcases (made_concat past _ n).1 hmade with hpast | hnew
    · have hlt := ht.fresh n hpast
      cases h with
      | share => exact Nat.lt_succ_of_lt hlt
      | search | query | release | reclaim | refuse | dead => exact hlt
    · cases h with
      | share =>
        cases hnew
        exact Nat.lt_succ_self _
      | search | query | release | reclaim | refuse | dead => cases hnew
  · intro n e hmem hended
    rw [made_concat]
    rcases List.mem_append.1 hmem with hpast | hlast
    · exact .inl (ht.ended n e hpast hended)
    · -- Only a handle that is there can be given up.
      obtain rfl := List.mem_singleton.1 hlast
      obtain ⟨rfl, hanswer⟩ := hended
      have hmem : number ∈ s.handles := by
        cases h with
        | release live => exact live
        | reclaim live sole => exact live
        | share | search | query | refuse | dead =>
          rcases hanswer with hreleased | ⟨_, hreclaimed⟩
          · cases hreleased
          · cases hreclaimed
      exact .inl ((ht.live number).1 hmem).1

end Acts

/-! ## All that happens -/

/-- As long as the handles are tracked, each answer is as it is to be, and the handles that are live
after it are those that should be. -/
theorem Tracked.events {past : List Event} {s : Shared} (ht : Tracked past s)
    (actions : List (Nat × Action)) {before : List Event} {e : Event} {after : List Event}
    (h : s.events actions = before ++ e :: after) :
    Answered (past ++ before) (s.client.run (before.filterMap Event.step?)).2 e ∧
      ∀ n, Live (past ++ before ++ [e]) n ↔
        Live (past ++ before) n ∧ ¬ e.GivesUp n ∨ e.answer = .handle n := by
  induction actions generalizing past s before with
  | nil =>
    have hne := List.append_ne_nil_of_right_ne_nil before (List.cons_ne_nil e after)
    exact absurd h.symm hne
  | cons x rest ih =>
    obtain ⟨number, action⟩ := x
    have hacts := acts_act number action s
    rw [Shared.events] at h
    rcases List.cons_eq_append_iff.1 h with ⟨rfl, hlast⟩ | ⟨before', rfl, hrest⟩
    · cases hlast
      rw [List.append_nil]
      exact ⟨hacts.answered ht, hacts.live_iff ht⟩
    · have key := ih (hacts.tracked ht) hrest
      rwa [List.append_assoc, List.singleton_append, ← (hacts.single before').2] at key

/-- The handles are tracked to the end. -/
theorem Tracked.run {past : List Event} {s : Shared} (ht : Tracked past s)
    (actions : List (Nat × Action)) :
    Tracked (past ++ s.events actions) (s.run actions).2 := by
  induction actions generalizing past s with
  | nil =>
    rw [Shared.events, List.append_nil]
    exact ht
  | cons x rest ih =>
    obtain ⟨number, action⟩ := x
    have key := ih ((acts_act number action s).tracked ht)
    rwa [List.append_assoc] at key

/-- However its handles are used, a shared client is one client. The searches and queries made by
handles that are there give what they give when just these are made with the client alone, one after
the other, and leave the client as it is then. Nothing else bears on it, and each answer is as it is
to be: the client is given back through its only handle, as it stands at that time. The owners that
are counted are at any time as many as the handles that are live. -/
theorem sharing_is_serial (client : Client) (actions : List (Nat × Action)) :
    let events := (ofClient client).events actions
    let single := fun past : List Event => client.run (past.filterMap Event.step?)
    events.map (fun e => (e.number, e.action)) = actions ∧
      events.map Event.answer = ((ofClient client).run actions).1 ∧
      events.filterMap Event.outcome? = (single events).1 ∧
      ((ofClient client).run actions).2.client = (single events).2 ∧
      (∀ past e later, events = past ++ e :: later →
        Answered past (single past).2 e ∧
          (e.action = .reclaim → (e.answer = .reclaimed (single past).2 ↔
            Live past e.number ∧ ∀ m, Live past m → m = e.number)) ∧
          ∀ n, Live (past ++ [e]) n ↔ Live past n ∧ ¬ e.GivesUp n ∨ e.answer = .handle n) ∧
      ∃ live : List Nat, live.Nodup ∧ (∀ n, n ∈ live ↔ Live events n) ∧
        ((ofClient client).run actions).2.owners = live.length := by
  intro events single
  obtain ⟨houtcomes, hclient⟩ := run_single actions (ofClient client)
  have htracked := (Tracked.ofClient client).run actions
  rw [List.nil_append] at htracked
  refine ⟨actions_events actions _, answers_events actions _, houtcomes, hclient, ?_,
    _, htracked.nodup, htracked.live, htracked.owners⟩
  intro past e later hevents
  obtain ⟨hanswered, hlive⟩ := (Tracked.ofClient client).events actions hevents
  exact ⟨hanswered, hanswered.reclaimed_iff, hlive⟩

end RemoteSearch.Client.Shared
