import RemoteSearch.Client

set_option autoImplicit false

/-! # Shared clients

A client can be used through several handles. Handles are numbered in the order in which they are
made, and a number is never used again. Each search has the connection to itself from its request
to the end of its response. The handles that have not been given up are counted, and the client can
be had back through a handle only while no other is counted.
-/

namespace RemoteSearch.Client

/-- A client that is shared. It is kept once, and all handles act on it. Beside it are the handles
that are still there and the count of its owners: every handle that is made adds one, and every one
that goes takes one off. Whether the client can be had back is decided by the count alone. -/
structure Shared where
  client : Client
  handles : List Nat
  owners : Nat
  issued : Nat

namespace Shared

/-- Shares a client, by one handle of number zero. -/
def ofClient (client : Client) : Shared := ⟨client, [0], 1, 1⟩

/-- What can be done by a handle: make another one, search, give the handle up, or ask for the
client itself. -/
inductive Action
  | share
  | search (text : String) (mode : Mode)
  | query (text : String)
  | release
  | reclaim

/-- What comes of it: a new handle, the outcome of a search, the end of the handle, a client, or the
refusal to give one away that others share. -/
inductive Answer
  | handle (number : Nat)
  | searched (outcome : Except Failure (List Occurrence))
  | released
  | reclaimed (client : Client)
  | stillShared
  | noHandle

/-- What is shared after the handle of a number has gone. -/
def without (number : Nat) (s : Shared) : Shared :=
  { s with handles := s.handles.erase number, owners := s.owners - 1 }

/-- Does something by the handle of a number. -/
def act (number : Nat) (action : Action) (s : Shared) : Answer × Shared :=
  if number ∈ s.handles then
    match action with
    | .share =>
      (.handle s.issued,
        { s with
          handles := s.issued :: s.handles
          owners := s.owners + 1
          issued := s.issued + 1 })
    | .search text mode =>
      match s.client.search mode text with
      | (outcome, client) => (.searched outcome, { s with client })
    | .query text =>
      match s.client.query text with
      | (outcome, client) => (.searched outcome, { s with client })
    | .release => (.released, s.without number)
    | .reclaim =>
      if s.owners = 1 then (.reclaimed s.client, s.without number)
      else (.stillShared, s)
  else (.noHandle, s)

/-- Does several things one after the other. -/
def run : List (Nat × Action) → Shared → List Answer × Shared
  | [], s => ([], s)
  | (number, action) :: rest, s =>
    let (answer, s) := s.act number action
    let (answers, s) := s.run rest
    (answer :: answers, s)

end Shared

end RemoteSearch.Client
