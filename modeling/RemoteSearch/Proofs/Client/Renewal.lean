import RemoteSearch.Proofs.Client.Stages
import RemoteSearch.Proofs.Reading.Ends

set_option autoImplicit false

/-! # What a new client misses

A client can be given up and a new one made of its connection. The bytes that the old one has read
ahead go with it, and these are all: the new client receives what anyone would who reads the
connection directly from where it stands.

To say which bytes these are, a run of receives is followed beside one that reads the connection
directly (`Dialect.receiveSeries`) and so takes no byte before it is decoded. Both are at the same
place all the time (`Beside`), which for the client is `Inside` an arrival as long as bytes are read
ahead. Where a response ends with an arrival, then, nothing is missed (`Renewal.empty`), and if all
responses do, a client can be renewed after any of them (`Renewal.unseen`).
-/

namespace RemoteSearch

/-! ## Readers at the same place -/

namespace Arrival

/-- A read of no bytes brings none, or fails. -/
theorem take_deliver_zero (n : Nat) (as : List Arrival) :
    (deliver 0 as).1.map (·.take n) = (deliver 0 as).1 ∧
      Reader.fetched (deliver 0 as).1 = [] := by
  fun_induction deliver 0 as with
  | case1 | case5 => exact ⟨congrArg Except.ok List.take_nil, rfl⟩
  | case2 rest ih => exact ih
  | case3 => exact ⟨congrArg Except.ok List.take_nil, rfl⟩
  | case4 => exact ⟨rfl, rfl⟩

end Arrival

namespace Reader

/-- A reader whose reads are limited to no bytes, and that has none read ahead. -/
def Starved (r : Reader) : Prop := r.connection.readLimit = some 0 ∧ r.ahead = []

/-- Reads of a starved reader differ in nothing but what they ask for. -/
theorem read_starved {r : Reader} (h : r.Starved) (asked : Nat) :
    (r.read asked).1 = (Arrival.deliver 0 r.connection.arrivals).1 ∧
      (r.read asked).2.connection.arrivals = (Arrival.deliver 0 r.connection.arrivals).2 ∧
      (r.read asked).2.Starved := by
  have hmost : ∀ n, r.connection.most n = 0 := by
    intro n
    rw [Connection.most, h.1]
    exact Nat.min_zero n
  obtain ⟨htake, hfetched⟩ := Arrival.take_deliver_zero asked r.connection.arrivals
  by_cases hc : r.capacity ≤ asked
  · rw [read_straight h.2 hc, Connection.read_eq, hmost]
    exact ⟨rfl, rfl, h⟩
  · rw [read_refill h.2 (Nat.not_le.1 hc), Connection.read_eq, hmost]
    refine ⟨htake, rfl, h.1, ?_⟩
    show (fetched (Arrival.deliver 0 r.connection.arrivals).1).drop asked = []
    rw [hfetched, List.drop_nil]

/-- Two starved readers of the same arrivals. -/
def Starving (r s : Reader) : Prop :=
  r.Starved ∧ s.Starved ∧ r.connection.arrivals = s.connection.arrivals

theorem readField_starving (field : Field) (size : Nat) {r s : Reader} (h : Starving r s) :
    (r.readField field size).1 = (s.readField field size).1 ∧
      Starving (r.readField field size).2 (s.readField field size).2 := by
  have step : ∀ asked, asked ≠ 0 → asked ≤ size → ∀ r s, Starving r s →
      (r.read asked).1 = (s.read asked).1 ∧ Starving (r.read asked).2 (s.read asked).2 := by
    rintro asked - - r s ⟨hr, hs, harrivals⟩
    obtain ⟨ho, ha, hr'⟩ := read_starved hr asked
    obtain ⟨ho', ha', hs'⟩ := read_starved hs asked
    refine ⟨?_, hr', hs', ?_⟩
    · rw [ho, ho', harrivals]
    · rw [ha, ha', harrivals]
  exact complete_lockstep step field (Nat.le_refl size) h

/-- Two readers at the same place of one stream, however they read it. Where reads are limited to no
bytes they have the same in store. -/
def Abreast (r s : Reader) : Prop := Dialect.SameFlow r s ∨ Starving r s

namespace Abreast

variable {r s : Reader}

/-- With nothing read ahead, readers of one connection are at the same place. -/
theorem of_connection {c : Connection} (hr : r.connection = c) (hs : s.connection = c)
    (hr' : r.ahead = []) (hs' : s.ahead = []) : Abreast r s := by
  by_cases hlimit : c.readLimit = some 0
  · refine .inr ⟨⟨?_, hr'⟩, ⟨?_, hs'⟩, ?_⟩
    · rw [hr, hlimit]
    · rw [hs, hlimit]
    · rw [hr, hs]
  · refine .inl ⟨?_, ?_, ?_⟩
    · rw [Ready, hr]
      exact hlimit
    · rw [Ready, hs]
      exact hlimit
    · rw [flow, flow, hr, hs, hr', hs']

theorem flow (h : Abreast r s) : r.flow = s.flow := by
  rcases h with ⟨-, -, hflow⟩ | ⟨hr, hs, harrivals⟩
  · exact hflow
  · rw [Reader.flow, Reader.flow, hr.2, hs.2, harrivals]

theorem rest (h : Abreast r s) : r.rest = s.rest := by
  rw [← bytes_flow, ← bytes_flow, h.flow]

theorem readField (field : Field) (size : Nat) (h : Abreast r s) :
    (r.readField field size).1 = (s.readField field size).1 ∧
      Abreast (r.readField field size).2 (s.readField field size).2 := by
  rcases h with hflow | hstarved
  · obtain ⟨ho, h'⟩ := Dialect.readField_sameFlow field size hflow
    exact ⟨ho, .inl h'⟩
  · obtain ⟨ho, h'⟩ := readField_starving field size hstarved
    exact ⟨ho, .inr h'⟩

theorem readOccurrences (d : Dialect) (mode : Mode) (h : Abreast r s) :
    (d.readOccurrences mode r).1 = (d.readOccurrences mode s).1 ∧
      Abreast (d.readOccurrences mode r).2 (d.readOccurrences mode s).2 :=
  (Parallel.lockstep d Abreast (fun field size _ _ => readField field size)).readOccurrences mode h

end Abreast

end Reader

/-! ## Receiving without a client -/

namespace Dialect

variable (d : Dialect)

/-- Receives a response by setting the deadline and then reading the connection directly. -/
def receiveFrom (mode : Mode) (deadline : Option Duration) (c : Connection) :
    Except Failure (List Occurrence) × Connection :=
  match c.setDeadline .reading (Duration.limit? deadline) with
  | (some e, c) => (.error (.stream e), c)
  | (none, c) =>
    ((d.readOccurrences mode (.direct c)).1, (d.readOccurrences mode (.direct c)).2.connection)

/-- Receives responses one after the other, also after one that fails. -/
def receiveSeries : List (Mode × Option Duration) → Connection →
    List (Except Failure (List Occurrence)) × Connection
  | [], c => ([], c)
  | (mode, deadline) :: receives, c =>
    let (outcome, c) := d.receiveFrom mode deadline c
    let (outcomes, c) := receiveSeries receives c
    (outcome :: outcomes, c)

theorem receiveFrom_of_unset {c : Connection} {e : StreamError}
    (h : c.deadlines.head?.join = some e) (mode : Mode) (deadline : Option Duration) :
    d.receiveFrom mode deadline c =
      (.error (.stream e), (c.setDeadline .reading (Duration.limit? deadline)).2) := by
  have hset : c.setDeadline .reading (Duration.limit? deadline) =
      (some e, (c.setDeadline .reading (Duration.limit? deadline)).2) := Prod.ext h rfl
  rw [receiveFrom, hset]

theorem receiveFrom_of_set {c : Connection} (h : c.deadlines.head?.join = none) (mode : Mode)
    (deadline : Option Duration) :
    let timed := Reader.direct (c.setDeadline .reading (Duration.limit? deadline)).2
    d.receiveFrom mode deadline c =
      ((d.readOccurrences mode timed).1, (d.readOccurrences mode timed).2.connection) := by
  have hset : c.setDeadline .reading (Duration.limit? deadline) =
      (none, (c.setDeadline .reading (Duration.limit? deadline)).2) := Prod.ext h rfl
  rw [receiveFrom, hset]

theorem readOccurrences_direct (mode : Mode) (c : Connection) :
    (d.readOccurrences mode (.direct c)).2 =
      .direct (d.readOccurrences mode (.direct c)).2.connection :=
  ((Reader.Unbuffered.direct c).of_advance (d.advance_readOccurrences mode _)).eq_direct

/-- Where deadlines are set, it makes no difference that they are. -/
theorem receiveSeries_of_set (receives : List (Mode × Option Duration)) {c c' : Connection}
    (hdeadlines : ∀ o ∈ c.deadlines, o = none) (hside : c.readingSide = c'.readingSide) :
    (d.receiveSeries receives c).1 = (d.readSeries (receives.map Prod.fst) (.direct c')).1 := by
  induction receives generalizing c c' with
  | nil => rfl
  | cons receive receives ih =>
    obtain ⟨mode, deadline⟩ := receive
    have hset : c.deadlines.head?.join = none := Connection.join_head?_of_forall hdeadlines
    let timed := (c.setDeadline .reading (Duration.limit? deadline)).2
    -- What is read is a matter of the reading side, which setting a deadline leaves as it is.
    have hread := d.readOccurrences_eq mode (.direct timed)
    have hread' := d.readOccurrences_eq mode (.direct c')
    have hsides : (Reader.direct timed).readingSide = (Reader.direct c').readingSide :=
      congrArg Reader.direct hside
    rw [hsides] at hread
    have hafter := (d.advance_readOccurrences mode (.direct timed)).writingSide
    have hleft : (d.readOccurrences mode (.direct timed)).2.connection.deadlines =
        timed.deadlines := (congrArg Connection.deadlines hafter :)
    rw [receiveSeries, d.receiveFrom_of_set hset, List.map_cons, readSeries]
    have hdeadlines' : ∀ o ∈ (d.readOccurrences mode (.direct timed)).2.connection.deadlines,
        o = none := by
      rw [hleft]
      exact fun o ho => hdeadlines o (List.mem_of_mem_tail ho)
    have hside' : (d.readOccurrences mode (.direct timed)).2.connection.readingSide =
        (d.readOccurrences mode (.direct c')).2.connection.readingSide := by
      rw [hread, hread']
      rfl
    have hrest := ih hdeadlines' hside'
    rw [← d.readOccurrences_direct mode c'] at hrest
    show (d.readOccurrences mode (.direct timed)).1 :: _ = _
    rw [hrest, hread, hread']

end Dialect

namespace Client

/-- The steps of a client that only receives. -/
def receiving (receives : List (Mode × Option Duration)) : List Step :=
  receives.map fun r => .receive r.1 r.2

theorem run_receiving_cons (r : Mode × Option Duration) (receives : List (Mode × Option Duration))
    (c : Client) :
    (c.run (receiving (r :: receives))).1 =
      (c.receive r.1 r.2).1.map .found :: ((c.receive r.1 r.2).2.run (receiving receives)).1 := rfl

/-- A client and a connection that is read directly, both at the same place of the stream with which
they started. -/
structure Beside (start : Connection) (c : Client) (bare : Connection) : Prop where
  abreast : c.reader.Abreast (.direct bare)
  inside : c.reader.Inside start.arrivals
  capacity : c.reader.capacity = readAhead
  deadlines : c.connection.deadlines = bare.deadlines
  rest : c.reader.rest <:+ Arrival.bytes start.arrivals
  taken : c.connection.taken + (Arrival.bytes c.connection.arrivals).length =
    start.taken + (Arrival.bytes start.arrivals).length
  decoded : bare.taken + (Arrival.bytes bare.arrivals).length =
    start.taken + (Arrival.bytes start.arrivals).length

namespace Beside

variable {start : Connection} {c : Client} {bare : Connection}

/-- A client that has not read anything yet. -/
theorem fresh (h : c.reader = .buffered readAhead start) : Beside start c start := by
  have hconnection : c.connection = start := congrArg Reader.connection h
  have hahead : c.reader.ahead = [] := congrArg Reader.ahead h
  refine ⟨.of_connection hconnection rfl hahead rfl, .start ?_, congrArg Reader.capacity h, ?_, ?_,
    ?_, rfl⟩
  · rw [h]
    rfl
  · rw [hconnection]
  · rw [h]
    exact List.suffix_rfl
  · rw [hconnection]

/-- A response on both sides: the same outcome, and both are at the same place again. -/
theorem receive (h : Beside start c bare) (mode : Mode) (deadline : Option Duration) :
    (c.receive mode deadline).1 = (c.dialect.receiveFrom mode deadline bare).1 ∧
      Beside start (c.receive mode deadline).2 (c.dialect.receiveFrom mode deadline bare).2 := by
  let timed := (bare.setDeadline .reading (Duration.limit? deadline)).2
  have htail := congrArg List.tail h.deadlines
  have hcall : (c.timed deadline).connection.taken = c.connection.taken :=
    Connection.taken_setDeadline _ _ _
  have hcall' : timed.taken = bare.taken := Connection.taken_setDeadline _ _ _
  rcases hc : c.connection.deadlines.head?.join with _ | e
  · have hbare : bare.deadlines.head?.join = none := by rw [← h.deadlines, hc]
    rw [receive_eq hc, c.dialect.receiveFrom_of_set hbare]
    have habreast : (c.timed deadline).Abreast (.direct timed) := h.abreast
    have hinside : (c.timed deadline).Inside start.arrivals := h.inside
    obtain ⟨ho, habreast'⟩ := habreast.readOccurrences c.dialect mode
    have hadvance := c.dialect.advance_readOccurrences mode (c.timed deadline)
    have hadvance' := c.dialect.advance_readOccurrences mode (.direct timed)
    refine ⟨ho, ⟨?_, ?_, ?_, ?_, ?_, ?_, ?_⟩⟩
    · rw [← c.dialect.readOccurrences_direct]
      exact habreast'
    · exact c.dialect.readOccurrences_keeps mode (fun field size _ _ h => h.readField field size)
        hinside
    · exact hadvance.capacity.trans h.capacity
    · -- Reading uses up no deadlines, so that one is gone on either side.
      have hleft := congrArg Connection.deadlines hadvance.writingSide
      have hleft' := congrArg Connection.deadlines hadvance'.writingSide
      exact (hleft.trans htail).trans hleft'.symm
    · exact hadvance.rest.trans h.rest
    · exact hadvance.taken.trans (hcall ▸ h.taken)
    · exact hadvance'.taken.trans (hcall' ▸ h.decoded)
  · have hbare : bare.deadlines.head?.join = some e := by rw [← h.deadlines, hc]
    rw [receive_of_unset hc, c.dialect.receiveFrom_of_unset hbare]
    exact ⟨rfl, h.abreast, h.inside, h.capacity, htail, h.rest, hcall ▸ h.taken,
      hcall' ▸ h.decoded⟩

/-- Any number of responses on both sides. -/
theorem run (h : Beside start c bare) (receives : List (Mode × Option Duration)) :
    (c.run (receiving receives)).1 =
        (c.dialect.receiveSeries receives bare).1.map (·.map Outcome.found) ∧
      Beside start (c.run (receiving receives)).2 (c.dialect.receiveSeries receives bare).2 := by
  induction receives generalizing c bare with
  | nil => exact ⟨rfl, h⟩
  | cons receive receives ih =>
    obtain ⟨ho, h'⟩ := h.receive receive.1 receive.2
    obtain ⟨hos, h''⟩ := ih h'
    rw [dialect_receive] at hos h''
    refine ⟨?_, h''⟩
    rw [run_receiving_cons, ho, hos]
    rfl

/-- The bytes to come are those read ahead and those that come without a client as well. -/
theorem flow_eq (h : Beside start c bare) :
    Arrival.flow bare.arrivals =
      Flow.ofBytes c.reader.ahead ++ Arrival.flow c.connection.arrivals :=
  (h.abreast.flow.symm :)

theorem bytes_eq_drop (h : Beside start c bare) :
    Arrival.bytes c.connection.arrivals =
      (Arrival.bytes start.arrivals).drop (c.connection.taken - start.taken) := by
  have hrest : Arrival.bytes c.connection.arrivals <:+ c.reader.rest := List.suffix_append _ _
  have hdrop := List.suffix_iff_eq_drop.1 (hrest.trans h.rest)
  have htaken := h.taken
  rw [hdrop]
  congr 1
  omega

/-- Where the bytes that are decoded end with an arrival, nothing is read ahead. -/
theorem ahead_eq_nil (h : Beside start c bare) {front back : List Arrival}
    (harrivals : start.arrivals = front ++ back)
    (hend : bare.taken = start.taken + (Arrival.bytes front).length) : c.reader.ahead = [] := by
  have hrest : c.reader.rest = Arrival.bytes bare.arrivals := h.abreast.rest
  have hdecoded := h.decoded
  rw [harrivals, Arrival.bytes_append, List.length_append] at hdecoded
  refine h.inside.ahead_eq_nil (harrivals ▸ List.suffix_append front back) ?_
  rw [hrest]
  omega

end Beside

/-! ## New clients -/

/-- A client that starts again as it stands, because it has nothing read ahead. -/
theorem reader_renew {c : Client} (hcapacity : c.reader.capacity = readAhead)
    (hahead : c.reader.ahead = []) : c.renew.reader = c.reader := by
  show Reader.buffered readAhead c.reader.connection = c.reader
  rw [← hcapacity]
  cases hreader : c.reader with
  | mk connection ahead capacity =>
    rw [hreader] at hahead
    cases hahead
    rfl

/-- What a client receives depends on its reader and its dialect alone. -/
theorem receive_congr {c c' : Client} (hreader : c'.reader = c.reader)
    (hdialect : c'.dialect = c.dialect) (mode : Mode) (deadline : Option Duration) :
    (c'.receive mode deadline).1 = (c.receive mode deadline).1 ∧
      (c'.receive mode deadline).2.reader = (c.receive mode deadline).2.reader := by
  have hconnection : c'.connection = c.connection := congrArg Reader.connection hreader
  rcases hc : c.connection.deadlines.head?.join with _ | e
  · have hc' : c'.connection.deadlines.head?.join = none := by rw [hconnection, hc]
    have htimed : c'.timed deadline = c.timed deadline := by
      rw [timed, timed, hconnection, hreader]
    rw [receive_eq hc, receive_eq hc', htimed, hdialect]
    exact ⟨rfl, rfl⟩
  · have hc' : c'.connection.deadlines.head?.join = some e := by rw [hconnection, hc]
    rw [receive_of_unset hc, receive_of_unset hc', onConnection, onConnection, hconnection, hreader]
    exact ⟨rfl, rfl⟩

/-- The client that goes on after a receive: a new one, if that is wanted and the receive succeeded.
-/
def following (renewed : Bool) (received : Except Failure (List Occurrence) × Client) : Client :=
  if renewed && received.1.isOk then received.2.renew else received.2

/-- Receives responses one after the other. Where a receive is marked and succeeds, a new client
goes on. -/
def runRenewing : List ((Mode × Option Duration) × Bool) → Client →
    List (Except Failure Outcome) × Client
  | [], c => ([], c)
  | ((mode, deadline), renewed) :: receives, c =>
    let received := c.receive mode deadline
    let (outcomes, c) := runRenewing receives (following renewed received)
    (received.1.map .found :: outcomes, c)

theorem dialect_following (renewed : Bool) (received : Except Failure (List Occurrence) × Client) :
    (following renewed received).dialect = received.2.dialect := by
  rw [following]
  split
  · rfl
  · rfl

/-- Going on with a new client is going on with the old one's reader, where nothing was read ahead
whenever the receive succeeded. -/
theorem reader_following {received : Except Failure (List Occurrence) × Client}
    (hcapacity : received.2.reader.capacity = readAhead)
    (hahead : ∀ os, received.1 = .ok os → received.2.reader.ahead = []) (renewed : Bool) :
    (following renewed received).reader = received.2.reader := by
  rw [following]
  split
  · next hrenew =>
    obtain ⟨-, hok⟩ := Bool.and_eq_true_iff.1 hrenew
    cases hos : received.1 with
    | error e =>
      rw [hos] at hok
      cases hok
    | ok os => exact reader_renew hcapacity (hahead os hos)
  · rfl

theorem runRenewing_cons (r : Mode × Option Duration) (renewed : Bool)
    (receives : List ((Mode × Option Duration) × Bool)) (c : Client) :
    (c.runRenewing ((r, renewed) :: receives)).1 =
      (c.receive r.1 r.2).1.map .found ::
        ((following renewed (c.receive r.1 r.2)).runRenewing receives).1 := rfl

/-- What a new client comes to that is made in place of another one, in the course of a stream which
is at the same place when it is read directly. -/
structure Renewal (d : Dialect) (start : Connection) (c : Client) (bare : Connection) : Prop where
  /-- What is missed is what was read ahead, and nothing else. -/
  missed : Arrival.flow bare.arrivals =
    Flow.ofBytes c.reader.ahead ++ Arrival.flow c.renew.connection.arrivals
  /-- The new client goes on with the bytes that the old one has not taken. -/
  store : Arrival.bytes c.renew.connection.arrivals =
    (Arrival.bytes start.arrivals).drop (c.connection.taken - start.taken)
  ahead : c.renew.reader.ahead = []
  /-- It receives what is received by reading the connection directly. -/
  later : ∀ receives, (c.renew.run (receiving receives)).1 =
    (d.receiveSeries receives c.connection).1.map (·.map Outcome.found)
  /-- And where its deadlines are set, the responses are simply read. -/
  read : (∀ o ∈ c.connection.deadlines, o = none) →
    ∀ receives, (c.renew.run (receiving receives)).1 =
      (d.readSeries (receives.map Prod.fst) (.direct c.connection)).1.map (·.map Outcome.found)
  /-- Nothing is missed where the bytes that are decoded end with an arrival. -/
  empty : ∀ front back, start.arrivals = front ++ back →
    bare.taken = start.taken + (Arrival.bytes front).length → c.reader.ahead = []

theorem Beside.renewal {start : Connection} {c : Client} {bare : Connection}
    (h : Beside start c bare) : Renewal c.dialect start c bare where
  missed := h.flow_eq
  store := h.bytes_eq_drop
  ahead := rfl
  later receives := ((Beside.fresh (c := c.renew) rfl).run receives).1
  read hdeadlines receives := by
    rw [((Beside.fresh (c := c.renew) rfl).run receives).1]
    exact congrArg (List.map _) (c.dialect.receiveSeries_of_set receives hdeadlines rfl)
  empty _ _ harrivals hend := h.ahead_eq_nil harrivals hend

/-- The bytes that are decoded by receives end where an arrival ends. -/
def EndsWithArrival (d : Dialect) (start : Connection) (receives : List (Mode × Option Duration)) :
    Prop :=
  ∃ front back, start.arrivals = front ++ back ∧
    (d.receiveSeries receives start).2.taken = start.taken + (Arrival.bytes front).length

section

variable (d : Dialect) (start : Connection)

/-- The client after receives. -/
def after (receives : List (Mode × Option Duration)) : Client :=
  ((ofConnection d start).run (receiving receives)).2

theorem beside_after (receives : List (Mode × Option Duration)) :
    Beside start (after d start receives) (d.receiveSeries receives start).2 :=
  ((Beside.fresh (c := ofConnection d start) rfl).run receives).2

theorem after_concat (receives : List (Mode × Option Duration)) (r : Mode × Option Duration) :
    after d start (receives ++ [r]) = ((after d start receives).receive r.1 r.2).2 := by
  rw [after, receiving, List.map_append, run_append]
  rfl

theorem dialect_after (receives : List (Mode × Option Duration)) :
    (after d start receives).dialect = d := by
  have key : ∀ c : Client, (c.run (receiving receives)).2.dialect = c.dialect := by
    induction receives with
    | nil => exact fun _ => rfl
    | cons r receives ih =>
      intro c
      show ((c.receive r.1 r.2).2.run (receiving receives)).2.dialect = c.dialect
      rw [ih, dialect_receive]
  exact key (ofConnection d start)

/-- As long as the responses that are received end with arrivals, clients that are renewed and the
one that is not stay at the same place. -/
theorem runRenewing_eq {receives : List (Mode × Option Duration)}
    (hends : ∀ past r rest os, receives = past ++ r :: rest →
      ((after d start past).receive r.1 r.2).1 = .ok os → EndsWithArrival d start (past ++ [r]))
    (marked : List ((Mode × Option Duration) × Bool)) (past : List (Mode × Option Duration))
    (hreceives : receives = past ++ marked.map Prod.fst) {c : Client}
    (hreader : c.reader = (after d start past).reader) (hdialect : c.dialect = d) :
    (c.runRenewing marked).1 = ((after d start past).run (receiving (marked.map Prod.fst))).1 := by
  -- The induction is on the receives to come; those behind are the same for every client.
  induction marked generalizing past c with
  | nil => rfl
  | cons m marked ih =>
    obtain ⟨r, renewed⟩ := m
    have hbeside := beside_after d start (past ++ [r])
    have hconcat := after_concat d start past r
    obtain ⟨ho, hreader'⟩ :=
      receive_congr hreader (hdialect.trans (dialect_after d start past).symm) r.1 r.2
    rw [← hconcat] at hreader'
    have hahead : ∀ os, (c.receive r.1 r.2).1 = .ok os →
        (c.receive r.1 r.2).2.reader.ahead = [] := by
      intro os hos
      obtain ⟨front, back, harrivals, hend⟩ := hends past r _ os hreceives (ho.symm.trans hos)
      rw [hreader']
      exact hbeside.ahead_eq_nil harrivals hend
    have hcapacity : (c.receive r.1 r.2).2.reader.capacity = readAhead := by
      rw [hreader']
      exact hbeside.capacity
    have hnext := (reader_following hcapacity hahead renewed).trans hreader'
    have hdialect' : (following renewed (c.receive r.1 r.2)).dialect = d := by
      rw [dialect_following, dialect_receive, hdialect]
    have hpast : receives = past ++ [r] ++ marked.map Prod.fst := by
      rw [hreceives, List.append_assoc]
      rfl
    rw [runRenewing_cons, List.map_cons, run_receiving_cons, ih _ hpast hnext hdialect', ho,
      hconcat]

/-- A client that is given up in the course of a stream loses the bytes that it has read ahead and
nothing else: a new client of its connection receives what is received by reading that directly. No
bytes are lost where those that were decoded end with an arrival. So if each response that is
received ends with an arrival, a new client after any of them makes no difference. -/
theorem renew_loses_ahead (receives : List (Mode × Option Duration)) :
    Renewal d start (after d start receives) (d.receiveSeries receives start).2 ∧
      ((∀ past r rest os, receives = past ++ r :: rest →
          ((after d start past).receive r.1 r.2).1 = .ok os →
          EndsWithArrival d start (past ++ [r])) →
        ∀ marked : List ((Mode × Option Duration) × Bool), marked.map Prod.fst = receives →
          ((ofConnection d start).runRenewing marked).1 =
            ((ofConnection d start).run (receiving receives)).1) := by
  constructor
  · have key := (beside_after d start receives).renewal
    rwa [dialect_after] at key
  · rintro hends marked rfl
    exact runRenewing_eq d start hends marked [] rfl rfl rfl

end

/-- Two responses that arrive together are not received by a client each, while two that arrive one
after the other are. -/
example :
    let receives : List ((Mode × Option Duration) × Bool) :=
      [((.empty, none), true), ((.empty, none), true)]
    let response : List UInt8 := [0, 0, 0, 1, 65, 255, 255, 255, 255]
    let outcomes := fun arrivals : List Arrival =>
      ((ofConnection ⟨.big, 16⟩ { arrivals }).runRenewing receives).1
    outcomes [.data (response ++ response)] =
        [.ok (.found [⟨[65], none⟩]), .error (.shortRead .dataSize 4 0)] ∧
      outcomes [.data response, .data response] =
        [.ok (.found [⟨[65], none⟩]), .ok (.found [⟨[65], none⟩])] := by
  decide +kernel

end Client

end RemoteSearch
