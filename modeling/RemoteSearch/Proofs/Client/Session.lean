import RemoteSearch.Proofs.Client.Receiving
import RemoteSearch.Proofs.Request.Framing
import RemoteSearch.Proofs.Request.Sending
import RemoteSearch.Proofs.Response.Answer

set_option autoImplicit false

/-! # Sessions

A client that searches again and again shares one stream between all its responses, so a byte too
many or too few that is read for one of them would spoil all that follow. What carries a session
from one exchange to the next is `Client.Awaits`, which says all that is still to come. Each search
takes exactly its own response off it (`Awaits.search`), whatever the mode, and so any number of
searches is answered (`Client.searches_answered`).
-/

namespace RemoteSearch

namespace Client

/-! ## One exchange -/

/-- A client that can send, and to which nothing is to come but the given. -/
structure Awaits (c : Client) (coming : Flow) : Prop where
  obliging : c.connection.Obliging
  ready : c.reader.Ready
  flow : c.reader.flow = coming

namespace Awaits

/-- Sending a request leaves what is to come as it was. -/
theorem send {c : Client} {coming : Flow} (h : c.Awaits coming) {mode : Mode} {text : String}
    (htext : (Request.ofText mode text).needle.length < UInt32.size) (deadline : Option Duration) :
    ∃ c', c.send mode text deadline = (.ok (), c') ∧ c'.Awaits coming ∧ c'.dialect = c.dialect ∧
      c'.readTimeout = c.readTimeout ∧
      c'.connection.sent =
        c.connection.sent ++ (Request.ofText mode text).layout c.dialect.order := by
  -- The connection is called twice, first for the deadline and then for the frame.
  have htimed := c.connection.sends_setDeadline .writing (Duration.limit? deadline)
  have hset : (c.connection.setDeadline .writing (Duration.limit? deadline)).1 = none :=
    Connection.join_head?_of_forall h.obliging.deadlines
  generalize hc : c.connection.setDeadline .writing (Duration.limit? deadline) = x at htimed hset
  obtain ⟨_, c₁⟩ := x
  cases hset
  obtain ⟨ho, hsends⟩ :=
    Request.send_obliging c.dialect.order htext (h.obliging.of_sends htimed)
  generalize hq : (Request.ofText mode text).send c.dialect.order c₁ = y at ho hsends
  obtain ⟨_, c₂⟩ := y
  cases ho
  have hall := htimed.trans hsends
  refine ⟨c.onConnection c₂, ?_, ⟨h.obliging.of_sends hall, ?_, ?_⟩, rfl, rfl, hall.sent⟩
  · unfold Client.send
    rw [hc]
    simp only []
    rw [hq]
  · show c₂.readLimit ≠ some 0
    rw [hall.readLimit]
    exact h.ready
  · show Flow.ofBytes c.reader.ahead ++ Arrival.flow c₂.arrivals = coming
    rw [hall.arrivals]
    exact h.flow

/-- A request without a frame is not sent. -/
theorem send_of_long {c : Client} {coming : Flow} (h : c.Awaits coming) {mode : Mode}
    {text : String} (htext : ¬(Request.ofText mode text).needle.length < UInt32.size)
    (deadline : Option Duration) :
    ∃ e c', c.send mode text deadline = (.error e, c') ∧
      c'.connection.sent = c.connection.sent := by
  have htimed := c.connection.sends_setDeadline .writing (Duration.limit? deadline)
  have hset : c.connection.setDeadline .writing (Duration.limit? deadline) =
      (none, (c.connection.setDeadline .writing (Duration.limit? deadline)).2) :=
    Prod.ext (Connection.join_head?_of_forall h.obliging.deadlines) rfl
  have hsent := htimed.sent
  rw [List.append_nil] at hsent
  refine ⟨.protocol (.needleTooLong (Request.ofText mode text).needle.length),
    c.onConnection (c.connection.setDeadline .writing (Duration.limit? deadline)).2, ?_, hsent⟩
  unfold Client.send
  rw [hset]
  simp only []
  rw [Request.send, Request.frame, if_neg htext]

/-- Receiving takes off what is to come what any reader of it does, and gives the same outcome. -/
theorem receive_reading {c : Client} {s : Reader} (h : c.Awaits s.flow) (hs : s.Ready) (mode : Mode)
    (deadline : Option Duration) :
    ∃ c', c.receive mode deadline = ((c.dialect.readOccurrences mode s).1, c') ∧
      c'.Awaits (c.dialect.readOccurrences mode s).2.flow ∧ c'.dialect = c.dialect ∧
      c'.connection.sent = c.connection.sent := by
  have htimed := c.connection.sends_setDeadline .reading (Duration.limit? deadline)
  have hobliging : (c.timed deadline).connection.Obliging := h.obliging.of_sends htimed
  have hsame : Dialect.SameFlow (c.timed deadline) s := ⟨h.ready, hs, h.flow⟩
  obtain ⟨ho, hready, -, hflow⟩ := c.dialect.readOccurrences_flow mode hsame
  have hadvance := c.dialect.advance_readOccurrences mode (c.timed deadline)
  have hwriting := hadvance.writingSide
  refine ⟨{ c with reader := (c.dialect.readOccurrences mode (c.timed deadline)).2 }, ?_,
    ⟨?_, hready, hflow⟩, rfl, ?_⟩
  · rw [receive_eq (Connection.join_head?_of_forall h.obliging.deadlines), ho]
  · exact hobliging.of_writingSide hwriting
  · calc (c.dialect.readOccurrences mode (c.timed deadline)).2.connection.sent
        = (c.timed deadline).connection.sent := by
          rw [← Connection.sent_writingSide, hwriting, Connection.sent_writingSide]
      _ = c.connection.sent ++ [] := htimed.sent
      _ = c.connection.sent := List.append_nil _

/-- Receiving a response takes exactly that off what is to come. -/
theorem receive {c : Client} {mode : Mode} {os : List Occurrence} {bytes : List UInt8}
    {after : Flow} (h : c.Awaits (Flow.ofBytes bytes ++ after))
    (hencodes : Response.Encodes c.dialect mode os bytes) (deadline : Option Duration) :
    ∃ c', c.receive mode deadline = (.ok os, c') ∧ c'.Awaits after ∧ c'.dialect = c.dialect ∧
      c'.connection.sent = c.connection.sent := by
  obtain ⟨ho, -, hflow⟩ :=
    c.dialect.readsAs_readOccurrences hencodes c.reader after h.ready h.flow
  have hawaits : c.Awaits c.reader.flow := ⟨h.obliging, h.ready, rfl⟩
  have key := hawaits.receive_reading h.ready mode deadline
  rwa [ho, hflow] at key

/-- A search takes exactly its own response off what is to come. -/
theorem search {c : Client} {mode : Mode} {text : String} {os : List Occurrence}
    {bytes : List UInt8} {after : Flow} (h : c.Awaits (Flow.ofBytes bytes ++ after))
    (htext : (Request.ofText mode text).needle.length < UInt32.size)
    (hencodes : Response.Encodes c.dialect mode os bytes) :
    ∃ c', c.search mode text = (.ok os, c') ∧ c'.Awaits after ∧ c'.dialect = c.dialect ∧
      c'.connection.sent =
        c.connection.sent ++ (Request.ofText mode text).layout c.dialect.order := by
  obtain ⟨c₁, hsend, h₁, hdialect, htimeout, hsent⟩ := h.send htext c.writeTimeout
  rw [← hdialect] at hencodes
  obtain ⟨c₂, hreceive, h₂, hdialect', hsent'⟩ := h₁.receive hencodes c.readTimeout
  refine ⟨c₂, ?_, h₂, hdialect'.trans hdialect, hsent'.trans hsent⟩
  unfold Client.search
  rw [hsend]
  simp only []
  rw [htimeout, hreceive]

end Awaits

/-! ## Any number of exchanges -/

/-- A search, what is found by it, and the bytes that answer it. -/
structure Exchange where
  text : String
  mode : Mode
  found : List Occurrence
  response : List UInt8

namespace Exchange

/-- The request of an exchange. -/
def request (x : Exchange) : Request := .ofText x.mode x.text

/-- An exchange that can be held in a dialect: the request fits into a frame, and the response is
one with what is found. -/
structure Sound (d : Dialect) (x : Exchange) : Prop where
  short : x.request.needle.length < UInt32.size
  encodes : Response.Encodes d x.mode x.found x.response

end Exchange

/-- Exchanges one after the other, in whatever modes. -/
theorem Awaits.run {c : Client} {exchanges : List Exchange} {after : Flow}
    (h : c.Awaits (Flow.ofBytes (exchanges.flatMap (·.response)) ++ after))
    (hsound : ∀ x ∈ exchanges, x.Sound c.dialect) :
    ∃ c', c.run (exchanges.map fun x => .search x.text x.mode) =
        (exchanges.map fun x => .ok (.found x.found), c') ∧
      c'.Awaits after ∧
      c'.connection.sent =
        c.connection.sent ++ exchanges.flatMap (·.request.layout c.dialect.order) := by
  induction exchanges generalizing c with
  | nil => exact ⟨c, rfl, h, (List.append_nil _).symm⟩
  | cons x exchanges ih =>
    have hx := hsound x (List.mem_cons_self ..)
    rw [List.flatMap_cons, Flow.ofBytes_append, List.append_assoc] at h
    -- The first search leaves the responses of the others to come, and the dialect as it was.
    obtain ⟨c₁, hsearch, h₁, hdialect, hsent⟩ := h.search hx.short hx.encodes
    have hsound' : ∀ x' ∈ exchanges, x'.Sound c₁.dialect := by
      intro x' hx'
      rw [hdialect]
      exact hsound x' (List.mem_cons_of_mem x hx')
    obtain ⟨c₂, hrun, h₂, hsent'⟩ := ih h₁ hsound'
    refine ⟨c₂, ?_, h₂, ?_⟩
    · simp only [List.map_cons, Client.run, Client.step, hsearch, Prod.map, id_eq, Except.map]
      rw [hrun]
    · rw [hsent', hsent, hdialect, List.flatMap_cons, List.append_assoc]
      rfl

/-- The exchange of a search with a server that looks its matches up. -/
def Exchange.answered (order : Wire.Endian) (lookup : String → List (List UInt8 × String))
    (search : String × Mode) : Exchange where
  text := search.1
  mode := search.2
  found := Response.occurrencesFor order search.2 (lookup search.1)
  response := Response.answer order search.2 (lookup search.1)

/-- Searches that are made one after the other, in whatever modes, are each answered with the
matches of their own needle, whatever cuts the stream into reads and writes and interrupts them.
Exactly the answers are taken off what is to come, and exactly the requests are sent, which a server
reads one by one. -/
theorem searches_answered (lookup : String → List (List UInt8 × String))
    (searches : List (String × Mode)) (c : Client) (more : List UInt8)
    (hwrites : c.connection.Obliging) (hlimit : c.connection.readLimit ≠ some 0)
    (hreads : ∀ a ∈ c.connection.arrivals, a.Delivers)
    (hrest : c.reader.rest =
      searches.flatMap (fun s => Response.answer c.dialect.order s.2 (lookup s.1)) ++ more)
    (hneedles : ∀ s ∈ searches, (Text.Utf8.encode s.1.toList).length < UInt32.size)
    (hmatches : ∀ s ∈ searches,
      ∀ o ∈ Response.occurrencesFor c.dialect.order s.2 (lookup s.1), o.Within c.dialect) :
    let session := c.run (searches.map fun s => .search s.1 s.2)
    let requests := searches.map fun s => Request.ofText s.2 s.1
    session.1 = searches.map (fun s =>
        .ok (.found (Response.occurrencesFor c.dialect.order s.2 (lookup s.1)))) ∧
      (∀ s ∈ searches, (Response.occurrencesFor c.dialect.order s.2 (lookup s.1)).map
          (fun o => (o.data, o.needle.map (·.toString c.dialect.order))) =
        (if s.2.stopsAtFirst then (lookup s.1).take 1 else lookup s.1).map fun found =>
          (if s.2.hasUserData then found.1 else [],
            if s.2.hasNeedle then some found.2 else none)) ∧
      session.2.reader.rest = more ∧
      session.2.connection.sent =
        c.connection.sent ++ requests.flatMap (·.layout c.dialect.order) ∧
      Request.parseAll c.dialect.order (requests.flatMap (·.layout c.dialect.order)) =
        (requests, []) := by
  intro session requests
  have hsound : ∀ x ∈ searches.map (Exchange.answered c.dialect.order lookup),
      x.Sound c.dialect := by
    intro x hx
    obtain ⟨s, hs, rfl⟩ := List.mem_map.1 hx
    exact ⟨hneedles s hs, Response.encodes_answer (hmatches s hs)⟩
  have hawaits : c.Awaits (Flow.ofBytes
      ((searches.map (Exchange.answered c.dialect.order lookup)).flatMap (·.response)) ++
        Flow.ofBytes more) := by
    refine ⟨hwrites, hlimit, ?_⟩
    rw [Reader.flow_of_delivers hreads, hrest, Flow.ofBytes_append, List.flatMap_map]
    rfl
  obtain ⟨c', hrun, h, hsent⟩ := hawaits.run hsound
  rw [List.map_map, List.map_map] at hrun
  have hsession : session = (searches.map _, c') := hrun
  rw [hsession]
  refine ⟨rfl, fun s _ => Response.shown_occurrencesFor .., ?_, ?_, ?_⟩
  · show c'.reader.rest = more
    rw [← Reader.bytes_flow, h.flow, Flow.bytes_ofBytes]
  · rw [List.flatMap_map] at hsent
    rw [List.flatMap_map]
    exact hsent
  · refine Request.parseAll_layouts c.dialect.order fun q hq => ?_
    obtain ⟨s, hs, rfl⟩ := List.mem_map.1 hq
    exact hneedles s hs

/-- Three searches of one client, with writes and reads in pieces: the first stops at its first
match, so that no closing word comes before the second. -/
theorem searches_answered_in_pieces :
    let interrupted : StreamError := .ofKind .interrupted
    let c := ofConnection ⟨.big, 64⟩
      { arrivals := [.data [0, 0], .failure interrupted, .data [0, 2, 1, 2, 0, 0, 0, 2, 0, 0, 0],
          .data [104, 0, 0, 0, 101, 0, 0, 0, 0, 0, 0, 0, 2, 0, 0, 0, 104, 0, 0, 0, 101], .data [],
          .failure interrupted, .data [0, 0, 0, 0, 0, 0, 0, 3, 0, 0, 0, 115, 0, 0, 0, 104],
          .data [0, 0, 0, 101, 255, 255, 255], .data [255, 255, 255, 255, 255]]
        readLimit := some 9
        replies := [.upTo 2, .failure interrupted, .all] }
    let session := c.run [.search "he" ⟨7⟩, .search "he" ⟨2⟩, .search "x" ⟨0x81⟩]
    session.1 =
        [.ok (.found [⟨[1, 2], some ⟨[0, 0, 0, 104, 0, 0, 0, 101]⟩⟩]),
          .ok (.found [⟨[], some ⟨[0, 0, 0, 104, 0, 0, 0, 101]⟩⟩,
            ⟨[], some ⟨[0, 0, 0, 115, 0, 0, 0, 104, 0, 0, 0, 101]⟩⟩]),
          .ok (.found [])] ∧
      session.2.reader.rest = [] ∧
      session.2.connection.sent =
        [7, 0, 0, 0, 2, 104, 101, 2, 0, 0, 0, 2, 104, 101, 0x81, 0, 0, 0, 1, 120] := by
  intro interrupted c session
  let lookup : String → List (List UInt8 × String) :=
    fun text => if text = "he" then [([1, 2], "he"), ([], "she")] else []
  obtain ⟨hfound, -, hrest, hsent, -⟩ :=
    searches_answered lookup [("he", ⟨7⟩), ("he", ⟨2⟩), ("x", ⟨0x81⟩)] c []
      ⟨by decide, by decide, by decide⟩ (by decide) (by decide) (by decide +kernel)
      (by decide +kernel) (by decide +kernel)
  exact ⟨hfound.trans (by decide +kernel), hrest, hsent.trans (by decide +kernel)⟩

end Client

end RemoteSearch
