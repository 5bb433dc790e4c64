import RemoteSearch.Proofs.Response.Flow

set_option autoImplicit false

/-! # What comes after a response

A response is over with its last byte: nothing that arrives later has a part in it, and none of it
is taken (`readOccurrences_followedBy`). Where the bytes end before the response does, the outcome
is that of the read which finds no more of them: a failure of the stream is reported as such, and
the end of the stream as a short read (`readOccurrences_halted`).
-/

namespace RemoteSearch

/-! ## Arrivals -/

namespace Arrival

/-- The arrival at which a stream halts for a cause, or ends. -/
def ofHalt : Option StreamError → Arrival
  | none => ended
  | some e => failure e

/-- True of a cause at which a field stops, that is, of no mere interruption. -/
def Halts (cause : Option StreamError) : Prop := ∀ e, cause = some e → e.isInterruption = false

/-- What a read gives at a halt. -/
def haltOutcome : Option StreamError → Except StreamError (List UInt8)
  | none => .ok []
  | some e => .error e

theorem deliver_ofHalt (most : Nat) (cause : Option StreamError) (as : List Arrival) :
    deliver most (ofHalt cause :: as) = (haltOutcome cause, as) := by
  cases cause <;> rfl

/-- A read that brings bytes or fails does not look further. -/
theorem deliver_append {most : Nat} {as : List Arrival} (h : (deliver most as).1 ≠ .ok [])
    (more : List Arrival) :
    deliver most (as ++ more) = ((deliver most as).1, (deliver most as).2 ++ more) := by
  fun_induction deliver most as with
  | case1 => exact absurd rfl h
  | case2 rest ih => exact ih h
  | case3 => rfl
  | case4 => rfl
  | case5 => rfl

theorem delivers_deliver {most : Nat} {as : List Arrival} (h : ∀ a ∈ as, a.Delivers) :
    ∀ a ∈ (deliver most as).2, a.Delivers := by
  fun_induction deliver most as with
  | case1 => exact h
  | case2 rest ih => exact ih fun a ha => h a (List.mem_cons_of_mem _ ha)
  | case3 b bs rest =>
    intro a ha
    rcases List.mem_cons.1 ha with rfl | ha
    · trivial
    · exact h a (List.mem_cons_of_mem _ ha)
  | case4 e rest => exact fun a ha => h a (List.mem_cons_of_mem _ ha)
  | case5 rest => exact fun a ha => h a (List.mem_cons_of_mem _ ha)

/-- A read that finds nothing in arrivals that only deliver goes on to what comes after them. -/
theorem deliver_exhausted {most : Nat} (hmost : 0 < most) {as : List Arrival}
    (has : ∀ a ∈ as, a.Delivers) (h : (deliver most as).1 = .ok []) (more : List Arrival) :
    deliver most (as ++ more) = deliver most more := by
  fun_induction deliver most as with
  | case1 => rfl
  | case2 rest ih => exact ih (fun a ha => has a (List.mem_cons_of_mem _ ha)) h
  | case3 b bs rest =>
    obtain ⟨n, rfl⟩ := Nat.exists_eq_succ_of_ne_zero (Nat.pos_iff_ne_zero.1 hmost)
    cases h
  | case4 => cases h
  | case5 => exact absurd (has _ (List.mem_cons_self ..)) id

end Arrival

namespace Reader

/-! ## Readers -/

/-- The reader with more in store after what it has. -/
def followedBy (more : List Arrival) (r : Reader) : Reader :=
  { r with
    connection := { r.connection with arrivals := r.connection.arrivals ++ more } }

/-- A reader whose connection brings bytes until what it has in store is used up. -/
structure Delivering (r : Reader) : Prop where
  ready : r.Ready
  arrivals : ∀ a ∈ r.connection.arrivals, a.Delivers

theorem connection_read_append {asked : Nat} {c : Connection} (h : (c.read asked).1 ≠ .ok [])
    (more : List Arrival) :
    ({ c with arrivals := c.arrivals ++ more } : Connection).read asked =
      ((c.read asked).1,
        { (c.read asked).2 with arrivals := (c.read asked).2.arrivals ++ more }) := by
  have key : Arrival.deliver (c.most asked) (c.arrivals ++ more) =
    ((c.read asked).1, (c.read asked).2.arrivals ++ more) := Arrival.deliver_append h more
  exact congrArg (c.entered asked) key

theorem read_followedBy (asked : Nat) (r : Reader) (h : (r.read asked).1 ≠ .ok [])
    (more : List Arrival) :
    (r.followedBy more).read asked = ((r.read asked).1, (r.read asked).2.followedBy more) := by
  by_cases ha : r.ahead = []
  · have ha' : (r.followedBy more).ahead = [] := ha
    by_cases hc : r.capacity ≤ asked
    · rw [read_straight ha hc] at h ⊢
      rw [read_straight ha' hc]
      exact congrArg (fun x => (x.1, ({ r with connection := x.2 } : Reader)))
        (connection_read_append h more)
    · have hlt : asked < r.capacity := Nat.not_le.1 hc
      rw [read_refill ha hlt] at h ⊢
      rw [read_refill ha' hlt]
      -- A refill that gave something has brought bytes or failed, and so did not look further.
      have hne : (r.connection.read r.capacity).1 ≠ .ok [] := by
        intro he
        rw [he] at h
        exact h (by simp [Except.map])
      exact congrArg (fun x => (x.1.map (·.take asked),
        ({ r with connection := x.2, ahead := (fetched x.1).drop asked } : Reader)))
        (connection_read_append hne more)
  · have ha' : (r.followedBy more).ahead ≠ [] := ha
    rw [read_served ha, read_served ha']
    rfl

/-- A reader that delivers goes on delivering. -/
theorem delivering_read {r : Reader} (h : r.Delivering) (asked : Nat) :
    (r.read asked).2.Delivering := by
  refine ⟨ready_of_advance (.read asked r) h.ready, ?_⟩
  by_cases ha : r.ahead = []
  · by_cases hc : r.capacity ≤ asked
    · rw [read_straight ha hc]
      exact Arrival.delivers_deliver h.arrivals
    · rw [read_refill ha (Nat.not_le.1 hc)]
      exact Arrival.delivers_deliver h.arrivals
  · rw [read_served ha]
    exact h.arrivals

theorem connection_read_halted {asked : Nat} (hasked : 0 < asked) {c : Connection}
    (hlimit : c.readLimit ≠ some 0) (hdelivers : ∀ a ∈ c.arrivals, a.Delivers)
    (h : (c.read asked).1 = .ok []) (cause : Option StreamError) (later : List Arrival) :
    let c' := ({ c with arrivals := c.arrivals ++ .ofHalt cause :: later } : Connection).read asked
    c'.1 = Arrival.haltOutcome cause ∧ c'.2.arrivals = later := by
  have key := (Arrival.deliver_exhausted (Connection.most_pos hasked hlimit) hdelivers h
    (.ofHalt cause :: later)).trans (Arrival.deliver_ofHalt _ cause later)
  exact ⟨congrArg Prod.fst key, congrArg Prod.snd key⟩

/-- A reader that finds no more bytes finds the halt that comes after them. -/
theorem read_halted {asked : Nat} (hasked : 0 < asked) {r : Reader} (hr : r.Delivering)
    (h : (r.read asked).1 = .ok []) (cause : Option StreamError) (later : List Arrival) :
    let x := (r.followedBy (.ofHalt cause :: later)).read asked
    x.1 = Arrival.haltOutcome cause ∧ x.2.ahead = [] ∧ x.2.connection.arrivals = later := by
  obtain ⟨n, rfl⟩ := Nat.exists_eq_succ_of_ne_zero (Nat.pos_iff_ne_zero.1 hasked)
  by_cases ha : r.ahead = []
  · have ha' : (r.followedBy (.ofHalt cause :: later)).ahead = [] := ha
    by_cases hc : r.capacity ≤ n + 1
    · rw [read_straight ha hc] at h
      have key := connection_read_halted hasked hr.ready hr.arrivals h cause later
      rw [read_straight ha' hc]
      exact ⟨key.1, ha, key.2⟩
    · have hlt : n + 1 < r.capacity := Nat.not_le.1 hc
      rw [read_refill ha hlt] at h
      have hnil : (r.connection.read r.capacity).1 = .ok [] := by
        cases ho : (r.connection.read r.capacity).1 with
        | error e => rw [ho] at h; cases h
        | ok bytes =>
          cases bytes with
          | nil => rfl
          | cons b bs => rw [ho] at h; cases h
      have key := connection_read_halted (Nat.zero_lt_of_lt hlt) hr.ready hr.arrivals hnil cause
        later
      rw [read_refill ha' hlt]
      have ho : ((r.followedBy (.ofHalt cause :: later)).connection.read
          (r.followedBy (.ofHalt cause :: later)).capacity).1 = Arrival.haltOutcome cause := key.1
      refine ⟨?_, ?_, key.2⟩
      · simp only [ho]
        cases cause <;> rfl
      · simp only [ho]
        cases cause <;> rfl
  · obtain ⟨b, bs, hb⟩ := List.exists_cons_of_ne_nil ha
    rw [read_served ha, hb] at h
    cases h

end Reader

/-! ## Fields -/

variable {α : Type}

/-- True of an outcome unless the stream ended too early. -/
def NotShort (o : Except Failure α) : Prop := ∀ e, o = .error e → e.isShortRead = false

theorem notShort_error {e : Failure} :
    NotShort (.error e : Except Failure α) ↔ e.isShortRead = false :=
  ⟨fun h => h e rfl, fun h _ he => by cases he; exact h⟩

/-- How a field fails of which the bytes stop for a cause. -/
def Failure.ofHalt (field : Field) (expected got : Nat) : Option StreamError → Failure
  | none => .shortRead field expected got
  | some e => .ofCall .reading e

namespace Reader

/-- A field that is not cut short has no part in what comes later. -/
theorem complete_followedBy {field : Field} {got missing : Nat} {newest : List UInt8} {r : Reader}
    (h : NotShort (r.complete field got missing newest).1) (more : List Arrival) :
    (r.followedBy more).complete field got missing newest =
      ((r.complete field got missing newest).1,
        (r.complete field got missing newest).2.followedBy more) := by
  fun_induction complete field got missing newest r with
  | case1 got newest r => rw [complete_zero]
  | case2 got missing newest r hm r' hr => exact absurd (h _ rfl) (Bool.noConfusion ·)
  | case3 got missing newest r hm b bs r' hr ih =>
    have hread := read_followedBy missing r (by rw [hr]; simp) more
    rw [hr] at hread
    rw [complete_of_bytes hm hread]
    exact ih h
  | case4 got missing newest r hm e r' hr hi ih =>
    have hread := read_followedBy missing r (by rw [hr]; simp) more
    rw [hr] at hread
    rw [complete_of_error hm hread, if_pos hi]
    exact ih h
  | case5 got missing newest r hm e r' hr hi =>
    have hread := read_followedBy missing r (by rw [hr]; simp) more
    rw [hr] at hread
    rw [complete_of_error hm hread, if_neg hi]

/-- A field that is cut short fails for the cause that comes after the bytes, and nothing behind
that is taken. -/
theorem complete_halted {field : Field} {got missing : Nat} {newest : List UInt8} {r : Reader}
    (hr : r.Delivering) {cause : Option StreamError} (hcause : Arrival.Halts cause)
    (later : List Arrival) {field' : Field} {expected got' : Nat}
    (h : (r.complete field got missing newest).1 = .error (.shortRead field' expected got')) :
    let x := (r.followedBy (.ofHalt cause :: later)).complete field got missing newest
    x.1 = .error (.ofHalt field' expected got' cause) ∧ x.2.ahead = [] ∧
      x.2.connection.arrivals = later := by
  fun_induction complete field got missing newest r with
  | case1 => cases h
  | case2 got missing newest r hm r' hread =>
    -- The read that found the end of the stream finds the halt in its place.
    cases h
    obtain ⟨ho, hahead, harrivals⟩ :=
      read_halted (Nat.pos_of_ne_zero hm) hr (by rw [hread]) cause later
    cases cause with
    | none =>
      rw [complete_of_ended hm (Prod.ext ho rfl)]
      exact ⟨rfl, hahead, harrivals⟩
    | some e =>
      rw [complete_of_error hm (Prod.ext ho rfl), hcause e rfl]
      exact ⟨rfl, hahead, harrivals⟩
  | case3 got missing newest r hm b bs r' hread ih =>
    have hr' := delivering_read hr missing
    have hmore := read_followedBy missing r (by rw [hread]; simp)
      (.ofHalt cause :: later)
    rw [hread] at hr' hmore
    rw [complete_of_bytes hm hmore]
    exact ih hr' h
  | case4 got missing newest r hm e r' hread hi ih =>
    have hr' := delivering_read hr missing
    have hmore := read_followedBy missing r (by rw [hread]; simp)
      (.ofHalt cause :: later)
    rw [hread] at hr' hmore
    rw [complete_of_error hm hmore, if_pos hi]
    exact ih hr' h
  | case5 got missing newest r hm e r' hread hi =>
    -- A failure before the halt is not reported as a short read.
    unfold Failure.ofCall at h
    split at h <;> cases h

theorem delivering_complete {field : Field} {got missing : Nat} {newest : List UInt8} {r : Reader}
    (hr : r.Delivering) : (r.complete field got missing newest).2.Delivering :=
  complete_keeps (P := Delivering) (fun asked _ h => delivering_read h asked) field got missing
    newest hr

end Reader

/-! ## Responses -/

namespace Parallel

/-- A reader beside the same reader with more to come. -/
def followedBy (d : Dialect) (more : List Arrival) : Parallel d where
  readers r s := s = r.followedBy more
  outcomes x y := NotShort x.1 → y = (x.1, x.2.followedBy more)
  value := by
    rintro _ o r _ _ rfl _
    rfl
  andThen {_ _ x y _ _} h k hshort := by
    obtain ⟨o, r⟩ := x
    cases o with
    | error e =>
      rw [h (notShort_error.2 (notShort_error.1 hshort))]
      rfl
    | ok a =>
      rw [h nofun]
      exact k a r _ rfl rfl hshort
  readField := by
    rintro field size r _ _ rfl hshort
    exact Reader.complete_followedBy hshort more

/-- A reader that delivers beside the same reader, for which something halts the stream after the
bytes. -/
def halted (d : Dialect) {cause : Option StreamError} (hcause : Arrival.Halts cause)
    (later : List Arrival) : Parallel d where
  readers r s := r.Delivering ∧ s = r.followedBy (.ofHalt cause :: later)
  outcomes x y := x.2.Delivering ∧
    (NotShort x.1 → y = (x.1, x.2.followedBy (.ofHalt cause :: later))) ∧
    ∀ field expected got, x.1 = .error (.shortRead field expected got) →
      y.1 = .error (.ofHalt field expected got cause) ∧ y.2.ahead = [] ∧
        y.2.connection.arrivals = later
  value := by
    rintro _ o r _ ho ⟨hr, rfl⟩
    refine ⟨hr, fun _ => rfl, ?_⟩
    rintro field expected got rfl
    exact absurd (ho _ rfl) Bool.false_ne_true
  andThen {_ _ x y f g} h k := by
    obtain ⟨o, r⟩ := x
    obtain ⟨hr, hlong, hshort⟩ := h
    cases o with
    | error e =>
      refine ⟨hr, fun hne => ?_, fun field expected got he => ?_⟩
      · rw [hlong (notShort_error.2 (notShort_error.1 hne))]
        rfl
      · obtain rfl : e = .shortRead field expected got := Except.error.inj he
        obtain ⟨ho, hkept⟩ := hshort field expected got rfl
        have hy : y = (.error (.ofHalt field expected got cause), y.2) := Prod.ext ho rfl
        rw [hy]
        exact ⟨rfl, hkept⟩
    | ok a =>
      rw [hlong nofun]
      exact k a r _ rfl ⟨hr, rfl⟩
  readField := by
    rintro field size r _ _ ⟨hr, rfl⟩
    refine ⟨Reader.delivering_complete hr, fun hne => ?_, fun field' expected got he => ?_⟩
    · exact Reader.complete_followedBy hne _
    · exact Reader.complete_halted hr hcause later he

end Parallel

namespace Dialect

/-- A response that is not cut short is read in the same way whatever comes after it, and none of
that is taken. -/
theorem readOccurrences_followedBy (d : Dialect) (mode : Mode) (r : Reader)
    (h : NotShort (d.readOccurrences mode r).1) (more : List Arrival) :
    d.readOccurrences mode (r.followedBy more) =
      ((d.readOccurrences mode r).1, (d.readOccurrences mode r).2.followedBy more) :=
  (Parallel.followedBy d more).readOccurrences mode rfl h

/-- A response that is cut short fails for what halts the stream after its bytes. All of them are
taken, and nothing behind the halt. -/
theorem readOccurrences_halted (d : Dialect) (mode : Mode) {r : Reader} (hr : r.Delivering)
    {field : Field} {expected got : Nat}
    (h : (d.readOccurrences mode r).1 = .error (.shortRead field expected got))
    (cause : Option StreamError) (hcause : Arrival.Halts cause) (later : List Arrival) :
    let x := d.readOccurrences mode (r.followedBy (.ofHalt cause :: later))
    x.1 = .error (.ofHalt field expected got cause) ∧ x.2.ahead = [] ∧
      x.2.connection.arrivals = later :=
  ((Parallel.halted d hcause later).readOccurrences mode ⟨hr, rfl⟩).2.2 field expected got h

end Dialect

end RemoteSearch
