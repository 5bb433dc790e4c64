import RemoteSearch.Proofs.Reading.Advance

set_option autoImplicit false

/-! # What reads meet

How a stream is cut into arrivals, how much one read may bring, where calls are interrupted and how
much is read ahead makes no difference to the fields that are read. What does make a difference is
the *flow* of a reader: the bytes still to come, one by one, and the places between them where a
read fails or brings nothing.

A field is a matter of the flow alone (`readField_flow`): `Flow.readField` takes it byte by byte
off a flow, and every reader gives the same outcome and keeps the flow that is left. All that is
asked of the reader is that its reads are not limited to no bytes at all (`Reader.Ready`).
-/

namespace RemoteSearch

/-! ## Flows -/

/-- What comes next on a stream: a byte, or a read without one, which fails for a cause or tells
that the stream has ended. -/
inductive Incoming
  | byte (b : UInt8)
  | halt (cause : Option StreamError)
deriving DecidableEq

/-- All that is still to come. After it the stream has ended. -/
abbrev Flow : Type := List Incoming

namespace Flow

/-- A flow of bytes, with nothing between them. -/
def ofBytes (bytes : List UInt8) : Flow := bytes.map .byte

/-- The bytes of a flow. -/
def bytes (flow : Flow) : List UInt8 := flow.filterMap fun
  | .byte b => some b
  | .halt _ => none

@[simp] theorem ofBytes_nil : ofBytes [] = [] := rfl

@[simp] theorem ofBytes_cons (b : UInt8) (bs : List UInt8) :
    ofBytes (b :: bs) = .byte b :: ofBytes bs := rfl

@[simp] theorem ofBytes_append (a b : List UInt8) : ofBytes (a ++ b) = ofBytes a ++ ofBytes b :=
  List.map_append

@[simp] theorem bytes_nil : bytes [] = [] := rfl

@[simp] theorem bytes_byte (b : UInt8) (flow : Flow) :
    bytes (.byte b :: flow) = b :: bytes flow := rfl

@[simp] theorem bytes_halt (cause : Option StreamError) (flow : Flow) :
    bytes (.halt cause :: flow) = bytes flow := rfl

@[simp] theorem bytes_append (a b : Flow) : bytes (a ++ b) = bytes a ++ bytes b := by
  simp [bytes]

@[simp] theorem bytes_ofBytes (bs : List UInt8) : bytes (ofBytes bs) = bs := by
  induction bs with
  | nil => rfl
  | cons b bs ih => rw [ofBytes_cons, bytes_byte, ih]

/-- What a read has met, from the flow before it and after it. An interruption leaves no trace. -/
def Meets : Except StreamError (List UInt8) → Flow → Flow → Prop
  | .ok [], before, after => before = [] ∧ after = [] ∨ before = .halt none :: after
  | .ok (b :: bs), before, after => before = ofBytes (b :: bs) ++ after
  | .error e, before, after =>
    before = if e.isInterruption then after else .halt (some e) :: after

/-- Takes a field off a flow, of which `got` bytes are there and the given number are missing. -/
def readField (field : Field) (got : Nat) : Nat → Flow → Except Failure (List UInt8) × Flow
  | 0, flow => (.ok [], flow)
  | n + 1, [] => (.error (.shortRead field (got + (n + 1)) got), [])
  | n + 1, .halt none :: flow => (.error (.shortRead field (got + (n + 1)) got), flow)
  | _ + 1, .halt (some e) :: flow => (.error (.ofCall .reading e), flow)
  | n + 1, .byte b :: flow =>
    match readField field (got + 1) n flow with
    | (.error e, flow) => (.error e, flow)
    | (.ok bs, flow) => (.ok (b :: bs), flow)

/-- Bytes at the front of a flow can be taken at once. -/
theorem readField_ofBytes (field : Field) (got : Nat) {n : Nat} {bs : List UInt8}
    (h : bs.length ≤ n) (flow : Flow) :
    readField field got n (ofBytes bs ++ flow) =
      ((readField field (got + bs.length) (n - bs.length) flow).1.map (bs ++ ·),
        (readField field (got + bs.length) (n - bs.length) flow).2) := by
  induction bs generalizing got n with
  | nil =>
    simp only [List.length_nil, Nat.add_zero, Nat.sub_zero, ofBytes_nil, List.nil_append]
    cases readField field got n flow with
    | mk o rest => cases o <;> rfl
  | cons b bs ih =>
    simp only [List.length_cons] at h ⊢
    obtain ⟨m, rfl⟩ : ∃ m, n = m + 1 := ⟨n - 1, by omega⟩
    have hg : got + (bs.length + 1) = got + 1 + bs.length := by omega
    rw [ofBytes_cons, List.cons_append, readField, ih (got + 1) (Nat.le_of_succ_le_succ h), hg,
      Nat.add_sub_add_right]
    cases (readField field (got + 1 + bs.length) (m - bs.length) flow).1 <;> rfl

end Flow

namespace Arrival

/-- The flow of arrivals. Interruptions, and how bytes are grouped, are not seen in it. -/
def flow : List Arrival → Flow
  | [] => []
  | data bs :: rest => Flow.ofBytes bs ++ flow rest
  | failure e :: rest => if e.isInterruption then flow rest else .halt (some e) :: flow rest
  | ended :: rest => .halt none :: flow rest

theorem bytes_flow (as : List Arrival) : (flow as).bytes = bytes as := by
  induction as with
  | nil => rfl
  | cons a as ih =>
    cases a with
    | data bs => rw [flow, Flow.bytes_append, Flow.bytes_ofBytes, ih, bytes]
    | failure e =>
      rw [flow, bytes]
      split
      · exact ih
      · rw [Flow.bytes_halt, ih]
    | ended => rw [flow, Flow.bytes_halt, ih, bytes]

/-- An arrival that neither ends nor fails a field: bytes, or an interruption. -/
def Delivers : Arrival → Prop
  | data _ => True
  | failure e => e.isInterruption = true
  | ended => False

instance : DecidablePred Delivers
  | data _ => .isTrue trivial
  | failure e => inferInstanceAs (Decidable (e.isInterruption = true))
  | ended => .isFalse id

theorem flow_of_delivers {as : List Arrival} (h : ∀ a ∈ as, a.Delivers) :
    flow as = Flow.ofBytes (bytes as) := by
  induction as with
  | nil => rfl
  | cons a as ih =>
    have ha := h a (List.mem_cons_self ..)
    have has := ih fun a' ha' => h a' (List.mem_cons_of_mem a ha')
    cases a with
    | data bs => rw [flow, bytes, Flow.ofBytes_append, has]
    | failure e =>
      have hi : e.isInterruption = true := ha
      rw [flow, bytes, if_pos hi, has]
    | ended => exact absurd ha id

theorem meets_deliver {most : Nat} (hmost : 0 < most) {as as' : List Arrival}
    {o : Except StreamError (List UInt8)} (h : deliver most as = (o, as')) :
    Flow.Meets o (flow as) (flow as') := by
  fun_induction deliver most as with
  | case1 => cases h; exact Or.inl ⟨rfl, rfl⟩
  | case2 rest ih => exact ih h
  | case3 b bs rest =>
    cases h
    obtain ⟨most, rfl⟩ := Nat.exists_eq_succ_of_ne_zero (Nat.pos_iff_ne_zero.1 hmost)
    show flow (data (b :: bs) :: rest) =
      Flow.ofBytes (b :: bs.take most) ++ flow (data (bs.drop most) :: rest)
    rw [flow, flow, ← List.append_assoc, ← Flow.ofBytes_append, List.cons_append,
      List.take_append_drop]
  | case4 => cases h; rfl
  | case5 => cases h; exact Or.inr rfl

end Arrival

namespace Reader

/-! ## The flow of a reader -/

/-- The flow of a reader: what was read ahead, then what is in store. -/
def flow (r : Reader) : Flow := Flow.ofBytes r.ahead ++ Arrival.flow r.connection.arrivals

/-- Reads are not limited to no bytes. -/
def Ready (r : Reader) : Prop := r.connection.readLimit ≠ some 0

theorem bytes_flow (r : Reader) : r.flow.bytes = r.rest := by
  rw [flow, Flow.bytes_append, Flow.bytes_ofBytes, Arrival.bytes_flow, rest]

theorem flow_of_delivers {r : Reader} (h : ∀ a ∈ r.connection.arrivals, a.Delivers) :
    r.flow = Flow.ofBytes r.rest := by
  rw [flow, rest, Arrival.flow_of_delivers h, Flow.ofBytes_append]

theorem ready_of_advance {r r' : Reader} (h : Advance r r') (hr : r.Ready) : r'.Ready := by
  rw [Ready, Connection.readLimit_of_writingSide h.writingSide]
  exact hr

theorem meets_connection_read {asked : Nat} (hasked : 0 < asked) {c : Connection}
    (hlimit : c.readLimit ≠ some 0) :
    Flow.Meets (c.read asked).1 (Arrival.flow c.arrivals)
      (Arrival.flow (c.read asked).2.arrivals) := by
  rw [Connection.read_eq]
  exact Arrival.meets_deliver (Connection.most_pos hasked hlimit) rfl

/-- Of bytes that were met, some can be kept back for the next read. -/
theorem meets_take {asked : Nat} (hasked : 0 < asked) {o : Except StreamError (List UInt8)}
    {before after : Flow} (h : Flow.Meets o before after) :
    Flow.Meets (o.map (·.take asked)) before
      (Flow.ofBytes ((fetched o).drop asked) ++ after) := by
  obtain ⟨n, rfl⟩ := Nat.exists_eq_succ_of_ne_zero (Nat.pos_iff_ne_zero.1 hasked)
  cases o with
  | error e => exact h
  | ok bytes =>
    cases bytes with
    | nil => exact h
    | cons b bs =>
      show before = Flow.ofBytes (b :: bs.take n) ++ (Flow.ofBytes (bs.drop n) ++ after)
      rw [← List.append_assoc, ← Flow.ofBytes_append, List.cons_append, List.take_append_drop]
      exact h

/-- What a read of a reader meets, in whichever of the three ways it is served. -/
theorem meets_read {asked : Nat} (hasked : 0 < asked) {r : Reader} (hr : r.Ready) :
    Flow.Meets (r.read asked).1 r.flow (r.read asked).2.flow := by
  by_cases h : r.ahead = []
  · have hflow : r.flow = Arrival.flow r.connection.arrivals := by rw [flow, h]; rfl
    by_cases hc : r.capacity ≤ asked
    · rw [read_straight h hc, hflow, flow, h]
      exact meets_connection_read hasked hr
    · have hlt : asked < r.capacity := Nat.not_le.1 hc
      have hpos : 0 < r.capacity := Nat.lt_of_le_of_lt (Nat.zero_le asked) hlt
      -- What was fetched beyond what was asked for comes first in the flow after it.
      rw [read_refill h hlt, hflow, flow]
      exact meets_take hasked (meets_connection_read hpos hr)
  · obtain ⟨b, bs, hb⟩ := List.exists_cons_of_ne_nil h
    have key : Flow.Meets (.ok r.ahead) r.flow (Arrival.flow r.connection.arrivals) := by
      rw [flow, hb]
      rfl
    rw [read_served h]
    exact meets_take hasked key

/-! ## Fields -/

theorem flow_complete (field : Field) (got missing : Nat) (newest : List UInt8) {r : Reader}
    (hr : r.Ready) :
    (r.complete field got missing newest).1 =
        (Flow.readField field got missing r.flow).1.map (newest.reverse ++ ·) ∧
      (r.complete field got missing newest).2.flow =
        (Flow.readField field got missing r.flow).2 := by
  -- In each case of `complete`, what its first read meets tells the flow before it from the flow
  -- after it, for which the induction hypothesis speaks.
  fun_induction complete field got missing newest r with
  | case1 => simp [Flow.readField, Except.map]
  | case2 got missing newest r hm r' h =>
    have key := meets_read (Nat.pos_of_ne_zero hm) hr
    obtain ⟨n, rfl⟩ := Nat.exists_eq_succ_of_ne_zero hm
    rw [h] at key
    rcases key with ⟨hflow, hflow'⟩ | hflow
    · rw [hflow, Flow.readField]
      exact ⟨rfl, hflow'⟩
    · rw [hflow, Flow.readField]
      exact ⟨rfl, rfl⟩
  | case3 got missing newest r hm b bytes r' h ih =>
    have key := meets_read (Nat.pos_of_ne_zero hm) hr
    have hr' := ready_of_advance (.read missing r) hr
    have hl := (length_read_ok h).2
    rw [h] at key hr'
    have hkey : r.flow = Flow.ofBytes (b :: bytes) ++ r'.flow := key
    rw [hkey, Flow.readField_ofBytes field got hl, (ih hr').1, (ih hr').2]
    cases (Flow.readField field (got + (b :: bytes).length) (missing - (b :: bytes).length)
      r'.flow).1 <;> simp [Except.map]
  | case4 got missing newest r hm e r' h hi ih =>
    have key := meets_read (Nat.pos_of_ne_zero hm) hr
    have hr' := ready_of_advance (.read missing r) hr
    rw [h] at key hr'
    have hkey : r.flow = if e.isInterruption then r'.flow else .halt (some e) :: r'.flow := key
    rw [if_pos hi] at hkey
    rw [hkey]
    exact ih hr'
  | case5 got missing newest r hm e r' h hi =>
    have key := meets_read (Nat.pos_of_ne_zero hm) hr
    rw [h] at key
    have hkey : r.flow = if e.isInterruption then r'.flow else .halt (some e) :: r'.flow := key
    obtain ⟨n, rfl⟩ := Nat.exists_eq_succ_of_ne_zero hm
    rw [if_neg hi] at hkey
    rw [hkey, Flow.readField]
    exact ⟨rfl, rfl⟩

/-- A field is a matter of the flow alone. -/
theorem readField_flow (field : Field) (size : Nat) {r : Reader} (hr : r.Ready) :
    (r.readField field size).1 = (Flow.readField field 0 size r.flow).1 ∧
      (r.readField field size).2.flow = (Flow.readField field 0 size r.flow).2 := by
  have key := flow_complete field 0 size [] hr
  refine ⟨?_, key.2⟩
  rw [readField, key.1]
  cases (Flow.readField field 0 size r.flow).1 <;> rfl

end Reader

end RemoteSearch
