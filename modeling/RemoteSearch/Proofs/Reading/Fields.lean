import Mathlib.Algebra.Ring.Nat
import RemoteSearch.Proofs.Reading.Ends
import RemoteSearch.Proofs.Reading.Flow

set_option autoImplicit false

/-! # What comes of a field

A stream brings bytes until it halts: until it ends, or fails for any other cause than an
interruption. If the bytes before the halt are enough for a field, the field is filled with the
first of them, and the reader stands right behind these. If they are not, the field is cut short:
all of them are taken, and with them what halts the stream, which decides how the field fails
(`CutShort`). Every read on the way asks for all that is missing still (`Asking`). These facts
together are the contract of a field (`FieldRead`, `readField_filled_or_cut`).

One read passes some bytes, or an interruption, or meets the halt (`Takes`). What becomes of the
field from there on is the same for what is left of it, and so the contract goes from read to read
(`Filling.behind`).
-/

namespace RemoteSearch

/-! ## Up to the halt -/

namespace Arrival

/-- The bytes that come before the stream halts. -/
def bytesBeforeHalt (as : List Arrival) : List UInt8 := bytes (as.takeWhile (·.Delivers))

/-- The arrivals from the first one on that halts the stream. -/
def fromHalt (as : List Arrival) : List Arrival := as.dropWhile (·.Delivers)

theorem bytes_eq_append (as : List Arrival) :
    bytes as = bytesBeforeHalt as ++ bytes (fromHalt as) := by
  rw [bytesBeforeHalt, fromHalt, ← bytes_append, List.takeWhile_append_dropWhile]

/-- Of the first arrivals these bytes are gone, with no halt among them, and the second are left. -/
structure Past (front : List UInt8) (as as' : List Arrival) : Prop where
  bytes : bytesBeforeHalt as = front ++ bytesBeforeHalt as'
  halt : fromHalt as' = fromHalt as

theorem Past.trans {front more : List UInt8} {as as₁ as₂ : List Arrival} (h : Past front as as₁)
    (k : Past more as₁ as₂) : Past (front ++ more) as as₂ :=
  ⟨by rw [h.bytes, k.bytes, List.append_assoc], k.halt.trans h.halt⟩

theorem Past.bytes_eq {front : List UInt8} {as as' : List Arrival} (h : Past front as as') :
    Arrival.bytes as = front ++ Arrival.bytes as' := by
  rw [bytes_eq_append, h.bytes, ← h.halt, List.append_assoc, ← bytes_eq_append]

/-- Bytes and interruptions come before the halt. -/
theorem past_of_delivers {a : Arrival} (h : a.Delivers) (as : List Arrival) :
    Past (bytes [a]) (a :: as) as := by
  have hbytes : bytes (a :: as.takeWhile (·.Delivers)) =
      bytes [a] ++ bytes (as.takeWhile (·.Delivers)) := bytes_append [a] _
  constructor
  · rw [bytesBeforeHalt, List.takeWhile_cons_of_pos (by simpa using h), hbytes, bytesBeforeHalt]
  · rw [fromHalt, fromHalt, List.dropWhile_cons_of_pos (by simpa using h)]

/-- Anything else is the halt. -/
theorem halt_of_not_delivers {a : Arrival} (h : ¬ a.Delivers) (as : List Arrival) :
    bytesBeforeHalt (a :: as) = [] ∧ fromHalt (a :: as) = a :: as := by
  constructor
  · rw [bytesBeforeHalt, List.takeWhile_cons_of_neg (by simpa using h), bytes]
  · rw [fromHalt, List.dropWhile_cons_of_neg (by simpa using h)]

/-- What a read takes from arrivals, and what it leaves of them. -/
inductive Takes : Except StreamError (List UInt8) → List Arrival → List Arrival → Prop
  | bytes {b : UInt8} {bs : List UInt8} {as as' : List Arrival} (past : Past (b :: bs) as as') :
      Takes (.ok (b :: bs)) as as'
  | interruption {e : StreamError} {as as' : List Arrival} (retry : e.isInterruption = true)
      (past : Past [] as as') : Takes (.error e) as as'
  | nothing {as as' : List Arrival} (empty : bytesBeforeHalt as = []) (halt : fromHalt as = [])
      (left : as' = []) : Takes (.ok []) as as'
  | ended {as as' : List Arrival} (empty : bytesBeforeHalt as = [])
      (halt : fromHalt as = .ended :: as') : Takes (.ok []) as as'
  | failure {e : StreamError} {as as' : List Arrival} (final : e.isInterruption = false)
      (empty : bytesBeforeHalt as = []) (halt : fromHalt as = .failure e :: as') :
      Takes (.error e) as as'

/-- What brings no bytes and does not halt the stream makes no difference to a read. -/
theorem Takes.behind {o : Except StreamError (List UInt8)} {as as₁ as' : List Arrival}
    (h : Past [] as as₁) (k : Takes o as₁ as') : Takes o as as' := by
  cases k with
  | bytes past => exact .bytes (h.trans past)
  | interruption retry past => exact .interruption retry (h.trans past)
  | nothing empty halt left =>
    exact .nothing (h.bytes.trans empty) (h.halt.symm.trans halt) left
  | ended empty halt => exact .ended (h.bytes.trans empty) (h.halt.symm.trans halt)
  | failure final empty halt =>
    exact .failure final (h.bytes.trans empty) (h.halt.symm.trans halt)

theorem takes_deliver {most : Nat} (hmost : 0 < most) {as as' : List Arrival}
    {o : Except StreamError (List UInt8)} (h : deliver most as = (o, as')) : Takes o as as' := by
  fun_induction deliver most as with
  | case1 =>
    cases h
    exact .nothing rfl rfl rfl
  | case2 rest ih => exact (ih h).behind (past_of_delivers (a := data []) trivial rest)
  | case3 b bs rest =>
    cases h
    obtain ⟨n, rfl⟩ := Nat.exists_eq_succ_of_ne_zero (Nat.pos_iff_ne_zero.1 hmost)
    refine .bytes ⟨?_, rfl⟩
    show b :: bs ++ bytesBeforeHalt rest =
      (b :: bs).take (n + 1) ++ ((b :: bs).drop (n + 1) ++ bytesBeforeHalt rest)
    rw [← List.append_assoc, List.take_append_drop]
  | case4 e rest =>
    cases h
    cases he : e.isInterruption with
    | true => exact .interruption he (past_of_delivers (a := failure e) he as')
    | false =>
      have hhalts : ¬ (failure e).Delivers := by simp [Delivers, he]
      obtain ⟨hempty, hhalt⟩ := halt_of_not_delivers hhalts as'
      exact .failure he hempty hhalt
  | case5 rest =>
    cases h
    obtain ⟨hempty, hhalt⟩ := halt_of_not_delivers (a := ended) id as'
    exact .ended hempty hhalt

end Arrival

theorem Reader.takes_read {r : Reader} (h : r.Unbuffered) (hr : r.Ready) {asked : Nat}
    (hasked : asked ≠ 0) {o : Except StreamError (List UInt8)} {r' : Reader}
    (hread : r.read asked = (o, r')) :
    Arrival.Takes o r.connection.arrivals r'.connection.arrivals := by
  rw [h.read_eq] at hread
  cases hread
  exact Arrival.takes_deliver (Connection.most_pos (Nat.pos_of_ne_zero hasked) hr) rfl

/-! ## Filled or cut short -/

/-- How a field of the given size fails if the stream brings so many bytes and then halts. It is
told by the arrivals from the halt on, and all but the first of these are left. -/
inductive CutShort (field : Field) (size got : Nat) :
    List Arrival → Failure → List Arrival → Prop
  | exhausted : CutShort field size got [] (.shortRead field size got) []
  | ended (later : List Arrival) :
      CutShort field size got (.ended :: later) (.shortRead field size got) later
  | timeout {e : StreamError} (kind : e.kind = .wouldBlock ∨ e.kind = .timedOut)
      (later : List Arrival) :
      CutShort field size got (.failure e :: later) (.timeout .reading) later
  | failed {e : StreamError} (final : e.kind ≠ .interrupted)
      (kind : ¬ (e.kind = .wouldBlock ∨ e.kind = .timedOut)) (later : List Arrival) :
      CutShort field size got (.failure e :: later) (.stream e) later

namespace CutShort

variable {field : Field} {size got : Nat}

theorem failure {e : StreamError} (final : e.isInterruption = false) (later : List Arrival) :
    CutShort field size got (.failure e :: later) (.ofCall .reading e) later := by
  rw [Failure.ofCall_eq]
  by_cases hkind : e.kind = .wouldBlock ∨ e.kind = .timedOut
  · rw [if_pos hkind]
    exact .timeout hkind later
  · rw [if_neg hkind]
    exact .failed (of_decide_eq_false final) hkind later

/-- What halts the stream brings no bytes. -/
theorem bytes_eq {as as' : List Arrival} {e : Failure} (h : CutShort field size got as e as') :
    Arrival.bytes as = Arrival.bytes as' := by
  cases h with
  | exhausted | ended | timeout | failed => rfl

end CutShort

/-- What comes of a field of which some bytes are there, given newest first, and others are missing:
the outcome, and what is left of the arrivals. -/
inductive Filling (field : Field) (got missing : Nat) (newest : List UInt8) (as : List Arrival) :
    Except Failure (List UInt8) → List Arrival → Prop
  | filled {bytes : List UInt8} {as' : List Arrival} (size : bytes.length = missing)
      (past : Arrival.Past bytes as as') :
      Filling field got missing newest as (.ok (newest.reverse ++ bytes)) as'
  | short {e : Failure} {as' : List Arrival}
      (few : (Arrival.bytesBeforeHalt as).length < missing)
      (halt : CutShort field (got + missing) (got + (Arrival.bytesBeforeHalt as).length)
        (Arrival.fromHalt as) e as') :
      Filling field got missing newest as (.error e) as'

namespace Filling

section

variable {field : Field} {got missing : Nat} {newest : List UInt8} {as : List Arrival}

/-- Bytes that are taken are there from then on, and are missing no more. -/
theorem behind {front : List UInt8} {as₁ as' : List Arrival} {o : Except Failure (List UInt8)}
    (h : Arrival.Past front as as₁) (hfront : front.length ≤ missing)
    (k : Filling field (got + front.length) (missing - front.length) (front.reverseAux newest) as₁
      o as') : Filling field got missing newest as o as' := by
  cases k with
  | @filled bytes _ size past =>
    have hnewest : (front.reverseAux newest).reverse ++ bytes =
        newest.reverse ++ (front ++ bytes) := by
      rw [List.reverseAux_eq, List.reverse_append, List.reverse_reverse, List.append_assoc]
    rw [hnewest]
    refine .filled ?_ (h.trans past)
    rw [List.length_append]
    omega
  | short few halt =>
    have hlength : (Arrival.bytesBeforeHalt as).length =
        front.length + (Arrival.bytesBeforeHalt as₁).length := by
      rw [h.bytes, List.length_append]
    -- The size of the whole field stays the same, and so does what the stream brings of it.
    have hsize : got + front.length + (missing - front.length) = got + missing := by omega
    rw [h.halt, hsize, Nat.add_assoc, ← hlength] at halt
    exact .short (by omega) halt

/-- With no bytes before it, the halt decides at once. -/
theorem halted {e : Failure} {as' : List Arrival} (hm : missing ≠ 0)
    (empty : Arrival.bytesBeforeHalt as = [])
    (halt : CutShort field (got + missing) got (Arrival.fromHalt as) e as') :
    Filling field got missing newest as (.error e) as' := by
  refine .short ?_ ?_
  · rw [empty]
    exact Nat.pos_of_ne_zero hm
  · rw [empty]
    exact halt

end

variable {field : Field} {size : Nat} {as as' : List Arrival}

/-- A field is filled if and only if there are enough bytes for it. -/
theorem ok_iff {o : Except Failure (List UInt8)} (h : Filling field 0 size [] as o as') :
    (∃ bytes, o = .ok bytes) ↔ size ≤ (Arrival.bytesBeforeHalt as).length := by
  cases h with
  | filled hsize past =>
    refine ⟨fun _ => ?_, fun _ => ⟨_, rfl⟩⟩
    rw [past.bytes, List.length_append, hsize]
    exact Nat.le_add_right _ _
  | short few halt => exact ⟨nofun, fun hle => absurd hle (Nat.not_le.2 few)⟩

theorem of_ok {bytes : List UInt8} (h : Filling field 0 size [] as (.ok bytes) as') :
    bytes.length = size ∧ Arrival.Past bytes as as' := by
  cases h with
  | filled hsize past => exact ⟨hsize, past⟩

theorem of_error {e : Failure} (h : Filling field 0 size [] as (.error e) as') :
    CutShort field size (Arrival.bytesBeforeHalt as).length (Arrival.fromHalt as) e as' := by
  cases h with
  | short few halt => rwa [Nat.zero_add, Nat.zero_add] at halt

end Filling

theorem Reader.filling_complete (field : Field) (got missing : Nat) (newest : List UInt8)
    {r : Reader} (h : r.Unbuffered) (hr : r.Ready) :
    Filling field got missing newest r.connection.arrivals
      (r.complete field got missing newest).1
      (r.complete field got missing newest).2.connection.arrivals := by
  -- Each case of `complete` is one way in which its first read can go.
  fun_induction complete field got missing newest r with
  | case1 got newest r =>
    have key : Filling field got 0 newest r.connection.arrivals (.ok (newest.reverse ++ []))
        r.connection.arrivals := .filled rfl ⟨rfl, rfl⟩
    rwa [List.append_nil] at key
  | case2 got missing newest r hm r' hread =>
    cases takes_read h hr hm hread with
    | nothing empty halt left =>
      refine .halted hm empty ?_
      rw [halt, left]
      exact .exhausted
    | ended empty halt =>
      refine .halted hm empty ?_
      rw [halt]
      exact .ended _
  | case3 got missing newest r hm b bs r' hread ih =>
    have hadvance := Advance.read missing r
    rw [hread] at hadvance
    cases takes_read h hr hm hread with
    | bytes past =>
      exact .behind past (length_read_ok hread).2
        (ih (h.of_advance hadvance) (ready_of_advance hadvance hr))
  | case4 got missing newest r hm e r' hread hi ih =>
    have hadvance := Advance.read missing r
    rw [hread] at hadvance
    cases takes_read h hr hm hread with
    | interruption retry past =>
      exact .behind past (Nat.zero_le missing)
        (ih (h.of_advance hadvance) (ready_of_advance hadvance hr))
    | failure final =>
      rw [hi] at final
      cases final
  | case5 got missing newest r hm e r' hread hi =>
    cases takes_read h hr hm hread with
    | interruption retry => exact absurd retry hi
    | failure final empty halt =>
      refine .halted hm empty ?_
      rw [halt]
      exact .failure final _

/-! ## What is asked for -/

/-- Reads made one after the other, of which each asks for all that is missing still. -/
inductive Asking : Nat → List Call → Prop
  | done {missing : Nat} : Asking missing []
  | read {missing : Nat} (wanting : missing ≠ 0) {o : Except StreamError Nat} {later : List Call}
      (onward : Asking (missing - (Call.read missing o).taken) later) :
      Asking missing (.read missing o :: later)

/-- At any time, what is missing is what was missing at first less what was taken since. -/
theorem Asking.onward {missing : Nat} {earlier later : List Call}
    (h : Asking missing (earlier ++ later)) :
    Asking (missing - (earlier.map Call.taken).sum) later := by
  induction earlier generalizing missing with
  | nil => exact h
  | cons call earlier ih =>
    cases h with
    | read wanting onward =>
      have key := ih onward
      rwa [Nat.sub_sub] at key

namespace Reader

variable {r : Reader}

/-- A read that asks for all that is missing may go before others that ask for what it leaves. -/
theorem asking_of_read (h : r.Unbuffered) {missing : Nat} (hm : missing ≠ 0)
    {o : Except StreamError (List UInt8)} {r' : Reader} (hread : r.read missing = (o, r'))
    {after : Connection} {later : List Call}
    (hlater : after.history = r'.connection.history ++ later)
    (hasking : Asking (missing - (Call.read missing (o.map List.length)).taken) later) :
    ∃ reads, after.history = r.connection.history ++ reads ∧ Asking missing reads := by
  have hhistory := h.history_read missing
  rw [hread] at hhistory
  refine ⟨.read missing (o.map List.length) :: later, ?_, .read hm hasking⟩
  rw [hlater, hhistory, List.append_assoc, List.singleton_append]

theorem asking_complete (field : Field) (got missing : Nat) (newest : List UInt8)
    (h : r.Unbuffered) :
    ∃ reads, (r.complete field got missing newest).2.connection.history =
        r.connection.history ++ reads ∧ Asking missing reads := by
  fun_induction complete field got missing newest r with
  | case1 got newest r => exact ⟨[], (List.append_nil _).symm, .done⟩
  | case2 got missing newest r hm r' hread =>
    exact asking_of_read h hm hread (List.append_nil _).symm .done
  | case3 got missing newest r hm b bs r' hread ih =>
    have hadvance := Advance.read missing r
    rw [hread] at hadvance
    obtain ⟨later, hlater, hasking⟩ := ih (h.of_advance hadvance)
    exact asking_of_read h hm hread hlater hasking
  | case4 got missing newest r hm e r' hread hi ih =>
    have hadvance := Advance.read missing r
    rw [hread] at hadvance
    obtain ⟨later, hlater, hasking⟩ := ih (h.of_advance hadvance)
    exact asking_of_read h hm hread hlater hasking
  | case5 got missing newest r hm e r' hread hi =>
    exact asking_of_read h hm hread (List.append_nil _).symm .done

end Reader

/-! ## The contract -/

/-- What a field of the given size comes to on a connection, with the connection after it and the
reads that were made in between. -/
structure FieldRead (field : Field) (size : Nat) (c : Connection)
    (outcome : Except Failure (List UInt8)) (c' : Connection) (reads : List Call) : Prop where
  /-- The field is filled if and only if enough bytes come before the halt. -/
  ok_iff : (∃ bytes, outcome = .ok bytes) ↔ size ≤ (Arrival.bytesBeforeHalt c.arrivals).length
  /-- Then it holds the first of these bytes, exactly they are taken, and the others are left. -/
  filled : ∀ bytes, outcome = .ok bytes →
    bytes = (Arrival.bytesBeforeHalt c.arrivals).take size ∧ c'.taken = c.taken + size ∧
      Arrival.bytesBeforeHalt c'.arrivals = (Arrival.bytesBeforeHalt c.arrivals).drop size ∧
      Arrival.fromHalt c'.arrivals = Arrival.fromHalt c.arrivals
  /-- Else all of these bytes are taken, and what halts the stream is used up and is the cause of
  the failure. -/
  short : ∀ e, outcome = .error e →
    c'.taken = c.taken + (Arrival.bytesBeforeHalt c.arrivals).length ∧
      CutShort field size (Arrival.bytesBeforeHalt c.arrivals).length
        (Arrival.fromHalt c.arrivals) e c'.arrivals
  /-- No calls but these reads are made. -/
  history : c'.history = c.history ++ reads
  /-- Each of them asks for exactly the bytes that are missing when it is made. -/
  asked : ∀ earlier call later, reads = earlier ++ call :: later →
    (earlier.map Call.taken).sum < size ∧
      ∃ o, call = .read (size - (earlier.map Call.taken).sum) o
  /-- For a field without bytes nothing is done. -/
  empty : size = 0 → outcome = .ok [] ∧ c' = c ∧ reads = []

namespace Reader

/-- The contract of a field that is read from a connection directly, whatever the connection has in
store and whatever was done with it before. Either enough bytes come before the stream halts, and
the field is filled with exactly the next of them; or all that come are taken and what halts the
stream as well, and the field fails for that. Each read asks for exactly what is missing, and where
nothing is there are no reads. -/
theorem readField_filled_or_cut (field : Field) (size : Nat) {c : Connection}
    (hlimit : c.readLimit ≠ some 0) :
    ∃ outcome c' reads, (direct c).readField field size = (outcome, direct c') ∧
      FieldRead field size c outcome c' reads := by
  have hdirect : (direct c).Unbuffered := .direct c
  have hadvance := Advance.readField field size (direct c)
  obtain ⟨reads, hcalls, hasking⟩ := asking_complete field 0 size [] hdirect
  -- The reader stays a direct one, so that its connection is all there is to say of it.
  obtain ⟨o, c', hread, hfilling, htaken, hhistory⟩ : ∃ o c',
      (direct c).readField field size = (o, direct c') ∧
      Filling field 0 size [] c.arrivals o c'.arrivals ∧
      c'.taken + (Arrival.bytes c'.arrivals).length =
        c.taken + (Arrival.bytes c.arrivals).length ∧
      c'.history = c.history ++ reads :=
    ⟨_, _, Prod.ext rfl (hdirect.of_advance hadvance).eq_direct,
      filling_complete field 0 size [] hdirect hlimit, hadvance.taken, hcalls⟩
  refine ⟨o, c', reads, hread, hfilling.ok_iff, ?_, ?_, hhistory, ?_, ?_⟩
  · rintro bytes rfl
    obtain ⟨hsize, hpast⟩ := hfilling.of_ok
    rw [hpast.bytes_eq, List.length_append, hsize] at htaken
    refine ⟨?_, by omega, ?_, hpast.halt⟩
    · rw [hpast.bytes, ← hsize, List.take_left]
    · rw [hpast.bytes, ← hsize, List.drop_left]
  · rintro e rfl
    have hcut := hfilling.of_error
    rw [Arrival.bytes_eq_append c.arrivals, List.length_append, hcut.bytes_eq] at htaken
    exact ⟨by omega, hcut⟩
  · rintro earlier call later rfl
    cases hasking.onward with
    | read wanting => exact ⟨by omega, _, rfl⟩
  · rintro rfl
    rw [readField, complete_zero] at hread
    cases hread
    cases hasking with
    | done => exact ⟨rfl, rfl, rfl⟩
    | read wanting => exact absurd rfl wanting

/-- A stream in pieces, with interruptions before and between them, that runs out of time after five
bytes: a field of four is filled, and one of seven is cut short. -/
theorem readField_filled_or_cut_till_timeout :
    let interrupted : Arrival := .failure (.ofKind .interrupted)
    let c : Connection :=
      { arrivals := [interrupted, .data [1, 2, 3], .data [], interrupted, .data [4, 5],
          .failure ⟨.timedOut, "late"⟩, .data [6]]
        readLimit := some 2 }
    let front := (direct c).readField .needle 4
    let whole := (direct c).readField .needle 7
    c.readLimit ≠ some 0 ∧
      (front.1 = .ok [1, 2, 3, 4] ∧ front.2.connection.taken = 4) ∧
      whole.1 = .error (.timeout .reading) ∧ whole.2.connection.taken = 5 ∧
        whole.2.connection.arrivals = [.data [6]] := by
  intro interrupted c front whole
  have hlimit : c.readLimit ≠ some 0 := by decide
  refine ⟨hlimit, ?_, ?_⟩
  · obtain ⟨o, c', reads, hread, hfield⟩ := readField_filled_or_cut .needle 4 hlimit
    obtain ⟨bytes, rfl⟩ := hfield.ok_iff.2 (by decide)
    obtain ⟨hbytes, htaken, -⟩ := hfield.filled bytes rfl
    have hfront : front = (.ok bytes, direct c') := hread
    rw [hfront, hbytes]
    exact ⟨rfl, htaken⟩
  · obtain ⟨o, c', reads, hread, hfield⟩ := readField_filled_or_cut .needle 7 hlimit
    have hwhole : whole = (o, direct c') := hread
    rw [hwhole]
    cases o with
    | ok bytes => exact absurd (hfield.ok_iff.1 ⟨bytes, rfl⟩) (by decide)
    | error e =>
      obtain ⟨htaken, hcut⟩ := hfield.short e rfl
      have hhalt : Arrival.fromHalt c.arrivals = [.failure ⟨.timedOut, "late"⟩, .data [6]] := rfl
      have hlate : e = .timeout .reading ∧ c'.arrivals = [.data [6]] := by
        rw [hhalt] at hcut
        generalize c'.arrivals = left at hcut ⊢
        cases hcut with
        | timeout => exact ⟨rfl, rfl⟩
        | failed final kind => exact absurd (.inr rfl) kind
      exact ⟨congrArg Except.error hlate.1, htaken, hlate.2⟩

end Reader

end RemoteSearch
