import RemoteSearch.Proofs.Response.Grammar

set_option autoImplicit false

/-! # Lengths that are refused

A reader does not take every length it is told. A size beyond its limit is refused, and so is a
needle of a negative number of characters. It looks at a length before it turns to the field: it
never asks the connection for more than the limit (or for a word, where the limit is less), and
where it refuses a length it stops right behind it.

`Refusal` says which starts of a record are refused and with what failure. A response is refused if
and only if it comes to such a start after records that are taken (`refused_exactly`). A response in
a mode that stops at the first occurrence ends with its first record, so there the start has to come
first; what stands behind a first record is never looked at (`length_after_first_unread`).
-/

namespace RemoteSearch

/-! ## What is asked for -/

/-- A read that asks for no more than the limit. -/
def Call.AsksWithin (limit : Nat) : Call → Prop
  | read asked _ => asked ≤ limit
  | _ => False

namespace Reader

/-- An unbuffered reader that since it stood at the connection has made no calls but reads which ask
for no more than the limit. -/
structure Asks (limit : Nat) (c : Connection) (r : Reader) : Prop where
  unbuffered : r.Unbuffered
  reads : ∃ reads, r.connection.history = c.history ++ reads ∧
    ∀ call ∈ reads, call.AsksWithin limit

namespace Asks

theorem direct (limit : Nat) (c : Connection) : Asks limit c (.direct c) :=
  ⟨.direct c, [], (List.append_nil _).symm, nofun⟩

theorem read {limit asked : Nat} (hasked : asked ≤ limit) {c : Connection} {r : Reader}
    (h : Asks limit c r) : Asks limit c (r.read asked).2 := by
  have hunbuffered := h.unbuffered.of_advance (.read asked r)
  obtain ⟨reads, hhistory, hwithin⟩ := h.reads
  refine ⟨hunbuffered, reads ++ [.read asked ((r.read asked).1.map List.length)], ?_, ?_⟩
  · rw [h.unbuffered.history_read, hhistory, List.append_assoc]
  · intro other hother
    rcases List.mem_append.1 hother with hold | hnew
    · exact hwithin other hold
    · rw [List.mem_singleton.1 hnew]
      exact hasked

end Asks

end Reader

/-- A response is read by reads that ask for no more than the limit, or for a word. -/
theorem Dialect.asks_readOccurrences (d : Dialect) (mode : Mode) (c : Connection) :
    Reader.Asks (max 4 d.fieldLimit) c (d.readOccurrences mode (.direct c)).2 := by
  refine d.readOccurrences_keeps mode ?_ (.direct _ c)
  intro field size r hsize h
  exact Reader.complete_keeps_within (fun asked _ hasked r h => h.read hasked) field hsize h

/-! ## Lengths -/

namespace Dialect

variable (d : Dialect)

theorem allow_eq_error_iff (field : Field) (size : Nat) (e : Failure) :
    d.allow field size = .error e ↔
      d.fieldLimit < size ∧ e = .fieldTooLarge field size d.fieldLimit := by
  unfold allow
  split
  · next h => simp [h, eq_comm]
  · next h => simp [h]

theorem headerOf_eq_error_iff (w : Int32) (e : Failure) :
    d.headerOf w = .error e ↔
      0 ≤ w ∧ d.fieldLimit < w.toNatClampNeg ∧
        e = .fieldTooLarge .dataSize w.toNatClampNeg d.fieldLimit := by
  unfold headerOf
  by_cases h : w < 0
  · rw [if_pos h]
    exact iff_of_false nofun fun hw => Int32.not_le.2 h hw.1
  · rw [if_neg h, ← d.allow_eq_error_iff .dataSize]
    have hw : 0 ≤ w := Int32.not_lt.1 h
    cases d.allow .dataSize w.toNatClampNeg <;> simp [Except.map, hw]

theorem needleSize_eq_error_iff (w : Int32) (e : Failure) :
    d.needleSize w = .error e ↔
      (w < 0 ∧ e = .protocol (.negativeNeedleLength w)) ∨
        (0 ≤ w ∧ d.fieldLimit < 4 * w.toNatClampNeg ∧
          e = .fieldTooLarge .needle (4 * w.toNatClampNeg) d.fieldLimit) := by
  unfold needleSize
  by_cases h : w < 0
  · have hw : ¬ 0 ≤ w := Int32.not_le.2 h
    simp [h, hw, eq_comm]
  · have hw : 0 ≤ w := Int32.not_lt.1 h
    rw [if_neg h, d.allow_eq_error_iff .needle, Nat.mul_comm]
    simp [h, hw, Wire.unitSize]

/-- Sizes are those that 64-bit words come to, which hold four times any length. -/
theorem sizes_of_words {w : Int32} (hw : 0 ≤ w) :
    d.headerOf w = (d.allow .dataSize w.toInt64.toUInt64.toNat).map .record ∧
      d.needleSize w = d.allow .needle (w.toInt64.toUInt64 * 4).toNat ∧
      w.toInt64.toUInt64.toNat * 4 < UInt64.size := by
  have hneg : ¬ w < 0 := Int32.not_lt.2 hw
  have hlt := w.toNatClampNeg_lt
  have hword : w.toInt64.toUInt64.toNat = w.toNatClampNeg := by
    have hle : 0 ≤ w.toInt64 := by
      rw [Int64.le_iff_toInt_le, Int32.toInt_toInt64]
      exact Int32.le_iff_toInt_le.1 hw
    rw [Int64.toNat_toUInt64_of_le hle, Int32.toNatClampNeg_toInt64]
  have hsmall : w.toInt64.toUInt64.toNat * 4 < UInt64.size := by
    rw [hword]
    simp only [UInt64.size]
    omega
  refine ⟨?_, ?_, hsmall⟩
  · rw [headerOf, if_neg hneg, hword]
  · rw [needleSize, if_neg hneg, UInt64.toNat_mul, hword]
    congr 1
    rw [hword] at hsmall
    exact (Nat.mod_eq_of_lt hsmall).symm

end Dialect

namespace Response

/-- The start of a record up to a length that is refused, and the failure with which it is. -/
inductive Refusal (d : Dialect) (mode : Mode) : List UInt8 → Failure → Prop
  /-- The size of the data is beyond the limit. -/
  | data {size : Int32} (nonneg : 0 ≤ size) (large : d.fieldLimit < size.toNatClampNeg) :
      Refusal d mode (d.order.encodeSigned size)
        (.fieldTooLarge .dataSize size.toNatClampNeg d.fieldLimit)
  /-- The needle is asked for, and its size is beyond the limit. -/
  | needle {data : List UInt8} {length : Int32} (asked : mode.hasNeedle = true)
      (within : data.length ≤ min d.fieldLimit (2 ^ 31 - 1)) (nonneg : 0 ≤ length)
      (large : d.fieldLimit < 4 * length.toNatClampNeg) :
      Refusal d mode (count d.order data.length ++ (data ++ d.order.encodeSigned length))
        (.fieldTooLarge .needle (4 * length.toNatClampNeg) d.fieldLimit)
  /-- The needle is asked for, and has a negative number of characters. -/
  | negative {data : List UInt8} {length : Int32} (asked : mode.hasNeedle = true)
      (within : data.length ≤ min d.fieldLimit (2 ^ 31 - 1)) (negative : length < 0) :
      Refusal d mode (count d.order data.length ++ (data ++ d.order.encodeSigned length))
        (.protocol (.negativeNeedleLength length))

end Response

/-! ## What is refused -/

/-- The bytes are refused with the failure, whatever comes after them, and nothing more is taken. -/
def RefusesAs {α : Type} (f : Reader → Except Failure α × Reader) (bytes : List UInt8)
    (e : Failure) : Prop :=
  ∀ (r : Reader) (after : Flow), r.Ready → r.flow = Flow.ofBytes bytes ++ after →
    (f r).1 = .error e ∧ (f r).2.flow = after

section

variable {α β : Type} {f : Reader → Except Failure α × Reader}
  {g : α → Reader → Except Failure β × Reader} {bytes more : List UInt8} {e : Failure}

theorem RefusesAs.error (e : Failure) :
    RefusesAs (fun r => ((.error e : Except Failure α), r)) [] e :=
  fun _ _ _ hflow => ⟨rfl, hflow⟩

/-- A refusal is the end. -/
theorem RefusesAs.andThen (h : RefusesAs f bytes e) :
    RefusesAs (fun r => RemoteSearch.andThen (f r) g) bytes e := by
  intro r after hr hflow
  obtain ⟨ho, hafter⟩ := h r after hr hflow
  have he : f r = (.error e, (f r).2) := Prod.ext ho rfl
  simp only []
  rw [he]
  exact ⟨rfl, hafter⟩

/-- A refusal can come after what is read. -/
theorem ReadsAs.andThen_refuses {a : α} (hf : ReadsAs f bytes a) (hg : RefusesAs (g a) more e) :
    RefusesAs (fun r => RemoteSearch.andThen (f r) g) (bytes ++ more) e := by
  intro r after hr hflow
  rw [Flow.ofBytes_append, List.append_assoc] at hflow
  obtain ⟨ho, hr', hflow'⟩ := hf r _ hr hflow
  have he : f r = (.ok a, (f r).2) := Prod.ext ho rfl
  simp only []
  rw [he, andThen_ok]
  exact hg _ after hr' hflow'

/-- What is read can be refused for its value, without anything more. -/
theorem ReadsAs.refused {a : α} (hf : ReadsAs f bytes a) (hg : ∀ r, g a r = (.error e, r)) :
    RefusesAs (fun r => RemoteSearch.andThen (f r) g) bytes e := by
  have key : RefusesAs (fun r => RemoteSearch.andThen (f r) g) (bytes ++ []) e := by
    refine hf.andThen_refuses ?_
    rw [funext hg]
    exact .error e
  rwa [List.append_nil] at key

end

namespace Dialect

variable (d : Dialect) {mode : Mode}

theorem refusesAs_readHeader {w : Int32} {e : Failure} (h : d.headerOf w = .error e) :
    RefusesAs d.readHeader (d.order.encodeSigned w) e := by
  rw [funext d.readHeader_eq]
  refine (d.readsAs_readWord .dataSize w).refused fun r => ?_
  rw [h]

theorem refusesAs_readNeedle {w : Int32} {e : Failure} (h : d.needleSize w = .error e) :
    RefusesAs d.readNeedle (d.order.encodeSigned w) e := by
  rw [funext d.readNeedle_eq]
  refine (d.readsAs_readWord .needleLength w).refused fun r => ?_
  rw [h]
  rfl

theorem refusesAs_readBody (hm : mode.hasNeedle = true) (data : List UInt8) {w : Int32}
    {e : Failure} (h : d.needleSize w = .error e) :
    RefusesAs (d.readBody mode data.length) (data ++ d.order.encodeSigned w) e := by
  rw [funext (d.readBody_eq mode data.length)]
  refine (readsAs_readField .data data).andThen_refuses ?_
  simp only [if_pos hm]
  exact (d.refusesAs_readNeedle h).andThen

/-- The start of a record that is refused. -/
theorem refusesAs_readMore {start : List UInt8} {e : Failure}
    (h : Response.Refusal d mode start e) (newest : List Occurrence) :
    RefusesAs (d.readMore mode newest) start e := by
  have hbody : ∀ {data : List UInt8} {length : Int32}, mode.hasNeedle = true →
      data.length ≤ min d.fieldLimit (2 ^ 31 - 1) → d.needleSize length = .error e →
      RefusesAs (d.readMore mode newest)
        (Response.count d.order data.length ++ (data ++ d.order.encodeSigned length)) e := by
    intro data length hm hdata hlength
    have hheader : d.headerOf (Int32.ofNat data.length) = .ok (.record data.length) :=
      (d.headerOf_eq_record_iff _ _).2 ⟨rfl, by omega, by omega⟩
    rw [funext (d.readMore_eq mode newest)]
    exact (d.readsAs_readHeader hheader).andThen_refuses
      (d.refusesAs_readBody hm data hlength).andThen
  cases h with
  | data nonneg large =>
    rw [funext (d.readMore_eq mode newest)]
    exact (d.refusesAs_readHeader ((d.headerOf_eq_error_iff _ _).2 ⟨nonneg, large, rfl⟩)).andThen
  | needle asked within nonneg large =>
    exact hbody asked within ((d.needleSize_eq_error_iff _ _).2 (.inr ⟨nonneg, large, rfl⟩))
  | negative asked within negative =>
    exact hbody asked within ((d.needleSize_eq_error_iff _ _).2 (.inl ⟨negative, rfl⟩))

/-- Where a response goes on after its records, a record is read and the rest is left to do. -/
theorem readMore_record (hstops : mode.stopsAtFirst = false) {o : Occurrence}
    (h : Response.Fits d mode o) (newest : List Occurrence) {r : Reader} (hr : r.Ready)
    {after : Flow} (hflow : r.flow = Flow.ofBytes (Response.recordBytes d.order o) ++ after) :
    ∃ r', r'.Ready ∧ r'.flow = after ∧
      d.readMore mode newest r = d.readMore mode (o :: newest) r' := by
  rw [Response.recordBytes_eq_needleBytes, Flow.ofBytes_append, List.append_assoc] at hflow
  obtain ⟨ho, hr₁, hflow₁⟩ := d.readsAs_readHeader (d.headerOf_of_fits h) r _ hr hflow
  rcases hheader : d.readHeader r with ⟨_, r₁⟩
  rw [hheader] at ho hr₁ hflow₁
  cases ho
  obtain ⟨ho', hr₂, hflow₂⟩ := d.readsAs_readBody h r₁ after hr₁ hflow₁
  rcases hbody : d.readBody mode o.data.length r₁ with ⟨_, r₂⟩
  rw [hbody] at ho' hr₂ hflow₂
  cases ho'
  refine ⟨r₂, hr₂, hflow₂, ?_⟩
  rw [d.readMore_eq, hheader, andThen_ok, readAfter, hbody, andThen_ok, hstops]
  rfl

/-- Records before others are read first. -/
theorem readMore_records (hstops : mode.stopsAtFirst = false) {os : List Occurrence}
    (hos : ∀ o ∈ os, Response.Fits d mode o) (newest : List Occurrence) {r : Reader} (hr : r.Ready)
    {after : Flow}
    (hflow : r.flow = Flow.ofBytes (os.flatMap (Response.recordBytes d.order)) ++ after) :
    ∃ r', r'.Ready ∧ r'.flow = after ∧
      d.readMore mode newest r = d.readMore mode (os.reverse ++ newest) r' := by
  induction os generalizing newest r with
  | nil => exact ⟨r, hr, hflow, rfl⟩
  | cons o os ih =>
    rw [List.flatMap_cons, Flow.ofBytes_append, List.append_assoc] at hflow
    obtain ⟨r₁, hr₁, hflow₁, hone⟩ :=
      d.readMore_record hstops (hos o (List.mem_cons_self ..)) newest hr hflow
    obtain ⟨r₂, hr₂, hflow₂, hothers⟩ :=
      ih (fun o' ho' => hos o' (List.mem_cons_of_mem o ho')) (o :: newest) hr₁ hflow₁
    refine ⟨r₂, hr₂, hflow₂, ?_⟩
    rw [hone, hothers, List.reverse_cons, List.append_assoc, List.singleton_append]

/-- A response is refused at a start that is refused, after any records where the mode goes on after
records. -/
theorem refusesAs_readOccurrences {os : List Occurrence}
    (hos : ∀ o ∈ os, Response.Fits d mode o) (hreached : mode.stopsAtFirst = true → os = [])
    {start : List UInt8} {e : Failure} (h : Response.Refusal d mode start e) :
    RefusesAs (d.readOccurrences mode) (os.flatMap (Response.recordBytes d.order) ++ start) e := by
  intro r after hr hflow
  cases hstops : mode.stopsAtFirst with
  | true =>
    rw [hreached hstops] at hflow
    exact d.refusesAs_readMore h [] r after hr hflow
  | false =>
    rw [Flow.ofBytes_append, List.append_assoc] at hflow
    obtain ⟨r', hr', hflow', heq⟩ := d.readMore_records hstops hos [] hr hflow
    rw [readOccurrences, heq]
    exact d.refusesAs_readMore h _ r' after hr' hflow'

end Dialect

/-! ## What was refused -/

/-- What befalls a field on the stream is no refusal. -/
theorem Reader.isRefusal_of_complete {field : Field} {got missing : Nat} {newest : List UInt8}
    {r r' : Reader} {e : Failure} (h : r.complete field got missing newest = (.error e, r')) :
    e.isRefusal = false := by
  fun_induction complete field got missing newest r with
  | case1 => cases h
  | case2 => cases h; rfl
  | case3 got missing newest r hm b bs r₁ hr ih => exact ih h
  | case4 got missing newest r hm e' r₁ hr hi ih => exact ih h
  | case5 got missing newest r hm e' r₁ hr hi =>
    cases h
    unfold Failure.ofCall
    split <;> rfl

namespace Dialect

variable {d : Dialect} {mode : Mode}

theorem isRefusal_of_readWord {field : Field} {r r' : Reader} {e : Failure}
    (h : d.readWord field r = (.error e, r')) : e.isRefusal = false := by
  unfold readWord at h
  split at h
  · next hf =>
    cases h
    exact Reader.isRefusal_of_complete hf
  · cases h

theorem headerOf_of_refusal {r r' : Reader} {e : Failure} (h : d.readHeader r = (.error e, r'))
    (he : e.isRefusal = true) :
    ∃ w, d.headerOf w = .error e ∧ r.rest = d.order.encodeSigned w ++ r'.rest := by
  unfold readHeader at h
  split at h
  · next hw =>
    cases h
    exact absurd he (Bool.eq_false_iff.1 (isRefusal_of_readWord hw))
  · next w _ hw =>
    obtain ⟨hh, rfl⟩ := Prod.mk.inj h
    exact ⟨w, hh, rest_readWord hw⟩

theorem needleSize_of_refusal {r r' : Reader} {e : Failure} (h : d.readNeedle r = (.error e, r'))
    (he : e.isRefusal = true) :
    ∃ w, d.needleSize w = .error e ∧ r.rest = d.order.encodeSigned w ++ r'.rest := by
  unfold readNeedle at h
  split at h
  · next hw =>
    cases h
    exact absurd he (Bool.eq_false_iff.1 (isRefusal_of_readWord hw))
  · next w _ hw =>
    split at h
    · next hs =>
      cases h
      exact ⟨w, hs, rest_readWord hw⟩
    · split at h
      · next ht =>
        cases h
        exact absurd he (Bool.eq_false_iff.1 (Reader.isRefusal_of_complete ht))
      · cases h

theorem needleSize_of_refused_body {size : Nat} {r r' : Reader} {e : Failure}
    (h : d.readBody mode size r = (.error e, r')) (he : e.isRefusal = true) :
    mode.hasNeedle = true ∧ ∃ data w, data.length = size ∧ d.needleSize w = .error e ∧
      r.rest = data ++ (d.order.encodeSigned w ++ r'.rest) := by
  unfold readBody at h
  split at h
  · next hd =>
    cases h
    exact absurd he (Bool.eq_false_iff.1 (Reader.isRefusal_of_complete hd))
  · next data r₁ hd =>
    obtain ⟨hrest, hlength⟩ := Reader.rest_readField hd
    split at h
    · next hm =>
      split at h
      · next hn =>
        cases h
        obtain ⟨w, hw, hrest'⟩ := needleSize_of_refusal hn he
        rw [hrest'] at hrest
        exact ⟨hm, data, w, hlength, hw, hrest⟩
      · cases h
    · cases h

theorem refusal_of_needleSize (hm : mode.hasNeedle = true) {data : List UInt8}
    (hdata : data.length ≤ min d.fieldLimit (2 ^ 31 - 1)) {w : Int32} {e : Failure}
    (h : d.needleSize w = .error e) :
    Response.Refusal d mode
      (Response.count d.order data.length ++ (data ++ d.order.encodeSigned w)) e := by
  rcases (d.needleSize_eq_error_iff w e).1 h with ⟨hneg, rfl⟩ | ⟨hnonneg, hlarge, rfl⟩
  · exact .negative hm hdata hneg
  · exact .needle hm hdata hnonneg hlarge

theorem refusal_of_readMore {newest : List Occurrence} {r r' : Reader} {e : Failure}
    (h : d.readMore mode newest r = (.error e, r')) (he : e.isRefusal = true) :
    ∃ os start, (∀ o ∈ os, Response.Fits d mode o) ∧ (mode.stopsAtFirst = true → os = []) ∧
      Response.Refusal d mode start e ∧
      r.rest = os.flatMap (Response.recordBytes d.order) ++ start ++ r'.rest := by
  fun_induction readMore d mode newest r with
  | case1 newest r e' r₁ hheader =>
    cases h
    obtain ⟨w, hw, hrest⟩ := headerOf_of_refusal hheader he
    obtain ⟨hnonneg, hlarge, rfl⟩ := (d.headerOf_eq_error_iff w e).1 hw
    exact ⟨[], _, List.forall_mem_nil _, fun _ => rfl, .data hnonneg hlarge, hrest⟩
  | case2 => cases h
  | case3 newest r size r₁ hheader e' r₂ hbody =>
    cases h
    obtain ⟨w, hw, hrest⟩ := rest_readHeader hheader
    obtain ⟨rfl, hlt, hle⟩ := (d.headerOf_eq_record_iff w size).1 hw
    obtain ⟨hm, data, w', rfl, hw', hrest'⟩ := needleSize_of_refused_body hbody he
    have hdata : data.length ≤ min d.fieldLimit (2 ^ 31 - 1) := by omega
    refine ⟨[], _, List.forall_mem_nil _, fun _ => rfl, refusal_of_needleSize hm hdata hw', ?_⟩
    rw [hrest, hrest', List.flatMap_nil, List.nil_append, Response.count]
    simp only [List.append_assoc]
  | case4 => cases h
  | case5 newest r size r₁ hheader o r₂ hbody hstops ih =>
    obtain ⟨hfits, hrest⟩ := fits_of_readHeader hheader hbody
    obtain ⟨os, start, hos, -, hrefusal, hrest'⟩ := ih h
    refine ⟨o :: os, start, List.forall_mem_cons.2 ⟨hfits, hos⟩, fun hs => absurd hs hstops,
      hrefusal, ?_⟩
    rw [hrest, hrest', List.flatMap_cons]
    simp only [List.append_assoc]

/-- A length is refused before its field is read, and exactly where it is too large or negative.

Reading a response directly asks the connection for no more than the limit at once, or for a word.
After records within the limit, in a mode that goes on after records, a refused start of a record
fails the response, and the reader stands right behind it. There is no other way to such a failure:
records up to and including the limit are taken. And none of the sizes leaves 64-bit words. -/
theorem refused_exactly (d : Dialect) (mode : Mode) :
    (∀ c : Connection, ∃ reads,
      (d.readOccurrences mode (.direct c)).2.connection.history = c.history ++ reads ∧
        ∀ call ∈ reads, call.AsksWithin (max 4 d.fieldLimit)) ∧
    (∀ (os : List Occurrence) (start : List UInt8) (e : Failure),
      (∀ o ∈ os, Response.Fits d mode o) → (mode.stopsAtFirst = true → os = []) →
      Response.Refusal d mode start e →
      RefusesAs (d.readOccurrences mode) (os.flatMap (Response.recordBytes d.order) ++ start) e ∧
        ∀ after, d.decode mode (os.flatMap (Response.recordBytes d.order) ++ start ++ after) =
          (.error e, (os.flatMap (Response.recordBytes d.order) ++ start).length)) ∧
    (∀ (r r' : Reader) (e : Failure), d.readOccurrences mode r = (.error e, r') →
      e.isRefusal = true →
      ∃ os start, (∀ o ∈ os, Response.Fits d mode o) ∧ (mode.stopsAtFirst = true → os = []) ∧
        Response.Refusal d mode start e ∧
        r.rest = os.flatMap (Response.recordBytes d.order) ++ start ++ r'.rest) ∧
    (∀ (os : List Occurrence) (closing : Int32) (after : List UInt8),
      (∀ o ∈ os, Response.Fits d mode o) → (mode.stopsAtFirst = true → os.length ≤ 1) →
      closing < 0 →
      d.decode mode (Response.bytes d.order mode closing os ++ after) =
        (.ok os, (Response.bytes d.order mode closing os).length)) ∧
    ∀ w : Int32, 0 ≤ w →
      d.headerOf w = (d.allow .dataSize w.toInt64.toUInt64.toNat).map .record ∧
        d.needleSize w = d.allow .needle (w.toInt64.toUInt64 * 4).toNat ∧
        w.toInt64.toUInt64.toNat * 4 < UInt64.size := by
  refine ⟨fun c => (d.asks_readOccurrences mode c).reads, ?_, fun r r' e => refusal_of_readMore, ?_,
    fun w hw => d.sizes_of_words hw⟩
  · intro os start e hos hreached hrefusal
    have key := d.refusesAs_readOccurrences hos hreached hrefusal
    refine ⟨key, fun after => ?_⟩
    have hflow : (readerOf (os.flatMap (Response.recordBytes d.order) ++ start ++ after)).flow =
        Flow.ofBytes (os.flatMap (Response.recordBytes d.order) ++ start) ++
          Flow.ofBytes after := by
      rw [flow_readerOf, Flow.ofBytes_append]
    obtain ⟨ho, hafter⟩ := key _ _ (ready_readerOf _) hflow
    exact Prod.ext ho (decode_of_flow hafter)
  · intro os closing after hos hlength hclosing
    exact decode_of_encodes (encodes_iff.2 ⟨hos, hlength, closing, hclosing, rfl⟩) after

/-- A limit of eight bytes: a needle of two characters is taken, and one of three characters behind
it is refused as soon as its length is known. The reads ask for no more than eight bytes. -/
theorem refused_exactly_at_limit :
    let d : Dialect := ⟨.big, 8⟩
    let taken : Occurrence := ⟨[1], some ⟨[0, 0, 0, 104, 0, 0, 0, 101]⟩⟩
    let start : List UInt8 := [0, 0, 0, 1, 2, 0, 0, 0, 3]
    let e : Failure := .fieldTooLarge .needle 12 8
    let c : Connection := { arrivals := [.data (Response.recordBytes .big taken ++ start)] }
    d.decode .needle (Response.recordBytes .big taken ++ start ++ [255]) = (.error e, 26) ∧
      d.decode .needle (Response.bytes .big .needle (-1) [taken]) = (.ok [taken], 21) ∧
      ∃ reads, (d.readOccurrences .needle (.direct c)).2.connection.history = reads ∧
        ∀ call ∈ reads, call.AsksWithin 8 := by
  intro d taken start e c
  obtain ⟨hasks, hrefused, -, htaken, -⟩ := refused_exactly d .needle
  have hstart : Response.Refusal d .needle start e :=
    @Response.Refusal.needle d .needle [2] 3 (by decide) (by decide) (by decide) (by decide)
  refine ⟨(hrefused [taken] start e (by decide) (by decide) hstart).2 [255], ?_, hasks c⟩
  exact htaken [taken] (-1) [] (by decide) (by decide) (by decide)

/-- What is told for every mode fails for one that stops at the first occurrence: the length behind
the first record is not looked at. -/
theorem length_after_first_unread :
    ¬ ∀ (d : Dialect) (mode : Mode) (os : List Occurrence) (start : List UInt8) (e : Failure),
      (∀ o ∈ os, Response.Fits d mode o) → Response.Refusal d mode start e →
      (d.decode mode (os.flatMap (Response.recordBytes d.order) ++ start)).1 = .error e := by
  intro h
  have key := h ⟨.big, 4⟩ .first [⟨[65], none⟩] _ _ (by decide)
    (@Response.Refusal.data ⟨.big, 4⟩ .first 5 (by decide) (by decide))
  have hdecode : Dialect.decode ⟨.big, 4⟩ .first [0, 0, 0, 1, 65, 0, 0, 0, 5] =
      (.ok [⟨[65], none⟩], 5) := by decide +kernel
  have hfirst : (Except.ok [⟨[65], none⟩] : Except Failure (List Occurrence)) =
      .error (.fieldTooLarge .dataSize 5 4) := (congrArg Prod.fst hdecode).symm.trans key
  cases hfirst

end Dialect

end RemoteSearch
