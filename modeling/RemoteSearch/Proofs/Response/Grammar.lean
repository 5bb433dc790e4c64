import Mathlib.Algebra.Group.Nat.Defs
import RemoteSearch.Proofs.Response.Flow
import RemoteSearch.Response.Layout

set_option autoImplicit false

/-! # The grammar of responses

`Encodes` says which bytes are a response with which occurrences, and which occurrences can be sent
at all (`Fits`). Reading a response accepts exactly these bytes: what is read is of this form
(`encodes_of_readOccurrences`), and whatever is of this form is read, by any reader and with
anything after it (`readsAs_readOccurrences`).
-/

namespace RemoteSearch

/-! ## Words -/

namespace Dialect

theorem headerOf_eq_finished_iff (d : Dialect) (w : Int32) :
    d.headerOf w = .ok .finished ↔ w < 0 := by
  unfold headerOf
  by_cases h : w < 0
  · simp [h]
  · rw [if_neg h]
    refine iff_of_false ?_ h
    cases d.allow .dataSize w.toNatClampNeg <;> exact nofun

theorem allow_of_le {d : Dialect} {field : Field} {size : Nat} (h : size ≤ d.fieldLimit) :
    d.allow field size = .ok size := by
  rw [allow, if_neg (Nat.not_lt.2 h)]

theorem headerOf_eq_record_iff (d : Dialect) (w : Int32) (size : Nat) :
    d.headerOf w = .ok (.record size) ↔
      w = Int32.ofNat size ∧ size < 2 ^ 31 ∧ size ≤ d.fieldLimit := by
  unfold headerOf
  constructor
  · intro h
    split at h
    · cases h
    · next hw =>
      cases ha : d.allow .dataSize w.toNatClampNeg with
      | error e => rw [ha] at h; cases h
      | ok n =>
        rw [ha] at h
        cases h
        obtain ⟨rfl, hle⟩ := le_of_allow ha
        exact ⟨(Int32.ofNat_toNatClampNeg w (Int32.not_lt.1 hw)).symm, w.toNatClampNeg_lt, hle⟩
  · rintro ⟨rfl, hlt, hle⟩
    rw [if_neg (Int32.not_lt.2 (Int32.zero_le_ofNat_of_lt hlt)),
      Int32.toNatClampNeg_ofNat_of_lt hlt, allow_of_le hle]
    rfl

theorem needleSize_eq_ok_iff (d : Dialect) (w : Int32) (size : Nat) :
    d.needleSize w = .ok size ↔
      ∃ length, w = Int32.ofNat length ∧ length < 2 ^ 31 ∧ size = length * Wire.unitSize ∧
        size ≤ d.fieldLimit := by
  unfold needleSize
  constructor
  · intro h
    split at h
    · cases h
    · next hw =>
      obtain ⟨rfl, hle⟩ := le_of_allow h
      exact ⟨w.toNatClampNeg, (Int32.ofNat_toNatClampNeg w (Int32.not_lt.1 hw)).symm,
        w.toNatClampNeg_lt, rfl, hle⟩
  · rintro ⟨length, rfl, hlt, rfl, hle⟩
    rw [if_neg (Int32.not_lt.2 (Int32.zero_le_ofNat_of_lt hlt)),
      Int32.toNatClampNeg_ofNat_of_lt hlt, allow_of_le hle]

end Dialect

/-! ## The grammar -/

namespace Response

/-- A text of whole characters that is within the limit, and whose number of characters fits into a
signed word. -/
structure NeedleFits (d : Dialect) (t : Wire.WideText) : Prop where
  whole : t.bytes.length % Wire.unitSize = 0
  within : t.bytes.length ≤ d.fieldLimit
  fits : t.bytes.length ≤ Wire.unitSize * (2 ^ 31 - 1)

/-- An occurrence that can be sent in a mode to a reader of the dialect. -/
structure Fits (d : Dialect) (mode : Mode) (o : Occurrence) : Prop where
  data : o.data.length ≤ min d.fieldLimit (2 ^ 31 - 1)
  needle : o.needle.isSome = mode.hasNeedle
  needleFits : ∀ t, o.needle = some t → NeedleFits d t

instance (d : Dialect) (t : Wire.WideText) : Decidable (NeedleFits d t) :=
  decidable_of_iff (t.bytes.length % Wire.unitSize = 0 ∧ t.bytes.length ≤ d.fieldLimit ∧
      t.bytes.length ≤ Wire.unitSize * (2 ^ 31 - 1))
    ⟨fun h => ⟨h.1, h.2.1, h.2.2⟩, fun h => ⟨h.whole, h.within, h.fits⟩⟩

instance (d : Dialect) (mode : Mode) (o : Occurrence) : Decidable (Fits d mode o) :=
  decidable_of_iff (o.data.length ≤ min d.fieldLimit (2 ^ 31 - 1) ∧
      o.needle.isSome = mode.hasNeedle ∧ ∀ t ∈ o.needle, NeedleFits d t)
    ⟨fun h => ⟨h.1, h.2.1, h.2.2⟩, fun h => ⟨h.data, h.needle, h.needleFits⟩⟩

/-- The bytes that are a response with these occurrences. A response in a mode that stops at the
first occurrence is one record, or a closing word alone; any other response is all its records and
a closing word. Every negative word closes. -/
inductive Encodes (d : Dialect) (mode : Mode) : List Occurrence → List UInt8 → Prop
  | all {os : List Occurrence} {closing : Int32} (stops : mode.stopsAtFirst = false)
      (fits : ∀ o ∈ os, Fits d mode o) (negative : closing < 0) :
      Encodes d mode os (os.flatMap (recordBytes d.order) ++ d.order.encodeSigned closing)
  | one {o : Occurrence} (stops : mode.stopsAtFirst = true) (fits : Fits d mode o) :
      Encodes d mode [o] (recordBytes d.order o)
  | none {closing : Int32} (stops : mode.stopsAtFirst = true) (negative : closing < 0) :
      Encodes d mode [] (d.order.encodeSigned closing)

theorem bytes_nil (order : Wire.Endian) (mode : Mode) (closing : Int32) :
    bytes order mode closing [] = order.encodeSigned closing := by
  simp [bytes, fields, bytesOf]

theorem bytes_of_first {mode : Mode} (h : mode.stopsAtFirst = true) (order : Wire.Endian)
    (closing : Int32) (o : Occurrence) (os : List Occurrence) :
    bytes order mode closing (o :: os) = recordBytes order o := by
  simp only [bytes, fields, h]
  rfl

/-- The bytes of a record that carry its needle. -/
def needleBytes (order : Wire.Endian) : Option Wire.WideText → List UInt8
  | none => []
  | some t => count order t.length ++ t.bytes

theorem recordBytes_eq_needleBytes (order : Wire.Endian) (o : Occurrence) :
    recordBytes order o = count order o.data.length ++ (o.data ++ needleBytes order o.needle) := by
  rw [recordBytes_eq, List.append_assoc]
  cases o.needle <;> rfl

theorem NeedleFits.length_lt {d : Dialect} {t : Wire.WideText} (h : NeedleFits d t) :
    t.length < 2 ^ 31 := by
  have := h.fits
  simp only [Wire.unitSize, Wire.WideText.length] at this ⊢
  omega

theorem NeedleFits.length_mul {d : Dialect} {t : Wire.WideText} (h : NeedleFits d t) :
    t.length * Wire.unitSize = t.bytes.length :=
  Nat.div_mul_cancel (Nat.dvd_of_mod_eq_zero h.whole)

end Response

/-! ## What is written is read -/

/-- The bytes are read as the value, whatever comes after them. -/
def ReadsAs {α : Type} (f : Reader → Except Failure α × Reader) (bytes : List UInt8) (a : α) :
    Prop :=
  ∀ (r : Reader) (after : Flow), r.Ready → r.flow = Flow.ofBytes bytes ++ after →
    (f r).1 = .ok a ∧ (f r).2.Ready ∧ (f r).2.flow = after

theorem ReadsAs.ok {α : Type} (a : α) : ReadsAs (fun r => (.ok a, r)) [] a :=
  fun _ _ hr hflow => ⟨rfl, hr, hflow⟩

theorem ReadsAs.andThen {α β : Type} {f : Reader → Except Failure α × Reader}
    {g : α → Reader → Except Failure β × Reader} {bytes more : List UInt8} {a : α} {b : β}
    (hf : ReadsAs f bytes a) (hg : ReadsAs (g a) more b) :
    ReadsAs (fun r => RemoteSearch.andThen (f r) g) (bytes ++ more) b := by
  intro r after hr hflow
  rw [Flow.ofBytes_append, List.append_assoc] at hflow
  obtain ⟨ho, hr', hflow'⟩ := hf r _ hr hflow
  have he : f r = (.ok a, (f r).2) := Prod.ext ho rfl
  simp only []
  rw [he, andThen_ok]
  exact hg _ after hr' hflow'

theorem readsAs_readField (field : Field) (bytes : List UInt8) :
    ReadsAs (fun r => r.readField field bytes.length) bytes bytes := by
  intro r after hr hflow
  obtain ⟨ho, hf⟩ := Reader.readField_flow field bytes.length hr
  rw [hflow, Flow.readField_ofBytes field 0 (Nat.le_refl _), Nat.sub_self, Flow.readField] at ho hf
  refine ⟨?_, Reader.ready_of_advance (.readField field _ r) hr, hf⟩
  rw [ho]
  simp [Except.map]

namespace Dialect

variable (d : Dialect)

theorem readsAs_readWord (field : Field) (w : Int32) :
    ReadsAs (d.readWord field) (d.order.encodeSigned w) w := by
  have hval : ReadsAs (fun r => (.ok (d.order.decodeSigned (d.order.encodeSigned w)), r)) [] w := by
    rw [Wire.Endian.decodeSigned_encodeSigned]
    exact .ok w
  have key := (readsAs_readField field (d.order.encodeSigned w)).andThen
    (g := fun bytes r => (.ok (d.order.decodeSigned bytes), r)) hval
  rw [List.append_nil, Wire.Endian.length_encodeSigned] at key
  rw [funext (d.readWord_eq field)]
  exact key

theorem readsAs_readHeader {w : Int32} {header : Header} (h : d.headerOf w = .ok header) :
    ReadsAs d.readHeader (d.order.encodeSigned w) header := by
  have hval : ReadsAs (fun r => (d.headerOf w, r)) [] header := by
    rw [h]
    exact .ok header
  have key := (d.readsAs_readWord .dataSize w).andThen
    (g := fun size r => (d.headerOf size, r)) hval
  rw [List.append_nil] at key
  rw [funext d.readHeader_eq]
  exact key

theorem needleSize_of_fits {t : Wire.WideText} (h : Response.NeedleFits d t) :
    d.needleSize (Int32.ofNat t.length) = .ok t.bytes.length :=
  (d.needleSize_eq_ok_iff _ _).2 ⟨t.length, rfl, h.length_lt, h.length_mul.symm, h.within⟩

theorem headerOf_of_fits {mode : Mode} {o : Occurrence} (h : Response.Fits d mode o) :
    d.headerOf (Int32.ofNat o.data.length) = .ok (.record o.data.length) := by
  have hdata := h.data
  exact (d.headerOf_eq_record_iff _ _).2 ⟨rfl, by omega, by omega⟩

theorem readsAs_readNeedle {t : Wire.WideText} (h : Response.NeedleFits d t) :
    ReadsAs d.readNeedle (Response.count d.order t.length ++ t.bytes) t := by
  have htext : ReadsAs (fun r => andThen (r.readField .needle t.bytes.length)
      fun bytes r => (.ok (⟨bytes⟩ : Wire.WideText), r)) t.bytes t := by
    have := (readsAs_readField .needle t.bytes).andThen
      (g := fun bytes r => (.ok (⟨bytes⟩ : Wire.WideText), r)) (.ok t)
    rwa [List.append_nil] at this
  have hrest : ReadsAs (fun r => andThen (d.needleSize (Int32.ofNat t.length), r) fun size r =>
      andThen (r.readField .needle size) fun bytes r => (.ok (⟨bytes⟩ : Wire.WideText), r))
      t.bytes t := by
    rw [d.needleSize_of_fits h]
    exact htext
  rw [funext d.readNeedle_eq]
  exact (d.readsAs_readWord .needleLength (Int32.ofNat t.length)).andThen hrest

/-- The bytes of a record after its first word. -/
theorem readsAs_readBody {mode : Mode} {o : Occurrence} (h : Response.Fits d mode o) :
    ReadsAs (d.readBody mode o.data.length)
      (o.data ++ Response.needleBytes d.order o.needle) o := by
  rw [funext (d.readBody_eq mode o.data.length)]
  refine (readsAs_readField .data o.data).andThen ?_
  obtain ⟨data, needle⟩ := o
  cases needle with
  | none =>
    have hm : ¬ mode.hasNeedle = true := by rw [← h.needle]; exact Bool.false_ne_true
    simp only [if_neg hm]
    exact .ok _
  | some t =>
    have hm : mode.hasNeedle = true := by rw [← h.needle]; rfl
    simp only [if_pos hm]
    have key := (d.readsAs_readNeedle (h.needleFits t rfl)).andThen
      (g := fun needle r => (.ok (⟨data, some needle⟩ : Occurrence), r)) (.ok _)
    rwa [List.append_nil] at key

theorem readsAs_readMore_closing {mode : Mode} {closing : Int32} (h : closing < 0)
    (newest : List Occurrence) :
    ReadsAs (d.readMore mode newest) (d.order.encodeSigned closing) newest.reverse := by
  have key := (d.readsAs_readHeader ((d.headerOf_eq_finished_iff closing).2 h)).andThen
    (g := d.readAfter mode newest) (.ok newest.reverse)
  rw [List.append_nil] at key
  rw [funext (d.readMore_eq mode newest)]
  exact key

/-- A record is read, and then what comes after a record in the mode. -/
theorem readsAs_readMore_record {mode : Mode} {o : Occurrence} (h : Response.Fits d mode o)
    {newest os : List Occurrence} {more : List UInt8}
    (hmore : ReadsAs (fun r => if mode.stopsAtFirst then (.ok (o :: newest).reverse, r)
      else d.readMore mode (o :: newest) r) more os) :
    ReadsAs (d.readMore mode newest) (Response.recordBytes d.order o ++ more) os := by
  rw [funext (d.readMore_eq mode newest), Response.recordBytes_eq_needleBytes, List.append_assoc]
  exact (d.readsAs_readHeader (d.headerOf_of_fits h)).andThen ((d.readsAs_readBody h).andThen hmore)

theorem readsAs_readMore {mode : Mode} (hstops : mode.stopsAtFirst = false) {closing : Int32}
    (hclosing : closing < 0) (newest : List Occurrence) {os : List Occurrence}
    (hos : ∀ o ∈ os, Response.Fits d mode o) :
    ReadsAs (d.readMore mode newest)
      (os.flatMap (Response.recordBytes d.order) ++ d.order.encodeSigned closing)
      (newest.reverse ++ os) := by
  induction os generalizing newest with
  | nil =>
    rw [List.append_nil]
    exact d.readsAs_readMore_closing hclosing newest
  | cons o os ih =>
    -- The record joins those already there, which stand newest first.
    have htail := ih (o :: newest) fun o' ho' => hos o' (List.mem_cons_of_mem o ho')
    rw [List.reverse_cons, List.append_assoc, List.singleton_append] at htail
    rw [List.flatMap_cons, List.append_assoc]
    refine d.readsAs_readMore_record (hos o (List.mem_cons_self ..)) ?_
    simp only [hstops, Bool.false_eq_true, if_false]
    exact htail

/-- A response is read as its occurrences, by any reader and with anything after it. -/
theorem readsAs_readOccurrences {mode : Mode} {os : List Occurrence} {bytes : List UInt8}
    (h : Response.Encodes d mode os bytes) : ReadsAs (d.readOccurrences mode) bytes os := by
  cases h with
  | all stops fits negative => exact d.readsAs_readMore stops negative [] fits
  | one stops fits =>
    rename_i o
    have key : ReadsAs (d.readMore mode []) (Response.recordBytes d.order o ++ []) [o] := by
      refine d.readsAs_readMore_record fits ?_
      simp only [stops, if_true]
      exact .ok [o]
    rwa [List.append_nil] at key
  | none stops negative => exact d.readsAs_readMore_closing negative []

/-! ## What is read was written -/

theorem needleFits_of_readNeedle {d : Dialect} {t : Wire.WideText} {r r' : Reader}
    (h : d.readNeedle r = (.ok t, r')) :
    Response.NeedleFits d t ∧
      r.rest = Response.count d.order t.length ++ t.bytes ++ r'.rest := by
  obtain ⟨w, hw, hrest⟩ := rest_readNeedle h
  obtain ⟨length, rfl, hlt, hsize, hle⟩ := (d.needleSize_eq_ok_iff w _).1 hw
  have hlength : t.length = length := by
    rw [Wire.WideText.length, hsize]
    exact Nat.mul_div_cancel length (by decide)
  refine ⟨⟨?_, hle, ?_⟩, ?_⟩
  · rw [hsize]
    exact Nat.mul_mod_left length Wire.unitSize
  · rw [hsize, Nat.mul_comm]
    exact Nat.mul_le_mul_left Wire.unitSize (Nat.le_sub_one_of_lt hlt)
  · rw [hlength]
    exact hrest

theorem fits_of_readBody {d : Dialect} {mode : Mode} {size : Nat} {o : Occurrence} {r r' : Reader}
    (hlt : size < 2 ^ 31) (hle : size ≤ d.fieldLimit) (h : d.readBody mode size r = (.ok o, r')) :
    Response.Fits d mode o ∧ o.data.length = size ∧
      r.rest = o.data ++ Response.needleBytes d.order o.needle ++ r'.rest := by
  unfold readBody at h
  split at h
  · cases h
  · next data r₁ hd =>
    obtain ⟨hrest, hlength⟩ := Reader.rest_readField hd
    have hmin : data.length ≤ min d.fieldLimit (2 ^ 31 - 1) := by omega
    split at h
    · next hm =>
      split at h
      · cases h
      · next t r₂ ht =>
        cases h
        obtain ⟨hfits, hrest'⟩ := needleFits_of_readNeedle ht
        refine ⟨⟨hmin, hm.symm, ?_⟩, hlength, ?_⟩
        · rintro _ ⟨⟩
          exact hfits
        · rw [hrest, hrest', ← List.append_assoc]
          rfl
    · next hm =>
      cases h
      refine ⟨⟨hmin, (Bool.eq_false_iff.2 hm).symm, nofun⟩, hlength, ?_⟩
      rw [hrest]
      exact congrArg (· ++ r'.rest) (List.append_nil data).symm

theorem fits_of_readHeader {d : Dialect} {mode : Mode} {size : Nat} {o : Occurrence}
    {r r₁ r₂ : Reader} (hheader : d.readHeader r = (.ok (.record size), r₁))
    (hbody : d.readBody mode size r₁ = (.ok o, r₂)) :
    Response.Fits d mode o ∧ r.rest = Response.recordBytes d.order o ++ r₂.rest := by
  obtain ⟨w, hw, hrest⟩ := rest_readHeader hheader
  obtain ⟨rfl, hlt, hle⟩ := (d.headerOf_eq_record_iff w size).1 hw
  obtain ⟨hfits, hlength, hrest'⟩ := fits_of_readBody hlt hle hbody
  refine ⟨hfits, ?_⟩
  rw [hrest, hrest', Response.recordBytes_eq_needleBytes, hlength, Response.count]
  simp only [List.append_assoc]

theorem encodes_of_readMore {d : Dialect} {mode : Mode} {newest os : List Occurrence}
    {r r' : Reader} (h : d.readMore mode newest r = (.ok os, r')) :
    ∃ more bytes, os = newest.reverse ++ more ∧ r.rest = bytes ++ r'.rest ∧
      Response.Encodes d mode more bytes := by
  -- The records read so far are in `newest`; the bytes are those of the records still to be read.
  fun_induction readMore d mode newest r with
  | case1 => cases h
  | case2 newest r r₁ hheader =>
    cases h
    obtain ⟨w, hw, hrest⟩ := rest_readHeader hheader
    have hneg : w < 0 := (d.headerOf_eq_finished_iff w).1 hw
    refine ⟨[], d.order.encodeSigned w, (List.append_nil _).symm, hrest, ?_⟩
    cases hstops : mode.stopsAtFirst with
    | true => exact .none hstops hneg
    | false => exact .all hstops nofun hneg
  | case3 => cases h
  | case4 newest r size r₁ hheader o r₂ hbody hstops =>
    cases h
    obtain ⟨hfits, hrest⟩ := fits_of_readHeader hheader hbody
    exact ⟨[o], _, List.reverse_cons, hrest, .one hstops hfits⟩
  | case5 newest r size r₁ hheader o r₂ hbody hstops ih =>
    obtain ⟨hfits, hrest⟩ := fits_of_readHeader hheader hbody
    obtain ⟨more, bytes, hos, hrest', hencodes⟩ := ih h
    refine ⟨o :: more, Response.recordBytes d.order o ++ bytes, ?_, ?_, ?_⟩
    · rw [hos, List.reverse_cons, List.append_assoc, List.singleton_append]
    · rw [hrest, hrest', List.append_assoc]
    · cases hencodes with
      | all stops fits negative =>
        rw [← List.append_assoc, ← List.flatMap_cons]
        refine .all stops ?_ negative
        intro o' ho'
        rcases List.mem_cons.1 ho' with rfl | ho'
        · exact hfits
        · exact fits o' ho'
      | one stops => exact absurd stops hstops
      | none stops => exact absurd stops hstops

/-- What is read as a response encodes its occurrences. -/
theorem encodes_of_readOccurrences {d : Dialect} {mode : Mode} {os : List Occurrence}
    {r r' : Reader} (h : d.readOccurrences mode r = (.ok os, r')) :
    ∃ bytes, r.rest = bytes ++ r'.rest ∧ Response.Encodes d mode os bytes := by
  obtain ⟨more, bytes, rfl, hrest, hencodes⟩ := encodes_of_readMore h
  exact ⟨bytes, hrest, hencodes⟩

/-! ## Decoding and encoding -/

/-- The encodings of occurrences are what a server writes for them with some closing word. -/
theorem encodes_iff {d : Dialect} {mode : Mode} {os : List Occurrence} {bytes : List UInt8} :
    Response.Encodes d mode os bytes ↔
      (∀ o ∈ os, Response.Fits d mode o) ∧ (mode.stopsAtFirst = true → os.length ≤ 1) ∧
        ∃ closing < 0, bytes = Response.bytes d.order mode closing os := by
  constructor
  · rintro (⟨stops, fits, negative⟩ | ⟨stops, fits⟩ | ⟨stops, negative⟩)
    · refine ⟨fits, fun h => absurd h (by simp [stops]), _, negative, ?_⟩
      rw [Response.bytes_of_all stops]
    · refine ⟨fun o' ho' => ?_, fun _ => Nat.le_refl 1, -1, by decide, ?_⟩
      · rwa [List.mem_singleton.1 ho']
      · rw [Response.bytes_of_first stops]
    · exact ⟨nofun, fun _ => Nat.zero_le 1, _, negative, (Response.bytes_nil ..).symm⟩
  · rintro ⟨fits, hlength, closing, negative, rfl⟩
    cases stops : mode.stopsAtFirst with
    | false =>
      rw [Response.bytes_of_all stops]
      exact .all stops fits negative
    | true =>
      match os, hlength stops with
      | [], _ =>
        rw [Response.bytes_nil]
        exact .none stops negative
      | [o], _ =>
        rw [Response.bytes_of_first stops]
        exact .one stops (fits o (List.mem_singleton.2 rfl))

theorem decode_of_encodes {d : Dialect} {mode : Mode} {os : List Occurrence} {bytes : List UInt8}
    (h : Response.Encodes d mode os bytes) (after : List UInt8) :
    d.decode mode (bytes ++ after) = (.ok os, bytes.length) := by
  have hflow : (readerOf (bytes ++ after)).flow = Flow.ofBytes bytes ++ Flow.ofBytes after := by
    rw [flow_readerOf, Flow.ofBytes_append]
  obtain ⟨ho, -, hafter⟩ := d.readsAs_readOccurrences h _ _ (ready_readerOf _) hflow
  exact Prod.ext ho (decode_of_flow hafter)

theorem encodes_of_decode {d : Dialect} {mode : Mode} {os : List Occurrence} {b : List UInt8}
    {n : Nat} (h : d.decode mode b = (.ok os, n)) :
    n ≤ b.length ∧ Response.Encodes d mode os (b.take n) := by
  obtain ⟨hle, hdrop⟩ := rest_decode d mode b
  rw [h] at hle hdrop
  have ho : (d.readOccurrences mode (readerOf b)).1 = .ok os := congrArg Prod.fst h
  obtain ⟨bytes, hrest, hencodes⟩ := encodes_of_readOccurrences (Prod.ext ho rfl)
  rw [rest_readerOf, hdrop] at hrest
  have hsplit : b.take n ++ b.drop n = bytes ++ b.drop n := by
    rw [List.take_append_drop]
    exact hrest
  rw [List.append_cancel_right hsplit]
  exact ⟨hle, hencodes⟩

/-- Decoding accepts exactly the grammar of responses: an outcome with occurrences means that the
bytes taken encode them, and bytes that encode occurrences are decoded to them. So decoding undoes
encoding, whatever comes after, and encoding what was decoded gives the bytes back, up to the
choice of the closing word. -/
theorem decode_eq_ok_iff (d : Dialect) (mode : Mode) (b : List UInt8) (os : List Occurrence)
    (n : Nat) :
    (d.decode mode b = (.ok os, n) ↔ n ≤ b.length ∧ Response.Encodes d mode os (b.take n)) ∧
    (∀ (closing : Int32) (after : List UInt8), closing < 0 →
      (∀ o ∈ os, Response.Fits d mode o) → (mode.stopsAtFirst = true → os.length ≤ 1) →
      d.decode mode (Response.bytes d.order mode closing os ++ after) =
        (.ok os, (Response.bytes d.order mode closing os).length)) ∧
    (d.decode mode b = (.ok os, n) →
      ∃ closing < 0, b.take n = Response.bytes d.order mode closing os) := by
  refine ⟨⟨encodes_of_decode, ?_⟩, ?_, ?_⟩
  · rintro ⟨hle, hencodes⟩
    have key := decode_of_encodes hencodes (b.drop n)
    rwa [List.take_append_drop, List.length_take, Nat.min_eq_left hle] at key
  · intro closing after hclosing hfits hlength
    exact decode_of_encodes (encodes_iff.2 ⟨hfits, hlength, closing, hclosing, rfl⟩) after
  · intro h
    exact (encodes_iff.1 (encodes_of_decode h).2).2.2

end Dialect

end RemoteSearch
