import RemoteSearch.Proofs.Response.Grammar

set_option autoImplicit false

/-! # Responses that are cut off

A response that is cut off before its end is never taken for another one. Reading it is a short read
that tells where the cut is (`decode_of_cut`): in the first field that ends behind the cut, with as
many bytes got as that field has before the cut (`CutInto`). The argument goes through the readers
one by one: each fails in this way on a cut of the fields that it reads (`FailsOnCuts`).

So there are fields that settle an outcome (`Settles`): all of them give it, whatever comes after
them, and a cut in them is told. For a response these are its own fields.
-/

namespace RemoteSearch

namespace Response

@[simp] theorem bytesOf_nil : bytesOf [] = [] := rfl

theorem bytesOf_cons (field : Field) (content : List UInt8) (laid : List Laid) :
    bytesOf ((field, content) :: laid) = content ++ bytesOf laid := rfl

@[simp] theorem bytesOf_singleton (field : Field) (content : List UInt8) :
    bytesOf [(field, content)] = content := List.append_nil content

/-- The fields of a record that carry its needle. -/
def needleFields (order : Wire.Endian) : Option Wire.WideText → List Laid
  | none => []
  | some t => [(.needleLength, count order t.length), (.needle, t.bytes)]

theorem recordFields_eq (order : Wire.Endian) (o : Occurrence) :
    recordFields order o =
      [(.dataSize, count order o.data.length)] ++
        ((.data, o.data) :: needleFields order o.needle) := by
  cases h : o.needle <;> simp [recordFields, needleFields, h]

theorem bytesOf_needleFields (order : Wire.Endian) (needle : Option Wire.WideText) :
    bytesOf (needleFields order needle) = needleBytes order needle := by
  cases needle <;> simp [bytesOf, needleFields, needleBytes]

/-- A cut after `n` bytes goes into a field of the given size, of which `got` bytes are before the
cut. All fields before that one are whole, so it is the first that ends behind the cut. -/
def CutInto (laid : List Laid) (n : Nat) (field : Field) (size got : Nat) : Prop :=
  ∃ before content after, laid = before ++ (field, content) :: after ∧ content.length = size ∧
    n = (bytesOf before).length + got ∧ got < size

namespace CutInto

variable {laid : List Laid} {n size got : Nat} {field : Field}

theorem append (h : CutInto laid n field size got) (more : List Laid) :
    CutInto (laid ++ more) n field size got := by
  obtain ⟨before, content, after, rfl, hsize, hn, hgot⟩ := h
  exact ⟨before, content, after ++ more, by simp, hsize, hn, hgot⟩

theorem append_left (h : CutInto laid n field size got) (less : List Laid) :
    CutInto (less ++ laid) ((bytesOf less).length + n) field size got := by
  obtain ⟨before, content, after, rfl, hsize, rfl, hgot⟩ := h
  refine ⟨less ++ before, content, after, by simp, hsize, ?_, hgot⟩
  rw [bytesOf_append, List.length_append, Nat.add_assoc]

end CutInto

end Response

namespace Flow

/-- Too few bytes for a field are all taken. -/
theorem readField_of_short (field : Field) {n : Nat} {bs : List UInt8} (h : bs.length < n) :
    readField field 0 n (ofBytes bs) = (.error (.shortRead field n bs.length), []) := by
  have key := readField_ofBytes field 0 (Nat.le_of_lt h) []
  obtain ⟨missing, hmissing⟩ : ∃ missing, n - bs.length = missing + 1 :=
    ⟨n - bs.length - 1, by omega⟩
  have hn : bs.length + (missing + 1) = n := by omega
  rw [List.append_nil, hmissing, Nat.zero_add, readField, hn] at key
  exact key

end Flow

open Response (Laid CutInto bytesOf)

/-- On a cut of the fields that it reads, a reader gives a short read of the field that is cut, and
nothing is left to come. -/
def FailsOnCuts {α : Type} (f : Reader → Except Failure α × Reader) (laid : List Laid) : Prop :=
  ∀ (r : Reader) (n : Nat), n < (bytesOf laid).length → r.Ready →
    r.flow = Flow.ofBytes ((bytesOf laid).take n) →
    ∃ field size got, CutInto laid n field size got ∧
      (f r).1 = .error (.shortRead field size got) ∧ (f r).2.flow = []

namespace FailsOnCuts

variable {α β : Type}

/-- Where no field is read, there is no cut. -/
theorem nil (f : Reader → Except Failure α × Reader) : FailsOnCuts f [] :=
  fun _ n hn => absurd hn (Nat.not_lt_zero n)

theorem readField (field : Field) (content : List UInt8) :
    FailsOnCuts (fun r => r.readField field content.length) [(field, content)] := by
  intro r n hn hr hflow
  rw [Response.bytesOf_singleton] at hn hflow
  have hlength : (content.take n).length = n := by rw [List.length_take]; omega
  obtain ⟨ho, hf⟩ := Reader.readField_flow field content.length hr
  rw [hflow, Flow.readField_of_short field (by omega), hlength] at ho hf
  exact ⟨field, content.length, n, ⟨[], content, [], rfl, rfl, by simp, hn⟩, ho, hf⟩

/-- A cut comes either before the end of what is read first, or after it. -/
theorem andThen {f : Reader → Except Failure α × Reader}
    {g : α → Reader → Except Failure β × Reader} {laid more : List Laid} {a : α}
    (hf : FailsOnCuts f laid) (hreads : ReadsAs f (bytesOf laid) a)
    (hg : FailsOnCuts (g a) more) :
    FailsOnCuts (fun r => RemoteSearch.andThen (f r) g) (laid ++ more) := by
  intro r n hn hr hflow
  rw [Response.bytesOf_append] at hn hflow
  by_cases hlaid : n < (bytesOf laid).length
  · rw [List.take_append_of_le_length (Nat.le_of_lt hlaid)] at hflow
    obtain ⟨field, size, got, hcut, ho, hflow'⟩ := hf r n hlaid hr hflow
    have he : f r = (.error (.shortRead field size got), (f r).2) := Prod.ext ho rfl
    refine ⟨field, size, got, hcut.append more, ?_⟩
    simp only []
    rw [he]
    exact ⟨rfl, hflow'⟩
  · obtain ⟨m, rfl⟩ := Nat.exists_eq_add_of_le (Nat.not_lt.1 hlaid)
    rw [List.take_length_add_append, Flow.ofBytes_append] at hflow
    obtain ⟨ho, hr', hflow'⟩ := hreads r _ hr hflow
    have he : f r = (.ok a, (f r).2) := Prod.ext ho rfl
    have hm : m < (bytesOf more).length := by
      rw [List.length_append] at hn
      omega
    obtain ⟨field, size, got, hcut, ho', hflow''⟩ := hg (f r).2 m hm hr' hflow'
    refine ⟨field, size, got, hcut.append_left laid, ?_⟩
    simp only []
    rw [he]
    exact ⟨ho', hflow''⟩

/-- What is done after the fields does not bear on a cut in them. -/
theorem andThen_left {f : Reader → Except Failure α × Reader}
    {g : α → Reader → Except Failure β × Reader} {laid : List Laid} (hf : FailsOnCuts f laid) :
    FailsOnCuts (fun r => RemoteSearch.andThen (f r) g) laid := by
  intro r n hn hr hflow
  obtain ⟨field, size, got, hcut, ho, hflow'⟩ := hf r n hn hr hflow
  have he : f r = (.error (.shortRead field size got), (f r).2) := Prod.ext ho rfl
  refine ⟨field, size, got, hcut, ?_⟩
  simp only []
  rw [he]
  exact ⟨rfl, hflow'⟩

end FailsOnCuts

namespace Dialect

variable (d : Dialect)

theorem failsOnCuts_readWord (field : Field) (w : Int32) :
    FailsOnCuts (d.readWord field) [(field, d.order.encodeSigned w)] := by
  have hfield := FailsOnCuts.readField field (d.order.encodeSigned w)
  rw [funext (d.readWord_eq field)]
  rw [Wire.Endian.length_encodeSigned] at hfield
  exact hfield.andThen_left

theorem failsOnCuts_readHeader (w : Int32) :
    FailsOnCuts d.readHeader [(.dataSize, d.order.encodeSigned w)] := by
  rw [funext d.readHeader_eq]
  exact (d.failsOnCuts_readWord .dataSize w).andThen_left

/-- A cut in the length of a needle, be the length taken or not. -/
theorem failsOnCuts_readNeedle_length (w : Int32) :
    FailsOnCuts d.readNeedle [(.needleLength, d.order.encodeSigned w)] := by
  rw [funext d.readNeedle_eq]
  exact (d.failsOnCuts_readWord .needleLength w).andThen_left

theorem failsOnCuts_readNeedle {t : Wire.WideText} (h : Response.NeedleFits d t) :
    FailsOnCuts d.readNeedle
      [(.needleLength, Response.count d.order t.length), (.needle, t.bytes)] := by
  have htext : FailsOnCuts (fun r => andThen (r.readField .needle t.bytes.length)
      fun bytes r => (.ok (⟨bytes⟩ : Wire.WideText), r)) [(.needle, t.bytes)] :=
    (FailsOnCuts.readField .needle t.bytes).andThen_left
  -- Between the two fields there is nothing but the check of the size, which the text passes.
  have hrest : FailsOnCuts (fun r => andThen (d.needleSize (Int32.ofNat t.length), r) fun size r =>
      andThen (r.readField .needle size) fun bytes r => (.ok (⟨bytes⟩ : Wire.WideText), r))
      [(.needle, t.bytes)] := by
    rw [d.needleSize_of_fits h]
    exact htext
  have hlength : ReadsAs (d.readWord .needleLength)
      (bytesOf [(.needleLength, Response.count d.order t.length)]) (Int32.ofNat t.length) := by
    rw [Response.bytesOf_singleton]
    exact d.readsAs_readWord .needleLength (Int32.ofNat t.length)
  rw [funext d.readNeedle_eq]
  exact (d.failsOnCuts_readWord .needleLength (Int32.ofNat t.length)).andThen hlength hrest

/-- The fields of a record after its first word. -/
theorem failsOnCuts_readBody {mode : Mode} {o : Occurrence} (h : Response.Fits d mode o) :
    FailsOnCuts (d.readBody mode o.data.length)
      ((.data, o.data) :: Response.needleFields d.order o.needle) := by
  rw [funext (d.readBody_eq mode o.data.length)]
  refine (FailsOnCuts.readField .data o.data).andThen (a := o.data) ?_ ?_
  · rw [Response.bytesOf_singleton]
    exact readsAs_readField .data o.data
  obtain ⟨data, needle⟩ := o
  cases needle with
  | none => exact .nil _
  | some t =>
    have hm : mode.hasNeedle = true := by rw [← h.needle]; rfl
    simp only [if_pos hm]
    exact (d.failsOnCuts_readNeedle (h.needleFits t rfl)).andThen_left

/-- A cut in the first word of a record, whatever it says. -/
theorem failsOnCuts_readMore_word (mode : Mode) (w : Int32) (newest : List Occurrence) :
    FailsOnCuts (d.readMore mode newest) [(.dataSize, d.order.encodeSigned w)] := by
  rw [funext (d.readMore_eq mode newest)]
  exact (d.failsOnCuts_readHeader w).andThen_left

/-- A cut in the first word of a record, or in what comes after a word that is taken. -/
theorem failsOnCuts_readMore_after {mode : Mode} {w : Int32} {header : Header}
    (hw : d.headerOf w = .ok header) {newest : List Occurrence} {more : List Laid}
    (hmore : FailsOnCuts (d.readAfter mode newest header) more) :
    FailsOnCuts (d.readMore mode newest) ([(.dataSize, d.order.encodeSigned w)] ++ more) := by
  have hheader : ReadsAs d.readHeader (bytesOf [(.dataSize, d.order.encodeSigned w)]) header := by
    rw [Response.bytesOf_singleton]
    exact d.readsAs_readHeader hw
  rw [funext (d.readMore_eq mode newest)]
  exact (d.failsOnCuts_readHeader w).andThen hheader hmore

/-- A cut in a record, or in what comes after a record in the mode. -/
theorem failsOnCuts_readMore_record {mode : Mode} {o : Occurrence} (h : Response.Fits d mode o)
    {newest : List Occurrence} {more : List Laid}
    (hmore : FailsOnCuts (fun r => if mode.stopsAtFirst then (.ok (o :: newest).reverse, r)
      else d.readMore mode (o :: newest) r) more) :
    FailsOnCuts (d.readMore mode newest) (Response.recordFields d.order o ++ more) := by
  have hbody : ReadsAs (d.readBody mode o.data.length)
      (bytesOf ((.data, o.data) :: Response.needleFields d.order o.needle)) o := by
    rw [Response.bytesOf_cons, Response.bytesOf_needleFields]
    exact d.readsAs_readBody h
  rw [Response.recordFields_eq, List.append_assoc]
  exact d.failsOnCuts_readMore_after (d.headerOf_of_fits h)
    ((d.failsOnCuts_readBody h).andThen hbody hmore)

/-- A cut in records where the mode goes on after records, or in what comes after them. -/
theorem failsOnCuts_readMore {mode : Mode} (hstops : mode.stopsAtFirst = false)
    {last : List Laid} (hlast : ∀ newest, FailsOnCuts (d.readMore mode newest) last)
    (newest : List Occurrence) {os : List Occurrence} (hos : ∀ o ∈ os, Response.Fits d mode o) :
    FailsOnCuts (d.readMore mode newest) (os.flatMap (Response.recordFields d.order) ++ last) := by
  induction os generalizing newest with
  | nil => exact hlast newest
  | cons o os ih =>
    rw [List.flatMap_cons, List.append_assoc]
    refine d.failsOnCuts_readMore_record (hos o (List.mem_cons_self ..)) ?_
    simp only [hstops, Bool.false_eq_true, if_false]
    exact ih (o :: newest) fun o' ho' => hos o' (List.mem_cons_of_mem o ho')

/-- A cut in the first record where the mode stops at it. -/
theorem failsOnCuts_readMore_first {mode : Mode} (hstops : mode.stopsAtFirst = true)
    {o : Occurrence} (h : Response.Fits d mode o) :
    FailsOnCuts (d.readMore mode []) (Response.recordFields d.order o) := by
  have key : FailsOnCuts (d.readMore mode []) (Response.recordFields d.order o ++ []) := by
    refine d.failsOnCuts_readMore_record h ?_
    simp only [hstops, if_true]
    exact .nil _
  rwa [List.append_nil] at key

end Dialect

/-- Reading the fields gives the outcome, whatever comes after them, and nothing more is taken; on a
cut of them it is a short read. -/
structure Settles {α : Type} (f : Reader → Except Failure α × Reader) (laid : List Laid)
    (o : Except Failure α) : Prop where
  whole : ∀ (r : Reader) (after : Flow), r.Ready → r.flow = Flow.ofBytes (bytesOf laid) ++ after →
    (f r).1 = o ∧ (f r).2.flow = after
  cut : FailsOnCuts f laid

/-- What a server sends is the response with the occurrences that the mode lets through. -/
theorem Response.encodes_bytes {d : Dialect} {mode : Mode} {closing : Int32}
    (hclosing : closing < 0) {os : List Occurrence} (hos : ∀ o ∈ os, Fits d mode o) :
    Encodes d mode (if mode.stopsAtFirst then os.take 1 else os)
      (bytes d.order mode closing os) := by
  cases hstops : mode.stopsAtFirst with
  | false =>
    rw [bytes_of_all hstops]
    exact .all hstops hos hclosing
  | true =>
    cases os with
    | nil =>
      rw [bytes_nil]
      exact .none hstops hclosing
    | cons o os =>
      rw [bytes_of_first hstops]
      exact .one hstops (hos o (List.mem_cons_self ..))

namespace Dialect

variable (d : Dialect)

theorem settles_readOccurrences {mode : Mode} {closing : Int32} (hclosing : closing < 0)
    {os : List Occurrence} (hos : ∀ o ∈ os, Response.Fits d mode o) :
    Settles (d.readOccurrences mode) (Response.fields d.order mode closing os)
      (.ok (if mode.stopsAtFirst then os.take 1 else os)) where
  whole r after hr hflow := by
    have hreads := d.readsAs_readOccurrences (Response.encodes_bytes hclosing hos)
    obtain ⟨ho, -, hafter⟩ := hreads r after hr hflow
    exact ⟨ho, hafter⟩
  cut := by
    cases hstops : mode.stopsAtFirst with
    | false =>
      simp only [Response.fields, hstops]
      exact d.failsOnCuts_readMore hstops (d.failsOnCuts_readMore_word mode closing) [] hos
    | true =>
      cases os with
      | nil =>
        simp only [Response.fields, hstops]
        exact d.failsOnCuts_readMore_word mode closing []
      | cons o os =>
        simp only [Response.fields, hstops]
        exact d.failsOnCuts_readMore_first hstops (hos o (List.mem_cons_self ..))

theorem failsOnCuts_readOccurrences {mode : Mode} {closing : Int32} (hclosing : closing < 0)
    {os : List Occurrence} (hos : ∀ o ∈ os, Response.Fits d mode o) :
    FailsOnCuts (d.readOccurrences mode) (Response.fields d.order mode closing os) :=
  (d.settles_readOccurrences hclosing hos).cut

/-- A response that is cut off is a short read, in whatever place the cut is and however many whole
records come before it. What is reported is the first field that ends behind the cut, with its size
and the number of its bytes before the cut, and all bytes before the cut are taken. -/
theorem decode_of_cut (d : Dialect) (mode : Mode) {closing : Int32} (hclosing : closing < 0)
    {os : List Occurrence} (hos : ∀ o ∈ os, Response.Fits d mode o) {n : Nat}
    (hn : n < (Response.bytes d.order mode closing os).length) :
    ∃ field size got, CutInto (Response.fields d.order mode closing os) n field size got ∧
      d.decode mode ((Response.bytes d.order mode closing os).take n) =
        (.error (.shortRead field size got), n) := by
  obtain ⟨field, size, got, hcut, ho, hflow⟩ :=
    d.failsOnCuts_readOccurrences hclosing hos _ n hn (ready_readerOf _) (flow_readerOf _)
  refine ⟨field, size, got, hcut, Prod.ext ho ?_⟩
  exact (decode_of_flow_nil hflow).trans (List.length_take_of_le (Nat.le_of_lt hn))

/-- Two records, of which the first has no user data, and a cut behind the first byte of the needle
of the second. -/
theorem decode_of_cut_in_needle :
    let os : List Occurrence :=
      [⟨[], some ⟨[0, 0, 0, 104]⟩⟩, ⟨[1, 2], some ⟨[0, 0, 0, 104, 0, 0, 0, 101]⟩⟩]
    CutInto (Response.fields .big .needle (-1) os) 23 .needle 8 1 ∧
      Dialect.decode ⟨.big, 16⟩ .needle ((Response.bytes .big .needle (-1) os).take 23) =
        (.error (.shortRead .needle 8 1), 23) := by
  intro os
  obtain ⟨field, size, got, hcut, ho⟩ := @decode_of_cut ⟨.big, 16⟩ .needle (-1) (by decide)
    os (by decide) 23 (by decide)
  have hdecode : Dialect.decode ⟨.big, 16⟩ .needle ((Response.bytes .big .needle (-1) os).take 23) =
      (.error (.shortRead .needle 8 1), 23) := by decide +kernel
  rw [hdecode] at ho
  cases ho
  exact ⟨hcut, hdecode⟩

end Dialect

end RemoteSearch
