import Mathlib.Algebra.Ring.Nat
import RemoteSearch.Proofs.Response.Refusal
import RemoteSearch.Proofs.Response.Truncation

set_option autoImplicit false

/-! # The two byte orders

What a server has to say does not depend on the order of bytes: entries of user data and words
(`Entry`), and a way in which the stream goes on or breaks off after them (`Ending`). `layout` puts
it into an order. Laid out in either order and read in the same one, it comes to the same
(`decode_mirrored`), also where it is refused, or cut off at any byte: the same failure, or
occurrences that differ in nothing but the bytes of their characters, and these read as the same
text.

Only the last step of this looks at two runs at once. What a layout comes to in either order is told
by the fields that are read of it (`Comes`): they settle the outcome (`settles_fieldsRead`), and
what a cut in them comes to depends on their sizes alone (`CutInto.same_place`), which are the same
in both orders.
-/

namespace RemoteSearch

/-! ## Characters in the other order -/

namespace Wire

theorem encode_big (w : UInt32) : Endian.big.encode w = (Endian.little.encode w).reverse := rfl

theorem decode_reverse (unit : List UInt8) :
    Endian.big.decode unit.reverse = Endian.little.decode unit := by
  simp only [Endian.decode, Endian.arrange, List.reverse_reverse]

/-- The bytes with each word of four in reverse; up to three bytes may be left over and stay. -/
def turned : List UInt8 → List UInt8
  | a :: b :: c :: d :: rest => d :: c :: b :: a :: turned rest
  | rest => rest

theorem turned_append_of_length {unit : List UInt8} (h : unit.length = 4) (rest : List UInt8) :
    turned (unit ++ rest) = unit.reverse ++ turned rest := by
  match unit, h with
  | [a, b, c, d], _ => rfl

theorem units_turned (bytes : List UInt8) :
    units (turned bytes) = (units bytes).map List.reverse := by
  fun_induction turned bytes with
  | case1 a b c d rest ih => rw [units, units, List.map_cons, ih]; rfl
  | case2 bytes h =>
    match bytes with
    | [] | [_] | [_, _] | [_, _, _] => rfl
    | a :: b :: c :: d :: rest => exact absurd rfl (h a b c d rest)

namespace WideText

/-- The text with the bytes of each character in reverse. -/
def mirrored (t : WideText) : WideText := ⟨turned t.bytes⟩

/-- The text of words. -/
def ofWords (order : Endian) (words : List UInt32) : WideText := ⟨words.flatMap order.encode⟩

theorem mirrored_ofWords (words : List UInt32) :
    (ofWords .little words).mirrored = ofWords .big words := by
  induction words with
  | nil => rfl
  | cons w words ih =>
    have htail : turned (words.flatMap Endian.little.encode) = words.flatMap Endian.big.encode :=
      congrArg bytes ih
    simp only [mirrored, ofWords, List.flatMap_cons]
    rw [turned_append_of_length (Endian.length_encode _ _), htail, encode_big]

theorem length_bytes_ofWords (order : Endian) (words : List UInt32) :
    (ofWords order words).bytes.length = 4 * words.length :=
  order.length_flatMap_encode words

/-- A text reads the same in the other order with its characters in reverse. -/
theorem toString_mirrored (t : WideText) : t.mirrored.toString .big = t.toString .little := by
  simp only [toString, toChars, mirrored, units_turned, List.map_map]
  congr 2
  funext unit
  exact congrArg scalarOr (decode_reverse unit)

end WideText

end Wire

/-- The occurrence with the bytes of each character in reverse. -/
def Occurrence.mirrored (o : Occurrence) : Occurrence :=
  { o with needle := o.needle.map Wire.WideText.mirrored }

namespace Response

/-! ## What is laid out -/

/-- What is sent of a match, within a limit: user data and, where needles are sent, the words of its
characters. -/
structure Entry (limit : Nat) (mode : Mode) where
  data : List UInt8
  data_le : data.length ≤ min limit (2 ^ 31 - 1)
  words : Option (List UInt32)
  isSome_words : words.isSome = mode.hasNeedle
  words_le : ∀ ws, words = some ws → 4 * ws.length ≤ min limit (4 * (2 ^ 31 - 1))

/-- What comes after the entries: nothing, a closing word, or a record that is refused for its first
word or for the length of its needle. Whatever there is behind the word is not read. -/
inductive Ending (limit : Nat) (mode : Mode)
  | silence
  | closing (w : Int32) (negative : w < 0) (content : List UInt8)
  | largeData (size : Int32) (nonneg : 0 ≤ size) (large : limit < size.toNatClampNeg)
      (content : List UInt8)
  | badNeedle (data : List UInt8) (length : Int32) (asked : mode.hasNeedle = true)
      (within : data.length ≤ min limit (2 ^ 31 - 1))
      (refused : length < 0 ∨ 0 ≤ length ∧ limit < 4 * length.toNatClampNeg) (words : List UInt32)

section

variable {limit : Nat} {mode : Mode}

/-- The occurrence of an entry in an order. -/
def Entry.inOrder (order : Wire.Endian) (e : Entry limit mode) : Occurrence where
  data := e.data
  needle := e.words.map (.ofWords order)

/-- The fields of an ending that are read in an order. -/
def Ending.fields (order : Wire.Endian) : Ending limit mode → List Laid
  | silence => []
  | closing w _ _ => [(.dataSize, order.encodeSigned w)]
  | largeData size _ _ _ => [(.dataSize, order.encodeSigned size)]
  | badNeedle data length _ _ _ _ =>
    [(.dataSize, count order data.length), (.data, data),
      (.needleLength, order.encodeSigned length)]

/-- The bytes of an ending behind those fields. -/
def Ending.unread (order : Wire.Endian) : Ending limit mode → List UInt8
  | silence => []
  | closing _ _ content => content
  | largeData _ _ _ content => content
  | badNeedle _ _ _ _ _ words => (Wire.WideText.ofWords order words).bytes

/-- The occurrences of entries in an order. -/
def inOrder (order : Wire.Endian) (entries : List (Entry limit mode)) : List Occurrence :=
  entries.map (Entry.inOrder order)

/-- The bytes of entries with an ending. -/
def layout (order : Wire.Endian) (entries : List (Entry limit mode)) (ending : Ending limit mode) :
    List UInt8 :=
  (inOrder order entries).flatMap (recordBytes order) ++
    (bytesOf (ending.fields order) ++ ending.unread order)

/-! ## Reading in one order -/

theorem Entry.fits (order : Wire.Endian) (e : Entry limit mode) :
    Fits ⟨order, limit⟩ mode (e.inOrder order) := by
  refine ⟨e.data_le, ?_, fun t ht => ?_⟩
  · rw [inOrder, Option.isSome_map, e.isSome_words]
  · obtain ⟨words, hwords, rfl⟩ := Option.map_eq_some_iff.1 ht
    have hle := e.words_le words hwords
    have hlength := Wire.WideText.length_bytes_ofWords order words
    constructor
    · rw [hlength]
      exact Nat.mul_mod_right 4 _
    · rw [hlength]
      exact Nat.le_trans hle (Nat.min_le_left _ _)
    · rw [hlength]
      exact Nat.le_trans hle (Nat.min_le_right _ _)

/-- The failure in which an ending ends. -/
def Ending.failure? : Ending limit mode → Option Failure
  | silence => none
  | closing _ _ _ => none
  | largeData size _ _ _ => some (.fieldTooLarge .dataSize size.toNatClampNeg limit)
  | badNeedle _ length _ _ _ _ =>
    if length < 0 then some (.protocol (.negativeNeedleLength length))
    else some (.fieldTooLarge .needle (4 * length.toNatClampNeg) limit)

theorem Ending.refusal (order : Wire.Endian) {ending : Ending limit mode} {e : Failure}
    (h : ending.failure? = some e) :
    Refusal ⟨order, limit⟩ mode (bytesOf (ending.fields order)) e := by
  cases ending with
  | silence | closing => cases h
  | largeData size nonneg large content =>
    cases h
    rw [fields, bytesOf_singleton]
    exact .data nonneg large
  | badNeedle data length asked within refused words =>
    rw [fields, bytesOf_cons, bytesOf_cons, bytesOf_singleton]
    rcases refused with hneg | ⟨hnonneg, hlarge⟩
    · rw [failure?, if_pos hneg] at h
      cases h
      exact .negative asked within hneg
    · rw [failure?, if_neg (Int32.not_lt.2 hnonneg)] at h
      cases h
      exact .needle asked within hnonneg hlarge

theorem Ending.failsOnCuts (order : Wire.Endian) {ending : Ending limit mode} {e : Failure}
    (h : ending.failure? = some e) (newest : List Occurrence) :
    FailsOnCuts (Dialect.readMore ⟨order, limit⟩ mode newest) (ending.fields order) := by
  let d : Dialect := ⟨order, limit⟩
  cases ending with
  | silence | closing => cases h
  | largeData size nonneg large content => exact d.failsOnCuts_readMore_word mode size newest
  | badNeedle data length asked within refused words =>
    have hle : data.length ≤ limit := Nat.le_trans within (Nat.min_le_left _ _)
    have hheader : d.headerOf (Int32.ofNat data.length) = .ok (.record data.length) :=
      (d.headerOf_eq_record_iff _ _).2 ⟨rfl, by omega, hle⟩
    have hbody : FailsOnCuts (d.readBody mode data.length)
        [(.data, data), (.needleLength, order.encodeSigned length)] := by
      rw [funext (d.readBody_eq mode data.length)]
      show FailsOnCuts _ ([(.data, data)] ++ [(.needleLength, order.encodeSigned length)])
      refine (FailsOnCuts.readField .data data).andThen (a := data) ?_ ?_
      · rw [bytesOf_singleton]
        exact readsAs_readField .data data
      · simp only [if_pos asked]
        exact (d.failsOnCuts_readNeedle_length length).andThen_left
    have hafter : FailsOnCuts (d.readAfter mode newest (.record data.length))
        [(.data, data), (.needleLength, order.encodeSigned length)] := hbody.andThen_left
    exact d.failsOnCuts_readMore_after hheader hafter

/-- The fields that are read of entries with an ending: in a mode that stops at the first
occurrence, nothing behind the first entry. -/
def fieldsRead (order : Wire.Endian) (entries : List (Entry limit mode))
    (ending : Ending limit mode) : List Laid :=
  match mode.stopsAtFirst, inOrder order entries with
  | true, o :: _ => recordFields order o
  | _, os => os.flatMap (recordFields order) ++ ending.fields order

/-- What comes of entries with an ending. -/
def expected (entries : List (Entry limit mode)) (ending : Ending limit mode) :
    Except Failure (List (Entry limit mode)) :=
  match mode.stopsAtFirst, entries, ending.failure? with
  | true, e :: _, _ => .ok [e]
  | _, es, none => .ok es
  | _, _, some e => .error e

/-- The ending is reached unless the mode stops before it. -/
def Reaches (entries : List (Entry limit mode)) : Prop :=
  mode.stopsAtFirst = true → entries = []

theorem fieldsRead_of_reaches (order : Wire.Endian) {entries : List (Entry limit mode)}
    (h : Reaches entries) (ending : Ending limit mode) :
    fieldsRead order entries ending =
      (inOrder order entries).flatMap (recordFields order) ++ ending.fields order := by
  cases hstops : mode.stopsAtFirst with
  | false => simp only [fieldsRead, hstops]
  | true =>
    rw [h hstops]
    simp only [fieldsRead, hstops, inOrder, List.map_nil]

theorem expected_of_reaches {entries : List (Entry limit mode)} (h : Reaches entries)
    (ending : Ending limit mode) :
    expected entries ending =
      match ending.failure? with
      | none => .ok entries
      | some e => .error e := by
  cases hstops : mode.stopsAtFirst with
  | false => cases he : ending.failure? <;> simp only [expected, hstops, he]
  | true =>
    rw [h hstops]
    cases he : ending.failure? <;> simp only [expected, hstops, he]

/-- What is laid out begins with the fields that are read. -/
theorem layout_eq (order : Wire.Endian) (entries : List (Entry limit mode))
    (ending : Ending limit mode) :
    ∃ behind,
      layout order entries ending = bytesOf (fieldsRead order entries ending) ++ behind := by
  by_cases h : Reaches entries
  · refine ⟨ending.unread order, ?_⟩
    rw [fieldsRead_of_reaches order h, bytesOf_append, bytesOf_flatMap_recordFields,
      List.append_assoc]
    rfl
  · obtain ⟨hstops, hentries⟩ := Classical.not_imp.1 h
    obtain ⟨e, es, rfl⟩ := List.exists_cons_of_ne_nil hentries
    simp only [layout, fieldsRead, hstops, inOrder, List.map_cons, List.flatMap_cons,
      List.append_assoc]
    exact ⟨_, rfl⟩

/-- The fields that are read settle what comes of entries with an ending. -/
theorem settles_fieldsRead (order : Wire.Endian) (entries : List (Entry limit mode))
    {ending : Ending limit mode} (hending : ending ≠ .silence) :
    Settles (Dialect.readOccurrences ⟨order, limit⟩ mode) (fieldsRead order entries ending)
      ((expected entries ending).map (inOrder order)) := by
  let d : Dialect := ⟨order, limit⟩
  have hos : ∀ o ∈ inOrder order entries, Fits d mode o := by
    intro o ho
    obtain ⟨e, -, rfl⟩ := List.mem_map.1 ho
    exact e.fits order
  by_cases h : Reaches entries
  · rw [fieldsRead_of_reaches order h, expected_of_reaches h]
    have hreached : mode.stopsAtFirst = true → inOrder order entries = [] := by
      intro hstops
      rw [h hstops]
      rfl
    cases he : ending.failure? with
    | some e =>
      -- A refusal is not part of the grammar, so its two sides are taken from different places.
      constructor
      · intro r after hr hflow
        rw [bytesOf_append, bytesOf_flatMap_recordFields] at hflow
        exact d.refusesAs_readOccurrences hos hreached (ending.refusal order he) r after hr hflow
      · cases hstops : mode.stopsAtFirst with
        | false => exact d.failsOnCuts_readMore hstops (ending.failsOnCuts order he) [] hos
        | true =>
          rw [hreached hstops]
          exact ending.failsOnCuts order he []
    | none =>
      cases ending with
      | silence => exact absurd rfl hending
      | closing w negative content =>
        have key := d.settles_readOccurrences negative hos
        cases hstops : mode.stopsAtFirst with
        | false =>
          simp only [fields, hstops] at key
          exact key
        | true =>
          rw [hreached hstops] at key ⊢
          rw [h hstops]
          simp only [fields, hstops] at key
          exact key
      | largeData => cases he
      | badNeedle data length asked within refused words =>
        rw [Ending.failure?] at he
        split at he <;> cases he
  · obtain ⟨hstops, hentries⟩ := Classical.not_imp.1 h
    obtain ⟨e, es, rfl⟩ := List.exists_cons_of_ne_nil hentries
    -- Which closing word there would be does not matter: it is not read.
    have hclosing : (-1 : Int32) < 0 := by decide
    have key := d.settles_readOccurrences hclosing hos
    simp only [fieldsRead, expected, hstops, inOrder, List.map_cons] at key ⊢
    simp only [fields, hstops] at key
    exact key

end

/-! ## Cuts in fields of the same sizes -/

/-- The fields with their sizes. -/
def sizes (laid : List Laid) : List (Field × Nat) := laid.map fun x => (x.1, x.2.length)

theorem cutInto_cons_iff {field₀ field : Field} {content : List UInt8} {laid : List Laid}
    {n size got : Nat} :
    CutInto ((field₀, content) :: laid) n field size got ↔
      (n < content.length ∧ field = field₀ ∧ size = content.length ∧ got = n) ∨
        (content.length ≤ n ∧ CutInto laid (n - content.length) field size got) := by
  constructor
  · rintro ⟨before, content', after, hlaid, rfl, rfl, hgot⟩
    cases before with
    | nil =>
      cases hlaid
      left
      simpa using hgot
    | cons x before =>
      cases hlaid
      right
      rw [bytesOf_cons, List.length_append]
      exact ⟨by omega, before, content', after, rfl, rfl, by omega, hgot⟩
  · rintro (⟨hn, rfl, rfl, rfl⟩ | ⟨hn, before, content', after, rfl, hsize, hcut, hgot⟩)
    · exact ⟨[], content, laid, rfl, rfl, (Nat.zero_add _).symm, hn⟩
    · refine ⟨(field₀, content) :: before, content', after, rfl, hsize, ?_, hgot⟩
      rw [bytesOf_cons, List.length_append]
      omega

theorem CutInto.lt_length {laid : List Laid} {n size got : Nat} {field : Field}
    (h : CutInto laid n field size got) : n < (bytesOf laid).length := by
  obtain ⟨before, content, after, rfl, rfl, rfl, hgot⟩ := h
  rw [bytesOf_append, List.length_append, bytesOf_cons, List.length_append]
  omega

/-- Where a cut goes is a matter of the sizes. -/
theorem CutInto.same_place {laid laid' : List Laid} (hsizes : sizes laid = sizes laid')
    {n size got size' got' : Nat} {field field' : Field} (h : CutInto laid n field size got)
    (h' : CutInto laid' n field' size' got') : field = field' ∧ size = size' ∧ got = got' := by
  induction laid generalizing laid' n with
  | nil =>
    obtain ⟨before, content, after, hlaid, -⟩ := h
    exact absurd hlaid (by simp)
  | cons x laid ih =>
    cases laid' with
    | nil => cases hsizes
    | cons x' laid' =>
      obtain ⟨field₀, content⟩ := x
      obtain ⟨field₀', content'⟩ := x'
      simp only [sizes, List.map_cons, List.cons.injEq, Prod.mk.injEq] at hsizes
      obtain ⟨⟨rfl, hlength⟩, hrest⟩ := hsizes
      rcases cutInto_cons_iff.1 h with ⟨hn, rfl, rfl, rfl⟩ | ⟨hn, hcut⟩
      · rcases cutInto_cons_iff.1 h' with ⟨-, rfl, rfl, rfl⟩ | ⟨hn', -⟩
        · exact ⟨rfl, hlength, rfl⟩
        · omega
      · rcases cutInto_cons_iff.1 h' with ⟨hn', -⟩ | ⟨-, hcut'⟩
        · omega
        · rw [← hlength] at hcut'
          exact ih hrest hcut hcut'

theorem length_bytesOf (laid : List Laid) :
    (bytesOf laid).length = ((sizes laid).map Prod.snd).sum := by
  rw [bytesOf, List.length_flatMap, sizes, List.map_map]
  rfl

theorem sizes_append (a b : List Laid) : sizes (a ++ b) = sizes a ++ sizes b := List.map_append

section

variable {limit : Nat} {mode : Mode}

theorem Entry.sizes_inOrder (order : Wire.Endian) (e : Entry limit mode) :
    sizes (recordFields order (e.inOrder order)) =
      [(.dataSize, 4), (.data, e.data.length)] ++
        match e.words with
        | none => []
        | some words => [(.needleLength, 4), (.needle, 4 * words.length)] := by
  cases h : e.words with
  | none => simp [sizes, recordFields, inOrder, h]
  | some words => simp [sizes, recordFields, inOrder, h, Wire.WideText.length_bytes_ofWords]

theorem sizes_inOrder (order : Wire.Endian) (entries : List (Entry limit mode)) :
    sizes ((inOrder order entries).flatMap (recordFields order)) =
      entries.flatMap fun e => sizes (recordFields .little (e.inOrder .little)) := by
  induction entries with
  | nil => rfl
  | cons e entries ih =>
    have he := (e.sizes_inOrder order).trans (e.sizes_inOrder .little).symm
    rw [List.flatMap_cons, ← ih, ← he, ← sizes_append]
    rfl

theorem Ending.sizes_fields (order : Wire.Endian) (ending : Ending limit mode) :
    sizes (ending.fields order) = sizes (ending.fields .little) := by
  cases ending <;> simp [sizes, fields]

theorem sizes_fieldsRead (order : Wire.Endian) (entries : List (Entry limit mode))
    (ending : Ending limit mode) :
    sizes (fieldsRead order entries ending) = sizes (fieldsRead .little entries ending) := by
  by_cases h : Reaches entries
  · rw [fieldsRead_of_reaches order h, fieldsRead_of_reaches .little h, sizes_append, sizes_append,
      sizes_inOrder order, sizes_inOrder .little, ending.sizes_fields order]
  · obtain ⟨hstops, hentries⟩ := Classical.not_imp.1 h
    obtain ⟨e, es, rfl⟩ := List.exists_cons_of_ne_nil hentries
    simp only [fieldsRead, hstops, inOrder, List.map_cons]
    exact (e.sizes_inOrder order).trans (e.sizes_inOrder .little).symm

theorem Ending.length_unread (order : Wire.Endian) (ending : Ending limit mode) :
    (ending.unread order).length = (ending.unread .little).length := by
  cases ending with
  | silence | closing | largeData => rfl
  | badNeedle data length asked within refused words =>
    exact (Wire.WideText.length_bytes_ofWords order words).trans
      (Wire.WideText.length_bytes_ofWords .little words).symm

/-- What is laid out takes as many bytes in one order as in the other. -/
theorem length_layout (order : Wire.Endian) (entries : List (Entry limit mode))
    (ending : Ending limit mode) :
    (layout order entries ending).length = (layout .little entries ending).length := by
  have key : ∀ order, (layout order entries ending).length =
      (bytesOf ((inOrder order entries).flatMap (recordFields order))).length +
        ((bytesOf (ending.fields order)).length + (ending.unread order).length) := by
    intro order
    rw [layout, List.length_append, List.length_append, bytesOf_flatMap_recordFields]
  rw [key, key, length_bytesOf, length_bytesOf, length_bytesOf, length_bytesOf, sizes_inOrder order,
    sizes_inOrder .little, ending.sizes_fields order, ending.length_unread order]

end

end Response

/-! ## What a layout comes to -/

namespace Settles

variable {d : Dialect} {mode : Mode} {laid : List Response.Laid}
  {o : Except Failure (List Occurrence)}

/-- Fields that settle an outcome, with the bytes behind them, where a cut goes into the fields. -/
theorem decode_of_lt (h : Settles (d.readOccurrences mode) laid o) (behind : List UInt8) {n : Nat}
    (hn : n < (Response.bytesOf laid).length) :
    ∃ field size got, Response.CutInto laid n field size got ∧
      d.decode mode ((Response.bytesOf laid ++ behind).take n) =
        (.error (.shortRead field size got), n) := by
  rw [List.take_append_of_le_length (Nat.le_of_lt hn)]
  obtain ⟨field, size, got, hcut, ho, hflow⟩ :=
    h.cut _ n hn (Dialect.ready_readerOf _) (Dialect.flow_readerOf _)
  refine ⟨field, size, got, hcut, Prod.ext ho ?_⟩
  exact (Dialect.decode_of_flow_nil hflow).trans (List.length_take_of_le (Nat.le_of_lt hn))

/-- The same where a cut is behind the fields. -/
theorem decode_of_le (h : Settles (d.readOccurrences mode) laid o) (behind : List UInt8) {n : Nat}
    (hn : (Response.bytesOf laid).length ≤ n) :
    d.decode mode ((Response.bytesOf laid ++ behind).take n) =
      (o, (Response.bytesOf laid).length) := by
  obtain ⟨m, rfl⟩ := Nat.exists_eq_add_of_le hn
  rw [List.take_length_add_append]
  have hflow := Dialect.flow_readerOf (Response.bytesOf laid ++ behind.take m)
  rw [Flow.ofBytes_append] at hflow
  obtain ⟨ho, hafter⟩ := h.whole _ _ (Dialect.ready_readerOf _) hflow
  exact Prod.ext ho (Dialect.decode_of_flow hafter)

end Settles

namespace Response

variable {limit : Nat} {mode : Mode}

/-- The ending that is waited for. Where there is none, it is a closing word that is missed. -/
def Ending.awaited : Ending limit mode → Ending limit mode
  | silence => closing (-1) (by decide) []
  | ending => ending

theorem Ending.awaited_ne_silence (ending : Ending limit mode) : ending.awaited ≠ .silence := by
  cases ending <;> exact nofun

/-- What comes of `n` bytes of entries with an ending, and how many of them are taken. Once the
fields that are read are there, it is what the entries come to with the ending. Before that, it is a
short read of the field in which the bytes end. -/
inductive Comes (order : Wire.Endian) (entries : List (Entry limit mode))
    (ending : Ending limit mode) (n : Nat) : Except Failure (List Occurrence) × Nat → Prop
  | whole (le : (bytesOf (fieldsRead order entries ending.awaited)).length ≤ n) :
      Comes order entries ending n
        ((expected entries ending.awaited).map (inOrder order),
          (bytesOf (fieldsRead order entries ending.awaited)).length)
  | cut {field : Field} {size got : Nat}
      (into : CutInto (fieldsRead order entries ending.awaited) n field size got) :
      Comes order entries ending n (.error (.shortRead field size got), n)

/-- A cut layout is a cut of that with the ending that is waited for. -/
theorem take_layout (order : Wire.Endian) (entries : List (Entry limit mode))
    (ending : Ending limit mode) (n : Nat) :
    (layout order entries ending).take n =
      (layout order entries ending.awaited).take (min n (layout order entries ending).length) := by
  have hsame : ∀ bytes : List UInt8, bytes.take n = bytes.take (min n bytes.length) := by
    intro bytes
    rw [List.take_eq_take_iff, Nat.min_assoc, Nat.min_self]
  cases ending with
  | silence =>
    have happend : layout order entries (Ending.silence : Ending limit mode).awaited =
        layout order entries .silence ++ order.encodeSigned (-1) := by
      simp [Ending.awaited, layout, Ending.fields, Ending.unread]
    rw [happend, List.take_append_of_le_length (Nat.min_le_right ..)]
    exact hsame _
  | closing | largeData | badNeedle => exact hsame _

theorem comes_decode (order : Wire.Endian) (entries : List (Entry limit mode))
    (ending : Ending limit mode) (n : Nat) :
    Comes order entries ending (min n (layout order entries ending).length)
      (Dialect.decode ⟨order, limit⟩ mode ((layout order entries ending).take n)) := by
  obtain ⟨behind, hlayout⟩ := layout_eq order entries ending.awaited
  have hsettles := settles_fieldsRead order entries ending.awaited_ne_silence
  rw [take_layout, hlayout]
  generalize min n (layout order entries ending).length = m
  rcases Nat.lt_or_ge m (bytesOf (fieldsRead order entries ending.awaited)).length with hm | hm
  · obtain ⟨field, size, got, hcut, hdecode⟩ := hsettles.decode_of_lt behind hm
    rw [hdecode]
    exact .cut hcut
  · rw [hsettles.decode_of_le behind hm]
    exact .whole hm

/-! ## Both orders -/

theorem Entry.mirrored_inOrder (e : Entry limit mode) :
    (e.inOrder .little).mirrored = e.inOrder .big := by
  simp only [inOrder, Occurrence.mirrored, Option.map_map]
  congr 2
  funext words
  exact Wire.WideText.mirrored_ofWords words

theorem mirrored_inOrder (outcome : Except Failure (List (Entry limit mode))) :
    (outcome.map (inOrder .little)).map (List.map Occurrence.mirrored) =
      outcome.map (inOrder .big) := by
  cases outcome with
  | error e => rfl
  | ok entries =>
    refine congrArg Except.ok ?_
    rw [inOrder, List.map_map]
    exact List.map_congr_left fun e _ => e.mirrored_inOrder

/-- As many bytes come to the same in both orders. -/
theorem Comes.mirrored {entries : List (Entry limit mode)} {ending : Ending limit mode} {n : Nat}
    {little big : Except Failure (List Occurrence) × Nat}
    (h : Comes .little entries ending n little) (h' : Comes .big entries ending n big) :
    big = (little.1.map (List.map Occurrence.mirrored), little.2) := by
  have hsizes := sizes_fieldsRead .big entries ending.awaited
  have hlength : (bytesOf (fieldsRead .big entries ending.awaited)).length =
      (bytesOf (fieldsRead .little entries ending.awaited)).length := by
    rw [length_bytesOf, length_bytesOf, hsizes]
  -- A cut is in the fields that are read, and there in the same place, or it is behind all of them.
  cases h with
  | whole hle =>
    cases h' with
    | whole hle' => rw [mirrored_inOrder, hlength]
    | cut into' => exact absurd (hlength ▸ hle) (Nat.not_le.2 into'.lt_length)
  | cut into =>
    cases h' with
    | whole hle' => exact absurd (hlength ▸ hle') (Nat.not_le.2 into.lt_length)
    | cut into' =>
      obtain ⟨rfl, rfl, rfl⟩ := into'.same_place hsizes into
      rfl

/-- Laid out and read in big-endian order, entries with an ending come to the same as in
little-endian order, wherever the layout is cut off: as many bytes are taken, a failure is the same
one, and occurrences have the same user data and the same texts, with the bytes of each character in
reverse. What they come to in either order is told by the entries, the ending and the cut. -/
theorem decode_mirrored (limit : Nat) (mode : Mode) (entries : List (Entry limit mode))
    (ending : Ending limit mode) (n : Nat) :
    let little := Dialect.decode ⟨.little, limit⟩ mode ((layout .little entries ending).take n)
    let big := Dialect.decode ⟨.big, limit⟩ mode ((layout .big entries ending).take n)
    big.2 = little.2 ∧
      big.1 = little.1.map (List.map Occurrence.mirrored) ∧
      (∀ os, little.1 = .ok os → ∀ o ∈ os,
        o.mirrored.data = o.data ∧
          o.mirrored.needle.map (·.toString .big) = o.needle.map (·.toString .little)) ∧
      ∀ order, Comes order entries ending (min n (layout order entries ending).length)
        (Dialect.decode ⟨order, limit⟩ mode ((layout order entries ending).take n)) := by
  intro little big
  have hlittle :
      Comes .little entries ending (min n (layout .little entries ending).length) little :=
    comes_decode .little entries ending n
  have hbig : Comes .big entries ending (min n (layout .little entries ending).length) big := by
    rw [← length_layout .big entries ending]
    exact comes_decode .big entries ending n
  have hsame := hlittle.mirrored hbig
  refine ⟨by rw [hsame], by rw [hsame], fun os _ o _ => ⟨rfl, ?_⟩,
    fun order => comes_decode order entries ending n⟩
  simp only [Occurrence.mirrored, Option.map_map]
  congr 1
  funext t
  exact t.toString_mirrored

/-- A record with one character that is asked for, and one whose needle has a negative length. -/
example :
    let entries : List (Entry 16 .needle) :=
      [⟨[1, 2], by decide, some [104], rfl, by rintro _ ⟨⟩; decide⟩]
    let ending : Ending 16 .needle := .badNeedle [] (-2) rfl (by decide) (.inl (by decide)) []
    layout .little entries ending =
        [2, 0, 0, 0, 1, 2, 1, 0, 0, 0, 104, 0, 0, 0, 0, 0, 0, 0, 254, 255, 255, 255] ∧
      Dialect.decode ⟨.little, 16⟩ .needle (layout .little entries ending) =
        (.error (.protocol (.negativeNeedleLength (-2))), 22) ∧
      Dialect.decode ⟨.big, 16⟩ .needle (layout .big entries ending) =
        (.error (.protocol (.negativeNeedleLength (-2))), 22) := by
  decide +kernel

end Response

end RemoteSearch
