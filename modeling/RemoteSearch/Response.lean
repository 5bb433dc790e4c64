import RemoteSearch.Mode
import RemoteSearch.Reader
import RemoteSearch.Wire.WideText

set_option autoImplicit false

/-! # Responses

A response is a sequence of records. Each starts with a signed word: a negative one says that there
are no more records, any other is the size of the user data that follows. Where the mode asks for
needles, a second signed word gives the number of characters of the matched needle, which follows
in units of four bytes. After the first record a response in a mode that stops at the first
occurrence is over, without a closing word.

Sizes are checked against a limit before anything of the field is read. A failure anywhere gives up
the records read so far.
-/

namespace RemoteSearch

/-! ## Occurrences

What a search finds: for each occurrence the user data the server attached to it, and the text that
matched where the search mode asked for it. A search that finds nothing has no occurrences, which
is no failure.
-/

/-- One occurrence found by a search. -/
structure Occurrence where
  data : List UInt8 := []
  needle : Option Wire.WideText := none
deriving DecidableEq

/-- The number of bytes of user data. -/
def Occurrence.dataSize (o : Occurrence) : Nat := o.data.length

/-! ## Dialects -/

/-- The largest size of a field that is taken unless another limit is set, sixteen mebibytes. -/
def defaultFieldLimit : Nat := 16777216

/-- What both peers agreed on, and how much a reader will take: the byte order, and the largest
size of a field. -/
structure Dialect where
  order : Wire.Endian := .little
  fieldLimit : Nat := defaultFieldLimit
deriving DecidableEq

/-- The start of a record: none follows, or one with so many bytes of user data. -/
inductive Header
  | finished
  | record (dataSize : Nat)
deriving DecidableEq

namespace Dialect

/-- Lets a field of this size pass if it is within the limit. -/
def allow (d : Dialect) (field : Field) (size : Nat) : Except Failure Nat :=
  if d.fieldLimit < size then .error (.fieldTooLarge field size d.fieldLimit) else .ok size

/-- What the word at the start of a record says. -/
def headerOf (d : Dialect) (size : Int32) : Except Failure Header :=
  if size < 0 then .ok .finished else (d.allow .dataSize size.toNatClampNeg).map .record

/-- The number of bytes of a needle, from the word that gives its number of characters. -/
def needleSize (d : Dialect) (length : Int32) : Except Failure Nat :=
  if length < 0 then .error (.protocol (.negativeNeedleLength length))
  else d.allow .needle (length.toNatClampNeg * Wire.unitSize)

/-- Reads a word. -/
def readWord (d : Dialect) (field : Field) (r : Reader) : Except Failure Int32 × Reader :=
  match r.readField field 4 with
  | (.error e, r) => (.error e, r)
  | (.ok bytes, r) => (.ok (d.order.decodeSigned bytes), r)

/-- Reads the start of the next record. -/
def readHeader (d : Dialect) (r : Reader) : Except Failure Header × Reader :=
  match d.readWord .dataSize r with
  | (.error e, r) => (.error e, r)
  | (.ok size, r) => (d.headerOf size, r)

/-- Reads a matched needle with its length. -/
def readNeedle (d : Dialect) (r : Reader) : Except Failure Wire.WideText × Reader :=
  match d.readWord .needleLength r with
  | (.error e, r) => (.error e, r)
  | (.ok length, r) =>
    match d.needleSize length with
    | .error e => (.error e, r)
    | .ok size =>
      match r.readField .needle size with
      | (.error e, r) => (.error e, r)
      | (.ok bytes, r) => (.ok ⟨bytes⟩, r)

/-- Reads the rest of a record whose start has been read. A field of no bytes asks nothing of the
reader. -/
def readBody (d : Dialect) (mode : Mode) (dataSize : Nat) (r : Reader) :
    Except Failure Occurrence × Reader :=
  match r.readField .data dataSize with
  | (.error e, r) => (.error e, r)
  | (.ok data, r) =>
    if mode.hasNeedle then
      match d.readNeedle r with
      | (.error e, r) => (.error e, r)
      | (.ok needle, r) => (.ok { data, needle := some needle }, r)
    else (.ok { data }, r)

theorem rest_readWord {d : Dialect} {field : Field} {w : Int32} {r r' : Reader}
    (h : d.readWord field r = (.ok w, r')) : r.rest = d.order.encodeSigned w ++ r'.rest := by
  unfold readWord at h
  split at h
  · cases h
  · next hf =>
    cases h
    have hp := Reader.rest_readField hf
    rw [Wire.Endian.encodeSigned_decodeSigned _ hp.2]
    exact hp.1

theorem rest_readHeader {d : Dialect} {header : Header} {r r' : Reader}
    (h : d.readHeader r = (.ok header, r')) :
    ∃ w, d.headerOf w = .ok header ∧ r.rest = d.order.encodeSigned w ++ r'.rest := by
  unfold readHeader at h
  split at h
  · cases h
  · next w _ hw =>
    obtain ⟨hh, rfl⟩ := Prod.mk.inj h
    exact ⟨w, hh, rest_readWord hw⟩

theorem rest_readNeedle {d : Dialect} {t : Wire.WideText} {r r' : Reader}
    (h : d.readNeedle r = (.ok t, r')) :
    ∃ w, d.needleSize w = .ok t.bytes.length ∧
      r.rest = d.order.encodeSigned w ++ t.bytes ++ r'.rest := by
  unfold readNeedle at h
  split at h
  · cases h
  · next w _ hw =>
    split at h
    · cases h
    · next size hs =>
      split at h
      · cases h
      · next ht =>
        cases h
        have hp := Reader.rest_readField ht
        refine ⟨w, ?_, ?_⟩
        · rw [hp.2]
          exact hs
        · rw [rest_readWord hw, hp.1, List.append_assoc]

theorem length_rest_readHeader {d : Dialect} {header : Header} {r r' : Reader}
    (h : d.readHeader r = (.ok header, r')) : r.rest.length = r'.rest.length + 4 := by
  obtain ⟨w, _, hr⟩ := rest_readHeader h
  rw [hr, List.length_append, Wire.Endian.length_encodeSigned, Nat.add_comm]

theorem length_rest_readBody {d : Dialect} {mode : Mode} {size : Nat} {o : Occurrence}
    {r r' : Reader} (h : d.readBody mode size r = (.ok o, r')) :
    r'.rest.length ≤ r.rest.length := by
  unfold readBody at h
  split at h
  · cases h
  · next hd =>
    have hp := (Reader.rest_readField hd).1
    split at h
    · split at h
      · cases h
      · next ht =>
        cases h
        obtain ⟨w, _, hq⟩ := rest_readNeedle ht
        rw [hp, hq]
        simp only [List.length_append]
        omega
    · cases h
      rw [hp, List.length_append]
      omega

/-- Reads records after those already read, which are given newest first. -/
def readMore (d : Dialect) (mode : Mode) (newest : List Occurrence) (r : Reader) :
    Except Failure (List Occurrence) × Reader :=
  match _h : d.readHeader r with
  | (.error e, r₁) => (.error e, r₁)
  | (.ok .finished, r₁) => (.ok newest.reverse, r₁)
  | (.ok (.record size), r₁) =>
    match _h' : d.readBody mode size r₁ with
    | (.error e, r₂) => (.error e, r₂)
    | (.ok o, r₂) =>
      if mode.stopsAtFirst then (.ok (o :: newest).reverse, r₂)
      else readMore d mode (o :: newest) r₂
termination_by r.rest.length
decreasing_by
  have := length_rest_readHeader _h
  have := length_rest_readBody _h'
  omega

/-- Reads the occurrences of one response. -/
def readOccurrences (d : Dialect) (mode : Mode) (r : Reader) :
    Except Failure (List Occurrence) × Reader :=
  d.readMore mode [] r

end Dialect

end RemoteSearch
