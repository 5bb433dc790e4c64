import RemoteSearch.Response

set_option autoImplicit false

/-! # The layout of a response

What a server sends, field by field. Laid out in this way, an answer can be cut at any byte and
still be told apart into whole fields and a part of one.
-/

namespace RemoteSearch.Response

/-- A field with its bytes. -/
abbrev Laid : Type := Field × List UInt8

/-- A signed word that gives a count. -/
def count (order : Wire.Endian) (n : Nat) : List UInt8 := order.encodeSigned (Int32.ofNat n)

/-- The fields of one record. -/
def recordFields (order : Wire.Endian) (o : Occurrence) : List Laid :=
  [(.dataSize, count order o.data.length), (.data, o.data)] ++
    match o.needle with
    | none => []
    | some t => [(.needleLength, count order t.length), (.needle, t.bytes)]

/-- The fields of a whole answer. A mode that stops at the first occurrence has one record and no
closing word, unless there is no record at all. -/
def fields (order : Wire.Endian) (mode : Mode) (closing : Int32) (os : List Occurrence) :
    List Laid :=
  match mode.stopsAtFirst, os with
  | true, o :: _ => recordFields order o
  | _, os => os.flatMap (recordFields order) ++ [(.dataSize, order.encodeSigned closing)]

/-- The bytes of fields. -/
def bytesOf (laid : List Laid) : List UInt8 := laid.flatMap (·.2)

/-- The bytes of one record. -/
def recordBytes (order : Wire.Endian) (o : Occurrence) : List UInt8 :=
  bytesOf (recordFields order o)

/-- The bytes of a whole answer. -/
def bytes (order : Wire.Endian) (mode : Mode) (closing : Int32) (os : List Occurrence) :
    List UInt8 :=
  bytesOf (fields order mode closing os)

/-- The occurrence a server sends for a match, which is user data and the text that matched: only
what the mode asks for. -/
def occurrenceFor (order : Wire.Endian) (mode : Mode) (found : List UInt8 × String) :
    Occurrence where
  data := if mode.hasUserData then found.1 else []
  needle := if mode.hasNeedle then some (.ofChars order found.2.toList) else none

/-- The occurrences a server sends for its matches. -/
def occurrencesFor (order : Wire.Endian) (mode : Mode) (matched : List (List UInt8 × String)) :
    List Occurrence :=
  let os := matched.map (occurrenceFor order mode)
  if mode.stopsAtFirst then os.take 1 else os

/-- The bytes a server sends for its matches. -/
def answer (order : Wire.Endian) (mode : Mode) (matched : List (List UInt8 × String)) :
    List UInt8 :=
  bytes order mode (-1) (occurrencesFor order mode matched)

@[simp] theorem bytesOf_append (a b : List Laid) : bytesOf (a ++ b) = bytesOf a ++ bytesOf b := by
  simp [bytesOf]

@[simp] theorem length_count (order : Wire.Endian) (n : Nat) : (count order n).length = 4 := by
  simp [count]

theorem recordBytes_eq (order : Wire.Endian) (o : Occurrence) :
    recordBytes order o = count order o.data.length ++ o.data ++
      match o.needle with
      | none => []
      | some t => count order t.length ++ t.bytes := by
  cases h : o.needle <;> simp [recordBytes, recordFields, bytesOf, h]

theorem bytesOf_flatMap_recordFields (order : Wire.Endian) (os : List Occurrence) :
    bytesOf (os.flatMap (recordFields order)) = os.flatMap (recordBytes order) := by
  induction os with
  | nil => rfl
  | cons o os ih => simp [ih, recordBytes]

/-- An answer is its records, one after the other, and the closing word where there is one. -/
theorem bytes_of_all {mode : Mode} (h : mode.stopsAtFirst = false) (order : Wire.Endian)
    (closing : Int32) (os : List Occurrence) :
    bytes order mode closing os =
      os.flatMap (recordBytes order) ++ order.encodeSigned closing := by
  simp only [bytes, fields, h]
  rw [bytesOf_append, bytesOf_flatMap_recordFields]
  simp [bytesOf]

end RemoteSearch.Response
