import RemoteSearch.Wire.Endian

set_option autoImplicit false

/-! # Text in four-byte units

A matched needle travels as UTF-32: one four-byte word for each character, in the byte order both
peers agreed on. The bytes are kept as they came. Read as text, a word that is no Unicode scalar
value shows as `U+FFFD`, and bytes after the last whole word are not text.
-/

namespace RemoteSearch.Wire

/-- The number of bytes of a character. -/
def unitSize : Nat := 4

/-- The bytes cut into words of four; up to three bytes may be left over and are dropped. -/
def units : List UInt8 → List (List UInt8)
  | a :: b :: c :: d :: rest => [a, b, c, d] :: units rest
  | _ => []

/-- The character of a code point, `U+FFFD` where there is none. -/
def scalarOr (w : UInt32) : Char := if h : w.isValidChar then ⟨w, h⟩ else '\ufffd'

/-- Text held as bytes, four to a character. -/
structure WideText where
  bytes : List UInt8
deriving DecidableEq

namespace WideText

/-- The number of whole characters. -/
def length (t : WideText) : Nat := t.bytes.length / unitSize

/-- True of no bytes at all. -/
def isEmpty (t : WideText) : Bool := t.bytes.isEmpty

/-- The characters of the text. -/
def toChars (order : Endian) (t : WideText) : List Char :=
  (units t.bytes).map (fun unit => scalarOr (order.decode unit))

/-- The text read as a string. -/
def toString (order : Endian) (t : WideText) : String := String.ofList (t.toChars order)

/-- The wide form of a list of characters. -/
def ofChars (order : Endian) (s : List Char) : WideText := ⟨s.flatMap (fun c => order.encode c.val)⟩

theorem scalarOr_val (c : Char) : scalarOr c.val = c := by
  have h : c.val.isValidChar := c.valid
  simp [scalarOr, h]

theorem units_append_of_length {unit : List UInt8} (h : unit.length = 4) (rest : List UInt8) :
    units (unit ++ rest) = unit :: units rest := by
  match unit, h with
  | [a, b, c, d], _ => rfl

theorem length_units (bytes : List UInt8) : (units bytes).length = bytes.length / 4 := by
  fun_induction units bytes with
  | case1 a b c d rest ih => simp only [List.length_cons, ih]; omega
  | case2 bytes h =>
    match bytes with
    | [] | [_] | [_, _] | [_, _, _] => simp
    | a :: b :: c :: d :: rest => exact absurd rfl (h a b c d rest)

theorem length_toChars (order : Endian) (t : WideText) : (t.toChars order).length = t.length := by
  simp [toChars, length, unitSize, length_units]

/-- Every text reads back from its wide form. -/
theorem toChars_ofChars (order : Endian) (s : List Char) : (ofChars order s).toChars order = s := by
  induction s with
  | nil => rfl
  | cons c s ih =>
    simp only [ofChars, toChars] at ih ⊢
    rw [List.flatMap_cons, units_append_of_length (by simp), List.map_cons, ih]
    simp [scalarOr_val]

end WideText

end RemoteSearch.Wire
