import Mathlib.Algebra.Ring.Nat
import RemoteSearch.Wire.WideText

set_option autoImplicit false

/-! # Wide text, character by character

The characters of a wide text are those of its four-byte units, one for each whole unit, and a unit
that is no scalar value has the replacement character. So reading loses what is no scalar value and
what is left over at the end, and nothing else: writing the characters again gives the bytes back if
and only if there is neither of them (`ofChars_toChars_iff`).
-/

namespace RemoteSearch.Wire

/-! ## One unit -/

/-- The code point in four bytes, each of which has its place in the order. -/
def Endian.codePoint : Endian → UInt8 → UInt8 → UInt8 → UInt8 → Nat
  | .little, a, b, c, d => a.toNat + 2 ^ 8 * b.toNat + 2 ^ 16 * c.toNat + 2 ^ 24 * d.toNat
  | .big, a, b, c, d => 2 ^ 24 * a.toNat + 2 ^ 16 * b.toNat + 2 ^ 8 * c.toNat + d.toNat

theorem Endian.toNat_decode (order : Endian) (a b c d : UInt8) :
    (order.decode [a, b, c, d]).toNat = order.codePoint a b c d := by
  have ha : a.toNat < 256 := a.toNat_lt
  have hb : b.toNat < 256 := b.toNat_lt
  have hc : c.toNat < 256 := c.toNat_lt
  have hd : d.toNat < 256 := d.toNat_lt
  cases order with
  | little =>
    show (UInt32.ofNat (valueOf [a, b, c, d])).toNat = _
    rw [UInt32.toNat_ofNat']
    simp only [valueOf, codePoint]
    omega
  | big =>
    show (UInt32.ofNat (valueOf [d, c, b, a])).toNat = _
    rw [UInt32.toNat_ofNat']
    simp only [valueOf, codePoint]
    omega

/-- The character of a code point: its own if it is a scalar value, and `U+FFFD` otherwise. -/
def shownAs (n : Nat) : Char := if n.isValidChar then Char.ofNat n else '\ufffd'

theorem scalarOr_eq_shownAs (w : UInt32) : scalarOr w = shownAs w.toNat := by
  rw [scalarOr, shownAs]
  by_cases h : w.isValidChar
  · rw [dif_pos h, if_pos h]
    exact (Char.ofNat_toNat ⟨w, h⟩).symm
  · rw [dif_neg h, if_neg h]

/-- A unit is what its character is written as if it is a scalar value, and only then. -/
theorem encode_scalarOr_iff (order : Endian) {unit : List UInt8} (h : unit.length = 4) :
    order.encode (scalarOr (order.decode unit)).val = unit ↔ (order.decode unit).isValidChar := by
  constructor
  · intro heq
    have hword : (scalarOr (order.decode unit)).val = order.decode unit := by
      rw [← Endian.decode_encode order (scalarOr (order.decode unit)).val, heq]
    rw [← hword]
    exact (scalarOr (order.decode unit)).valid
  · intro hvalid
    rw [scalarOr, dif_pos hvalid, Endian.encode_decode order h]

/-! ## All units -/

theorem mem_units {bytes unit : List UInt8} (h : unit ∈ units bytes) :
    ∃ a b c d, unit = [a, b, c, d] := by
  fun_induction units bytes with
  | case1 a b c d rest ih =>
    rcases List.mem_cons.1 h with rfl | h
    · exact ⟨a, b, c, d, rfl⟩
    · exact ih h
  | case2 => cases h

/-- What does not begin with a whole unit has less than four bytes. -/
theorem length_lt_of_no_unit {bytes : List UInt8}
    (h : ∀ a b c d rest, bytes = a :: b :: c :: d :: rest → False) : bytes.length < 4 := by
  match bytes with
  | [] | [_] | [_, _] | [_, _, _] => simp
  | a :: b :: c :: d :: rest => exact absurd rfl (h a b c d rest)

/-- Units stand at multiples of four. -/
theorem getElem?_units (bytes : List UInt8) (i : Nat) (a b c d : UInt8) :
    (units bytes)[i]? = some [a, b, c, d] ↔
      (bytes.drop (unitSize * i)).take unitSize = [a, b, c, d] := by
  rw [unitSize]
  fun_induction units bytes generalizing i with
  | case1 a' b' c' d' rest ih =>
    cases i with
    | zero => simp
    | succ i =>
      rw [List.getElem?_cons_succ, ih i, Nat.mul_succ]
      rfl
  | case2 bytes h =>
    have hlt := length_lt_of_no_unit h
    refine iff_of_false (fun hget => by cases hget) fun htake => ?_
    have hlength := congrArg List.length htake
    simp only [List.length_take, List.length_drop, List.length_cons, List.length_nil] at hlength
    omega

theorem units_append {left : List UInt8} (h : unitSize ∣ left.length) (right : List UInt8) :
    units (left ++ right) = units left ++ units right := by
  rw [unitSize] at h
  fun_induction units left with
  | case1 a b c d rest ih =>
    have hrest : 4 ∣ rest.length := by
      simp only [List.length_cons] at h
      omega
    show [a, b, c, d] :: units (rest ++ right) = _
    rw [ih hrest]
    rfl
  | case2 left hshort =>
    have hlt := length_lt_of_no_unit hshort
    have hnil : left = [] := List.length_eq_zero_iff.1 (by omega)
    subst hnil
    rfl

/-- Bytes are what their characters are written as if they are whole units of scalar values, and
only then. -/
theorem flatMap_encode_units_iff (order : Endian) (bytes : List UInt8) :
    (units bytes).flatMap (fun unit => order.encode (scalarOr (order.decode unit)).val) = bytes ↔
      unitSize ∣ bytes.length ∧ ∀ unit ∈ units bytes, (order.decode unit).isValidChar := by
  rw [unitSize]
  fun_induction units bytes with
  | case1 a b c d rest ih =>
    have hunit := encode_scalarOr_iff order (rfl : [a, b, c, d].length = 4)
    have hdvd : 4 ∣ (a :: b :: c :: d :: rest).length ↔ 4 ∣ rest.length := by
      simp only [List.length_cons]
      omega
    rw [List.flatMap_cons, List.forall_mem_cons, hdvd, ← hunit]
    constructor
    · intro h
      have hsplit : _ ++ _ = [a, b, c, d] ++ rest := h
      obtain ⟨hfirst, hrest⟩ := List.append_inj hsplit (Endian.length_encode order _)
      obtain ⟨hwhole, hvalid⟩ := ih.1 hrest
      exact ⟨hwhole, hfirst, hvalid⟩
    · rintro ⟨hwhole, hfirst, hvalid⟩
      rw [hfirst, ih.2 ⟨hwhole, hvalid⟩]
      rfl
  | case2 bytes h =>
    have hlt := length_lt_of_no_unit h
    constructor
    · rintro rfl
      exact ⟨Nat.dvd_zero _, fun unit hmem => absurd hmem List.not_mem_nil⟩
    · rintro ⟨hwhole, -⟩
      exact (List.length_eq_zero_iff.1 (by omega)).symm

/-! ## Texts -/

namespace WideText

/-- The bytes of the character at a place. -/
def HasUnit (t : WideText) (i : Nat) (a b c d : UInt8) : Prop :=
  (t.bytes.drop (unitSize * i)).take unitSize = [a, b, c, d]

/-- A text whose bytes are whole units, and each unit a scalar value. -/
structure Faithful (order : Endian) (t : WideText) : Prop where
  whole : unitSize ∣ t.bytes.length
  scalar : ∀ i a b c d, t.HasUnit i a b c d → (order.codePoint a b c d).isValidChar

/-- Each character is that of the four bytes at its place. -/
theorem exists_hasUnit (order : Endian) {t : WideText} {i : Nat} (h : i < t.length) :
    ∃ a b c d, t.HasUnit i a b c d ∧
      (t.toChars order)[i]? = some (shownAs (order.codePoint a b c d)) := by
  have hi : i < (units t.bytes).length := by
    rw [length_units]
    exact h
  obtain ⟨a, b, c, d, hunit⟩ := mem_units (List.getElem_mem hi)
  have hget : (units t.bytes)[i]? = some [a, b, c, d] := by
    rw [List.getElem?_eq_getElem hi, hunit]
  refine ⟨a, b, c, d, (getElem?_units t.bytes i a b c d).1 hget, ?_⟩
  rw [toChars, List.getElem?_map, hget, Option.map_some, scalarOr_eq_shownAs, Endian.toNat_decode]

theorem forall_mem_units_iff (order : Endian) (t : WideText) :
    (∀ unit ∈ units t.bytes, (order.decode unit).isValidChar) ↔
      ∀ i a b c d, t.HasUnit i a b c d → (order.codePoint a b c d).isValidChar := by
  constructor
  · intro h i a b c d hunit
    have hmem := List.mem_of_getElem? ((getElem?_units t.bytes i a b c d).2 hunit)
    rw [← Endian.toNat_decode]
    exact h _ hmem
  · intro h unit hmem
    obtain ⟨a, b, c, d, rfl⟩ := mem_units hmem
    obtain ⟨i, hi⟩ := List.mem_iff_getElem?.1 hmem
    have hvalid := h i a b c d ((getElem?_units t.bytes i a b c d).1 hi)
    rwa [← Endian.toNat_decode] at hvalid

/-- Writing the characters of a text gives it back exactly where nothing of it was lost. -/
theorem ofChars_toChars_iff (order : Endian) (t : WideText) :
    ofChars order (t.toChars order) = t ↔ t.Faithful order := by
  obtain ⟨bytes⟩ := t
  rw [ofChars, mk.injEq, toChars, List.flatMap_map, flatMap_encode_units_iff,
    forall_mem_units_iff order ⟨bytes⟩]
  exact ⟨fun h => ⟨h.1, h.2⟩, fun h => ⟨h.whole, h.scalar⟩⟩

/-- After whole units, a text goes on as if it began there. -/
theorem toString_append (order : Endian) {left : List UInt8} (h : unitSize ∣ left.length)
    (right : List UInt8) :
    toString order ⟨left ++ right⟩ = toString order ⟨left⟩ ++ toString order ⟨right⟩ := by
  rw [toString, toString, toString, toChars, toChars, toChars, units_append h, List.map_append,
    String.ofList_append]

end WideText

end RemoteSearch.Wire
