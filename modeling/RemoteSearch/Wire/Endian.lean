import RemoteSearch.Failure
import RemoteSearch.Text.Blank

set_option autoImplicit false

/-! # Byte order

Every number on the wire takes four bytes. Both peers agree beforehand whether the least or the
most significant byte comes first; nothing on the wire says so. A big-endian word is the reversal
of the little-endian one, so the value of bytes is defined once. The main facts say that writing
and reading a word undo each other, both for unsigned and for signed words.
-/

namespace RemoteSearch.Wire

/-- The number whose base-256 digits are the bytes, least significant first. -/
def valueOf : List UInt8 → Nat
  | [] => 0
  | b :: bytes => b.toNat + 256 * valueOf bytes

/-- The `width` least significant base-256 digits of a number, least significant first. -/
def digitsOf : Nat → Nat → List UInt8
  | 0, _ => []
  | width + 1, n => UInt8.ofNat n :: digitsOf width (n / 256)

@[simp] theorem length_digitsOf (width n : Nat) : (digitsOf width n).length = width := by
  induction width generalizing n with
  | zero => rfl
  | succ width ih => simp [digitsOf, ih]

/-- How many numbers there are of `width` digits. -/
def range : Nat → Nat
  | 0 => 1
  | width + 1 => 256 * range width

theorem valueOf_lt (bytes : List UInt8) : valueOf bytes < range bytes.length := by
  induction bytes with
  | nil => exact Nat.one_pos
  | cons b bytes ih =>
    have hb : b.toNat < 256 := b.toNat_lt
    simp only [valueOf, List.length_cons, range]
    omega

theorem valueOf_digitsOf (width n : Nat) : valueOf (digitsOf width n) = n % range width := by
  induction width generalizing n with
  | zero => exact (Nat.mod_one n).symm
  | succ width ih => rw [digitsOf, valueOf, ih, UInt8.toNat_ofNat', range, Nat.mod_mul]

theorem digitsOf_valueOf (bytes : List UInt8) : digitsOf bytes.length (valueOf bytes) = bytes := by
  induction bytes with
  | nil => rfl
  | cons b bytes ih =>
    have hb : b.toNat < 256 := b.toNat_lt
    have hd : (b.toNat + 256 * valueOf bytes) / 256 = valueOf bytes := by omega
    have hm : UInt8.ofNat (b.toNat + 256 * valueOf bytes) = b := by
      apply UInt8.toNat_inj.1
      rw [UInt8.toNat_ofNat']
      omega
    simp [valueOf, digitsOf, hd, hm, ih]

/-- Which end of a number comes first. -/
inductive Endian
  | little
  | big
deriving DecidableEq

namespace Endian

/-- Bytes turned between wire order and least-significant-first order. -/
def arrange : Endian → List UInt8 → List UInt8
  | little, bytes => bytes
  | big, bytes => bytes.reverse

/-- The four bytes of an unsigned word. -/
def encode (order : Endian) (w : UInt32) : List UInt8 := order.arrange (digitsOf 4 w.toNat)

/-- The unsigned word of four bytes. -/
def decode (order : Endian) (bytes : List UInt8) : UInt32 :=
  UInt32.ofNat (valueOf (order.arrange bytes))

/-- The four bytes of a signed word, in two's complement. -/
def encodeSigned (order : Endian) (i : Int32) : List UInt8 := order.encode i.toUInt32

/-- The signed word of four bytes, in two's complement. -/
def decodeSigned (order : Endian) (bytes : List UInt8) : Int32 := (order.decode bytes).toInt32

@[simp] theorem arrange_arrange (order : Endian) (bytes : List UInt8) :
    order.arrange (order.arrange bytes) = bytes := by
  cases order <;> simp [arrange]

@[simp] theorem length_arrange (order : Endian) (bytes : List UInt8) :
    (order.arrange bytes).length = bytes.length := by
  cases order <;> simp [arrange]

@[simp] theorem length_encode (order : Endian) (w : UInt32) : (order.encode w).length = 4 := by
  simp [encode]

theorem length_flatMap_encode (order : Endian) (words : List UInt32) :
    (words.flatMap order.encode).length = 4 * words.length := by
  induction words with
  | nil => rfl
  | cons w words ih =>
    rw [List.flatMap_cons, List.length_append, length_encode, ih, List.length_cons, Nat.mul_succ,
      Nat.add_comm]

@[simp] theorem length_encodeSigned (order : Endian) (i : Int32) :
    (order.encodeSigned i).length = 4 := by
  simp [encodeSigned]

@[simp] theorem decode_encode (order : Endian) (w : UInt32) :
    order.decode (order.encode w) = w := by
  apply UInt32.toNat_inj.1
  have hw : w.toNat < 4294967296 := w.toNat_lt
  simp only [decode, encode, arrange_arrange, valueOf_digitsOf, range, UInt32.toNat_ofNat']
  omega

theorem encode_decode (order : Endian) {bytes : List UInt8} (h : bytes.length = 4) :
    order.encode (order.decode bytes) = bytes := by
  have hl : (order.arrange bytes).length = 4 := by simp [h]
  have hv : valueOf (order.arrange bytes) < 4294967296 := by
    have := valueOf_lt (order.arrange bytes)
    rwa [hl] at this
  have hd : digitsOf 4 (valueOf (order.arrange bytes)) = order.arrange bytes := by
    rw [← hl, digitsOf_valueOf]
  simp only [encode, decode, UInt32.toNat_ofNat']
  rw [Nat.mod_eq_of_lt hv, hd, arrange_arrange]

@[simp] theorem decodeSigned_encodeSigned (order : Endian) (i : Int32) :
    order.decodeSigned (order.encodeSigned i) = i := by
  simp [decodeSigned, encodeSigned]

theorem encodeSigned_decodeSigned (order : Endian) {bytes : List UInt8} (h : bytes.length = 4) :
    order.encodeSigned (order.decodeSigned bytes) = bytes := by
  simp [decodeSigned, encodeSigned, encode_decode order h]

/-! ## Byte orders as text

A byte order is shown as `little` or `big` and read from either word, its short form or `native`,
which means little-endian. Case and surrounding white space do not matter.
-/

/-- The byte order as text. -/
def toText : Endian → String
  | little => "little"
  | big => "big"

/-- The names that are read. -/
def names : List (String × Endian) :=
  [("little", little), ("le", little), ("big", big), ("be", big), ("native", little)]

/-- Reads a byte order from text. -/
def parse (s : String) : Except Misconfiguration Endian :=
  let name := String.ofList (Text.lower (Text.trim s.toList))
  match names.lookup name with
  | some order => .ok order
  | none => .error (.unknownEndian name)

end Endian

end RemoteSearch.Wire
