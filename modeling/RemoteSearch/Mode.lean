set_option autoImplicit false

/-! # Search modes

A search mode is a set of flags held in one byte and sent as the first byte of a request. Three
bits have a name: only the first occurrence is wanted, occurrences carry the matched needle,
occurrences carry user data. The other bits may be set as well and are sent as they are. The same
mode has to be used to read the answer.
-/

namespace RemoteSearch

/-- A set of search flags, one bit each. -/
structure Mode where
  bits : UInt8
deriving DecidableEq

namespace Mode

/-- No flags: all occurrences, without optional fields. -/
def empty : Mode := ⟨0⟩

instance : EmptyCollection Mode := ⟨empty⟩
instance : Inhabited Mode := ⟨empty⟩

/-- Only the first occurrence is wanted. -/
def first : Mode := ⟨1⟩

/-- Each occurrence carries the matched needle. -/
def needle : Mode := ⟨2⟩

/-- Each occurrence carries its user data. -/
def userData : Mode := ⟨4⟩

/-- Every named flag. -/
def all : Mode := ⟨7⟩

/-- The flags of either mode. -/
def union (m n : Mode) : Mode := ⟨m.bits ||| n.bits⟩

/-- The flags of both modes. -/
def inter (m n : Mode) : Mode := ⟨m.bits &&& n.bits⟩

instance : Union Mode := ⟨union⟩
instance : Inter Mode := ⟨inter⟩

/-- True when every flag of `n` is set in `m`. -/
def contains (m n : Mode) : Bool := m ∩ n = n

/-- True when no flag is set. -/
def isEmpty (m : Mode) : Bool := m = ∅

/-- True when only the first occurrence is wanted. -/
def stopsAtFirst (m : Mode) : Bool := m.contains first

/-- True when occurrences carry the matched needle. -/
def hasNeedle (m : Mode) : Bool := m.contains needle

/-- True when occurrences carry user data. -/
def hasUserData (m : Mode) : Bool := m.contains userData

/-- The flags without a name. -/
def unnamed (m : Mode) : Mode := ⟨m.bits &&& ~~~all.bits⟩

theorem inter_bits (m n : Mode) : (m ∩ n).bits = m.bits &&& n.bits := rfl

theorem ext_bits {m n : Mode} (h : m.bits = n.bits) : m = n := by
  cases m; cases n; cases h; rfl

theorem union_comm (m n : Mode) : m ∪ n = n ∪ m := ext_bits (UInt8.or_comm _ _)

theorem union_assoc (m n k : Mode) : m ∪ n ∪ k = m ∪ (n ∪ k) := ext_bits (UInt8.or_assoc _ _ _)

@[simp] theorem union_self (m : Mode) : m ∪ m = m := ext_bits UInt8.or_self

@[simp] theorem empty_union (m : Mode) : ∅ ∪ m = m := ext_bits UInt8.zero_or

@[simp] theorem union_empty (m : Mode) : m ∪ ∅ = m := ext_bits UInt8.or_zero

end Mode

end RemoteSearch
