set_option autoImplicit false

/-! # UTF-8

Bytes are read by a machine that is either between characters or inside one. Inside a character
it knows how many continuation bytes are still owed and the range of the next one, which is
narrower than `80`..`bf` after the leads `e0`, `ed`, `f0` and `f4`. A byte that does not fit closes
the character begun as one invalid stretch and is then read afresh. One reading serves both
strict text, where no stretch may be invalid, and lenient text, where each shows as `U+FFFD`.
-/

namespace RemoteSearch.Text.Utf8

/-- The inside of a character: continuation bytes owed, the range of the next one, and the bits
read so far. -/
structure Inside where
  owed : Nat
  low : UInt8
  high : UInt8
  bits : Nat

/-- What the machine has to say of a byte, with the character it is then inside of. Characters
come as `some`, invalid stretches as `none`. -/
abbrev Progress : Type := List (Option Char) × Option Inside

/-- A byte read between characters. -/
def start (b : UInt8) : Progress :=
  if b < 0x80 then ([some (Char.ofNat b.toNat)], none)
  else if b < 0xc2 then ([none], none)
  else if b < 0xe0 then ([], some ⟨1, 0x80, 0xbf, b.toNat - 0xc0⟩)
  else if b = 0xe0 then ([], some ⟨2, 0xa0, 0xbf, 0⟩)
  else if b = 0xed then ([], some ⟨2, 0x80, 0x9f, 0xd⟩)
  else if b < 0xf0 then ([], some ⟨2, 0x80, 0xbf, b.toNat - 0xe0⟩)
  else if b = 0xf0 then ([], some ⟨3, 0x90, 0xbf, 0⟩)
  else if b < 0xf4 then ([], some ⟨3, 0x80, 0xbf, b.toNat - 0xf0⟩)
  else if b = 0xf4 then ([], some ⟨3, 0x80, 0x8f, 4⟩)
  else ([none], none)

/-- A byte read inside a character. -/
def resume (i : Inside) (b : UInt8) : Progress :=
  if i.low ≤ b ∧ b ≤ i.high then
    let bits := i.bits * 64 + (b.toNat - 0x80)
    if i.owed ≤ 1 then ([some (Char.ofNat bits)], none)
    else ([], some ⟨i.owed - 1, 0x80, 0xbf, bits⟩)
  else (none :: (start b).1, (start b).2)

/-- A byte read in either state. -/
def step : Option Inside → UInt8 → Progress
  | none, b => start b
  | some i, b => resume i b

/-- The characters and invalid stretches of the bytes, read from a state. -/
def readFrom : Option Inside → List UInt8 → List (Option Char)
  | none, [] => []
  | some _, [] => [none]
  | state, b :: bytes => (step state b).1 ++ readFrom (step state b).2 bytes

/-- The characters and invalid stretches of the bytes. -/
def read (bytes : List UInt8) : List (Option Char) := readFrom none bytes

/-- The text of bytes that are valid throughout. -/
def strict? (bytes : List UInt8) : Option (List Char) := (read bytes).mapM id

/-- True of bytes that do not start inside a character. -/
def isBoundary : List UInt8 → Bool
  | [] => true
  | b :: _ => b < 0x80 || 0xc0 ≤ b

/-- The text of so many bytes of a text, if they start and end between characters. -/
def slice? (bytes : List UInt8) (size : Nat) : Option (List Char) :=
  if isBoundary bytes then strict? (bytes.take size) else none

/-- The text of the bytes, each invalid stretch shown as `U+FFFD`. -/
def lenient (bytes : List UInt8) : List Char := (read bytes).map (·.getD '\ufffd')

/-- The bytes of a text. -/
def encode (s : List Char) : List UInt8 := s.flatMap String.utf8EncodeChar

@[simp] theorem encode_append (s t : List Char) : encode (s ++ t) = encode s ++ encode t := by
  simp [encode]

end RemoteSearch.Text.Utf8
