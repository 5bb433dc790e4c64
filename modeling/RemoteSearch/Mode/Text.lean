import RemoteSearch.Failure
import RemoteSearch.Mode
import RemoteSearch.Text.Blank
import RemoteSearch.Text.Numeral
import RemoteSearch.Text.Pieces

set_option autoImplicit false

/-! # Modes as text

A mode is shown as the names of its flags joined by `|`, followed by the bits without a name as
one hexadecimal number, and as `none` when it has no flags. Text is read as a mode in one of two
ways: as a number up to 255, or else as names between `|` or `,`, where case and white space do
not matter and a name may be left out.
-/

namespace RemoteSearch.Mode

/-! ## Showing -/

/-- The flags that are shown by name, in the order in which they are shown. -/
def shownFlags : List (Mode × String) :=
  [(first, "first"), (needle, "needle"), (userData, "user-data")]

/-- Two hexadecimal digits after `0x`. -/
def hexByte (b : UInt8) : String :=
  String.ofList ['0', 'x', Nat.digitChar (b.toNat / 16), Nat.digitChar (b.toNat % 16)]

/-- The parts of a shown mode. -/
def shownParts (m : Mode) : List String :=
  (shownFlags.filter (fun f => m.contains f.1)).map (·.2) ++
    if m.unnamed = ∅ then [] else [hexByte m.unnamed.bits]

/-- The mode as text. -/
def toText (m : Mode) : String :=
  if m.shownParts = [] then "none" else "|".intercalate m.shownParts

/-! ## Reading -/

/-- A number of up to eight bits: decimal, or hexadecimal after `0x`, or binary after `0b`. -/
def number? (s : List Char) : Option UInt8 :=
  let value := match s with
    | '0' :: 'x' :: digits => Text.Numeral.read 16 255 digits
    | '0' :: 'b' :: digits => Text.Numeral.read 2 255 digits
    | digits => Text.Numeral.read 10 255 digits
  value.toOption.map UInt8.ofNat

/-- The names that are read, with the flags they stand for. -/
def names : List (String × Mode) :=
  [("first", first), ("needle", needle), ("user-data", userData), ("user_data", userData),
    ("userdata", userData), ("data", userData), ("all", all), ("none", ∅), ("", ∅)]

/-- True of the characters that stand between names. -/
def isSeparator (c : Char) : Bool := c = '|' || c = ','

/-- The flags of one name. -/
def ofName (s : List Char) : Except Misconfiguration Mode :=
  let name := String.ofList (Text.lower (Text.trim s))
  match names.lookup name with
  | some m => .ok m
  | none => .error (.unknownFlag name)

/-- The flags of several names together; the first name that is none of the known ones is the one
complained about. -/
def ofNames : List (List Char) → Except Misconfiguration Mode
  | [] => .ok ∅
  | name :: rest =>
    match ofName name with
    | .error e => .error e
    | .ok m =>
      match ofNames rest with
      | .error e => .error e
      | .ok n => .ok (m ∪ n)

/-- Reads a mode from characters. -/
def ofChars (s : List Char) : Except Misconfiguration Mode :=
  let s := Text.trim s
  match number? s with
  | some bits => .ok ⟨bits⟩
  | none => ofNames (Text.pieces isSeparator s)

/-- Reads a mode from text. -/
def parse (s : String) : Except Misconfiguration Mode := ofChars s.toList

end RemoteSearch.Mode
