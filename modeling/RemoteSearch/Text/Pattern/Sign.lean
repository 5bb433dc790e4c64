import RemoteSearch.Text.Blank
import RemoteSearch.Text.Pattern.Manner

set_option autoImplicit false

/-! # Reading the signs of a pattern

Signs with the blanks and comments that may stand between them. A comment runs from a number sign to
the end of its line. Every reader gives what it has read and the text after it.
-/

namespace RemoteSearch.Text.Pattern

/-- The text without the blanks and comments in front, or in front of the end of a comment. -/
def skipFrom (inComment : Bool) : List Char → List Char
  | [] => []
  | c :: s =>
    if inComment then skipFrom (c ≠ '\n') s
    else if isBlank c then skipFrom false s
    else if c = '#' then skipFrom true s
    else c :: s

/-- The text without the blanks and comments in front, where there may be any. -/
def skip (verbose : Bool) (s : List Char) : List Char := if verbose then skipFrom false s else s

/-- The first character that is neither blank nor the start of a comment. In a comment the first
character of its text counts. -/
def glanceFrom? (inComment : Bool) : List Char → Option Char
  | [] => none
  | c :: s =>
    if isBlank c then glanceFrom? inComment s
    else if c = '#' && !inComment then glanceFrom? true s
    else some c

/-- The character that is taken to come next when a dash is looked past. -/
def glance? (verbose : Bool) (s : List Char) : Option Char :=
  if verbose then (glanceFrom? false s).or s.head? else s.head?

/-- The control characters by letter. -/
def controls : List (Char × Char) :=
  [('a', '\x07'), ('f', '\x0c'), ('t', '\t'), ('n', '\n'), ('r', '\r'), ('v', '\x0b')]

/-- The number of digits after the letter of a code point. -/
def digitCounts : List (Char × Nat) := [('x', 2), ('u', 4), ('U', 8)]

/-- The value of a hexadecimal digit. -/
def hexValue? (c : Char) : Option Nat :=
  if c.isDigit then some (c.toNat - '0'.toNat)
  else if 'a' ≤ c ∧ c ≤ 'f' then some (c.toNat - 'a'.toNat + 10)
  else if 'A' ≤ c ∧ c ≤ 'F' then some (c.toNat - 'A'.toNat + 10)
  else none

/-- Reads as many more digits of a number whose digits so far have a value. -/
def digits? (verbose : Bool) : Nat → Nat → List Char → Option (Nat × List Char)
  | 0, value, s => some (value, s)
  | _ + 1, _, [] => none
  | owed + 1, value, c :: s =>
    match hexValue? c with
    | none => none
    | some d => digits? verbose owed (16 * value + d) (skip verbose s)

/-- Reads what follows a backslash. -/
def escaped? (verbose : Bool) : List Char → Option (Sign × List Char)
  | [] => none
  | c :: s =>
    if let some control := controls.lookup c then some (.character control false, s)
    else if let some count := digitCounts.lookup c then
      match digits? verbose count 0 (skip verbose s) with
      | none => none
      | some (n, rest) =>
        if n.isValidChar then some (.character (Char.ofNat n) (c = 'x'), rest) else none
    else if c ∈ ['d', 's', 'w'] then some (.category false, s)
    else if c ∈ ['D', 'S', 'W'] then some (.category true, s)
    else if c ∈ ['A', 'z'] then some (.boundary false, s)
    else if c ∈ ['b', 'B', '<', '>'] then some (.boundary true, s)
    else if c.isAlphanum || '\x7f' < c then none
    else some (.character c false, s)

/-- Reads a character or an escape that starts with a character. -/
def sign? (verbose : Bool) (c : Char) (s : List Char) : Option (Sign × List Char) :=
  if c = '\\' then escaped? verbose s else some (.character c false, s)

/-- The names of categories of ASCII characters. -/
def categoryNames : List String :=
  ["alnum", "alpha", "ascii", "blank", "cntrl", "digit", "graph", "lower", "print", "punct",
    "space", "upper", "word", "xdigit"]

/-- Reads a category by name, from behind its bracket, and says whether it is negated. -/
def namedCategory? : List Char → Option (Bool × List Char)
  | ':' :: s =>
    let negated : Bool := s.head? = some '^'
    let name := if negated then s.drop 1 else s
    match name.dropWhile (· ≠ ':') with
    | ':' :: ']' :: rest =>
      if String.ofList (name.takeWhile (· ≠ ':')) ∈ categoryNames then some (negated, rest)
      else none
    | _ => none
  | _ => none

end RemoteSearch.Text.Pattern
