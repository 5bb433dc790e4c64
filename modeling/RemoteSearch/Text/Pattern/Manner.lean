set_option autoImplicit false

/-! # How the signs of a pattern are taken

Flags in a pattern say how what follows is taken. No tables of Unicode are at hand, so neither
letters of either case nor named categories of characters can be asked for unless only ASCII is
meant; and where only ASCII is meant, nothing can be asked for that would match half a character.
-/

namespace RemoteSearch.Text.Pattern

/-- What a pattern can hold in one place. A character written by the value of a byte is told from
one that is written in any other way. -/
inductive Sign
  | character (c : Char) (asByte : Bool)
  | category (negated : Bool)
  | boundary (ofWords : Bool)
deriving DecidableEq

/-- Whether letters of either case are meant, characters beyond ASCII are, and blanks and comments
may stand between signs. -/
structure Manner where
  folds : Bool := false
  wide : Bool := true
  verbose : Bool := false
deriving DecidableEq

namespace Manner

/-- The letters of the flags. -/
def flags : List Char := ['i', 'm', 's', 'u', 'x', 'R', 'U']

/-- True of flags as they can be written: none twice, and one dash at most, before those that are
cleared. -/
def areFlags (written : List Char) : Bool :=
  written.all (· ∈ '-' :: flags) && decide written.Nodup && written.getLast? ≠ some '-'

/-- The manner after flags. -/
def after (m : Manner) (written : List Char) : Manner :=
  let value (flag : Char) (before : Bool) : Bool :=
    if flag ∈ written.takeWhile (· ≠ '-') then true
    else if flag ∈ written then false
    else before
  ⟨value 'i' m.folds, value 'u' m.wide, value 'x' m.verbose⟩

/-- True when a character can be meant as it is. -/
def takesCharacters (m : Manner) : Bool := !(m.folds && m.wide)

/-- True of a sign that can stand outside of classes. -/
def takes (m : Manner) : Sign → Bool
  | .character c asByte => m.takesCharacters && (m.wide || !asByte || c ≤ '\x7f')
  | .category negated => !m.wide && !negated
  | .boundary ofWords => !m.wide || !ofWords

/-- True of a sign that can stand in a class. -/
def takesInClass (m : Manner) : Sign → Bool
  | .character c _ => m.takesCharacters && (m.wide || c ≤ '\x7f')
  | .category negated => !m.wide && !negated
  | .boundary _ => false

end Manner

end RemoteSearch.Text.Pattern
