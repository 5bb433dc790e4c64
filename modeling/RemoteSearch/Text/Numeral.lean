set_option autoImplicit false

/-! # Numerals with a limit

A numeral is one or more digits of a radix with an optional plus sign before them. It is read
from the left, and the first digit at which something is wrong decides what is reported: a
character that is no digit, or a value past the limit.
-/

namespace RemoteSearch.Text.Numeral

/-- Why a text is no numeral within the limit. -/
inductive Fault
  | empty
  | badDigit
  | tooLarge
deriving DecidableEq

/-- The wording of a fault. -/
def Fault.message : Fault → String
  | .empty => "cannot parse integer from empty string"
  | .badDigit => "invalid digit found in string"
  | .tooLarge => "number too large to fit in target type"

/-- The value of a digit below the radix; letters of either case follow nine. -/
def digit? (radix : Nat) (c : Char) : Option Nat :=
  let value :=
    if '0' ≤ c ∧ c ≤ '9' then some (c.toNat - '0'.toNat)
    else if 'a' ≤ c ∧ c ≤ 'z' then some (c.toNat - 'a'.toNat + 10)
    else if 'A' ≤ c ∧ c ≤ 'Z' then some (c.toNat - 'A'.toNat + 10)
    else none
  value.filter (· < radix)

/-- Reads digits after those whose value is `n`. -/
def readDigits (radix limit : Nat) : Nat → List Char → Except Fault Nat
  | n, [] => .ok n
  | n, c :: s =>
    match digit? radix c with
    | none => .error .badDigit
    | some d =>
      if radix * n + d ≤ limit then readDigits radix limit (radix * n + d) s
      else .error .tooLarge

/-- Reads a numeral whose value is at most `limit`. A plus sign on its own counts as a digit that
is none. -/
def read (radix limit : Nat) : List Char → Except Fault Nat
  | [] => .error .empty
  | '+' :: c :: s => readDigits radix limit 0 (c :: s)
  | s => readDigits radix limit 0 s

end RemoteSearch.Text.Numeral
