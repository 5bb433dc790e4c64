import RemoteSearch.Text.Characters

set_option autoImplicit false

/-! # Quoted text

Text inside a message stands between double quotes, with the quote and the backslash escaped,
the common controls by letter, and every character that would not be seen as one of its own by its
code point. A quoted text therefore never breaks a line.
-/

namespace RemoteSearch.Text.Quoted

/-- The hexadecimal digits of a code point, without leading zeros. -/
def hex (n : Nat) : List Char := Nat.toDigits 16 n

/-- The halfwidth sound marks. They extend a grapheme and yet take up a place of their own. -/
def soundMarks : List Char := ['\uff9e', '\uff9f']

/-- True of a character that is not seen as one of its own: it is unprintable, may be shown as
nothing, or merges with the one before it. -/
def isHidden (c : Char) : Bool :=
  !isPrintable c || isIgnorable c || extendsGrapheme c && c ∉ soundMarks

/-- How one character is written between the quotes. -/
def escape (c : Char) : List Char :=
  if c = '\x00' then ['\\', '0']
  else if c = '\t' then ['\\', 't']
  else if c = '\r' then ['\\', 'r']
  else if c = '\n' then ['\\', 'n']
  else if c = '"' then ['\\', '"']
  else if c = '\\' then ['\\', '\\']
  else if isHidden c then ['\\', 'u', '\x7b'] ++ hex c.toNat ++ ['\x7d']
  else [c]

/-- The text between quotes. -/
def quote (s : List Char) : List Char := '"' :: (s.flatMap escape ++ ['"'])

end RemoteSearch.Text.Quoted

namespace RemoteSearch.Text

/-- The string between quotes, as messages show it. -/
def quoted (s : String) : String := String.ofList (Quoted.quote s.toList)

end RemoteSearch.Text
