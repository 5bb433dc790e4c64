set_option autoImplicit false

/-! # Log entries

An entry has a level, the target it is about, and a message. It is shown on one line; control
characters that a terminal would act on are shown by number. A line ends before a newline, or before
a carriage return and a newline. A carriage return anywhere else is part of its line.
-/

namespace RemoteSearch.Text

/-- The first line of a text, without what ends it. -/
def firstLine (s : List Char) : List Char :=
  let line := s.takeWhile (· != '\n')
  if '\n' ∈ s ∧ line.getLast? = some '\r' then line.dropLast else line

end RemoteSearch.Text

namespace RemoteSearch.Log

/-- How grave an entry is, the gravest first. -/
inductive Level
  | error
  | warn
  | info
  | debug
  | trace
deriving DecidableEq

namespace Level

/-- The level as shown. -/
def text : Level → String
  | error => "ERROR"
  | warn => "WARN"
  | info => "INFO"
  | debug => "DEBUG"
  | trace => "TRACE"

/-- The detail of a level: one for the gravest. A filter that admits a detail admits all below. -/
def detail : Level → Nat
  | error => 1
  | warn => 2
  | info => 3
  | debug => 4
  | trace => 5

end Level

/-- One entry. -/
structure Entry where
  level : Level
  target : String
  message : String
deriving DecidableEq

/-- How a character of a message is shown. -/
def shown (c : Char) : List Char :=
  if c ∈ ['\x07', '\x08', '\x0c', '\x1b', '\x7f'] then
    ['\\', 'x', Nat.digitChar (c.toNat / 16), Nat.digitChar (c.toNat % 16)]
  else if 0x80 ≤ c.toNat ∧ c.toNat ≤ 0x9f then
    ['\\', 'u', '\x7b'] ++ Nat.toDigits 16 c.toNat ++ ['\x7d']
  else [c]

/-- The entry as a line: of a message of several lines, the first. -/
def Entry.line (e : Entry) : String :=
  let message := Text.firstLine (e.message.toList.flatMap shown)
  s!"{e.level.text} {e.target}: {String.ofList message}"

end RemoteSearch.Log
