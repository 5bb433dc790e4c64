set_option autoImplicit false

/-! # Plain text

Text meant for a terminal without its control functions. A control function starts with the escape
character. It is a single character, a designation, a sequence, or a string, and each has an end of
its own; another escape character, `18` and `1a` end all of them. Of the control characters only
white space is kept.

White space inside a control function is kept unless it belongs to a string, and so is the text
after it up to the next control character, where the function goes on. A character beyond ASCII in
such text ends the function.
-/

namespace RemoteSearch.Text.Plain

/-- Where in a control function the text stands: outside, after the escape character, in a
designation, in a sequence, in a command to the system, in one of the parts of the head of a string
for a device, or in any other string. -/
inductive State
  | outside
  | escaped
  | designation
  | sequence
  | command
  | head
  | headParameters
  | headIntermediates
  | string
deriving DecidableEq

/-- True of the control characters that are white space. -/
def isLayout (c : Char) : Bool := c = '\t' || c = '\n' || c = '\x0c' || c = '\r'

/-- True of all control characters with a number below `80`. -/
def isControl (c : Char) : Bool := c < ' ' || c = '\x7f'

/-- True when one of the bytes of a character is the terminator of strings, `9c`. -/
def holdsTerminator (c : Char) : Bool := (String.utf8EncodeChar c).contains 0x9c

/-- The state after a character that is read as part of a control function. -/
def State.next (s : State) (c : Char) : State :=
  if c = '\x1b' then escaped
  else if c = '\x18' || c = '\x1a' then outside
  else
    match s with
    | outside => outside
    | escaped =>
      if c < ' ' || '~' < c then escaped
      else if c = '[' then sequence
      else if c = ']' then command
      else if c = 'P' then head
      else if c ∈ ['X', '^', '_'] then string
      else if c < '0' then designation
      else outside
    | designation => if '0' ≤ c && c ≤ '~' then outside else designation
    | sequence => if '@' ≤ c && c ≤ '~' then outside else sequence
    | command => if c = '\x07' then outside else command
    | head =>
      if c < ' ' || '~' < c then head
      else if c < '0' then headIntermediates
      else if c < '@' then headParameters
      else string
    | headParameters =>
      if c < ' ' || '~' < c then headParameters
      else if c < '0' then headIntermediates
      else if c < '<' then headParameters
      else string
    | headIntermediates => if '0' ≤ c && c ≤ '~' then string else headIntermediates
    | string => if holdsTerminator c then outside else string

/-- True of a character that is kept outside of control functions. -/
def isText (c : Char) : Bool := isLayout c || !isControl c

/-- True of a character that is kept in a state. -/
def State.keeps : State → Char → Bool
  | outside, c => isText c
  | escaped, c => isLayout c
  | designation, c => isLayout c
  | sequence, c => isLayout c
  | _, _ => false

/-- What is kept of the text from a state on. In a run, which starts with a kept character, all text
is kept until a control character. -/
def keep (run : Bool) (s : State) : List Char → List Char
  | [] => []
  | c :: rest =>
    if run && isText c then c :: keep true (if '\x7f' < c then .outside else s) rest
    else if s.keeps c then c :: keep true (s.next c) rest
    else keep false (s.next c) rest

end RemoteSearch.Text.Plain

namespace RemoteSearch.Text

/-- The text without control functions. -/
def plain (s : String) : String := String.ofList (Plain.keep false .outside s.toList)

end RemoteSearch.Text
