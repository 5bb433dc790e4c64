import RemoteSearch.Log
import RemoteSearch.Text.Blank
import RemoteSearch.Text.Characters
import RemoteSearch.Text.Numeral
import RemoteSearch.Text.Pattern
import RemoteSearch.Text.Pieces
import RemoteSearch.Text.Utf8

set_option autoImplicit false

/-! # Log filters

A filter is written as directives between commas. Of the directives that apply to an entry the most
special one decides, and of two that are equally special the later one. An entry to which none
applies is not shown.

A filter is read as it is written, directive by directive. Of the values that a directive can ask
for, decimal numbers are told apart here and patterns in a module of their own.
-/

/-! ## Decimal numbers

Which texts are numbers with an optional sign, point and exponent. A digit may be missing before the
point or after it, but not on both sides. Infinity and the absence of a number have names.
-/

namespace RemoteSearch.Text

namespace Decimal

/-- The text without a sign in front. -/
def unsigned : List Char → List Char
  | '+' :: s => s
  | '-' :: s => s
  | s => s

/-- True of an exponent, which may be missing. -/
def isExponent : List Char → Bool
  | [] => true
  | c :: s => (c = 'e' || c = 'E') && !(unsigned s).isEmpty && (unsigned s).all Char.isDigit

/-- True of digits with a point among them or none, and an exponent. -/
def isMagnitude (s : List Char) : Bool :=
  let whole := s.takeWhile Char.isDigit
  match s.dropWhile Char.isDigit with
  | '.' :: more =>
    (!whole.isEmpty || (more.head?.any Char.isDigit)) && isExponent (more.dropWhile Char.isDigit)
  | more => !whole.isEmpty && isExponent more

/-- The numbers that have names. -/
def names : List String := ["inf", "infinity", "nan"]

end Decimal

/-- True of a text that is a decimal number. -/
def isDecimal (s : List Char) : Bool :=
  Decimal.isMagnitude (Decimal.unsigned s) ||
    String.ofList (lower (Decimal.unsigned s)) ∈ Decimal.names

end RemoteSearch.Text

/-! ## Directives

A directive says up to which detail entries are shown. It is a level, which holds for all targets,
or a target, which is then shown in full, or a target and a level with `=` between them. A target
stands for all targets that begin with it. Between the two a directive can name, in brackets, the
span that an entry has to be in and a field that it has to have: `target[span{field=value}]=level`.
Each part can be left out, though not all.

A value is a number or a pattern. The entries of this library are in no span, and their one field is
the message. What value a field has is asked of spans alone. So a directive with a span or with a
value applies to no entry.
-/

namespace RemoteSearch.Log

/-- A field that an entry has to have, and the value that it has to hold. -/
structure FieldTest where
  name : List Char
  value : Option (List Char)
deriving DecidableEq

/-- Entries on targets that begin with `target`, in the span and with the field that are named, are
shown up to a detail, where zero is none. -/
structure Directive where
  target : List Char
  span : Option (List Char) := none
  field : Option FieldTest := none
  detail : Nat
deriving DecidableEq

namespace Directive

/-- The field that every entry has. -/
def messageField : FieldTest := ⟨"message".toList, none⟩

/-- True when a directive speaks of an entry. -/
def applies (d : Directive) (e : Entry) : Bool :=
  d.target.isPrefixOf e.target.toList && d.span.isNone && d.field.all (· = messageField)

/-- How special a directive is. A longer target counts for more than a field. -/
def specificity (d : Directive) : Nat := 2 * d.target.length + if d.field.isSome then 1 else 0

/-! ## Levels -/

/-- The detail at which everything is shown. -/
def fullDetail : Nat := Level.trace.detail

/-- The levels by name, with their detail. -/
def levelNames : List (String × Nat) :=
  [("off", 0), ("error", 1), ("warn", 2), ("info", 3), ("debug", 4), ("trace", 5)]

/-- The detail of a level given by number or name. -/
def detail? (s : List Char) : Option Nat :=
  match Text.Numeral.read 10 fullDetail s with
  | .ok n => some n
  | .error _ => levelNames.lookup (String.ofList (Text.lower s))

/-- The detail of the level after `=`: everything when nothing stands there. -/
def detailAfter? (s : List Char) : Option Nat := if s = [] then some fullDetail else detail? s

/-! ## Reading -/

/-- True of a character that can start a directive without brackets. -/
def canStart (c : Char) : Bool := Text.isAlphanumeric c || c = '-' || c = ':' || c = '_'

/-- True of a text that can be asked for as a value. -/
def isValue (s : List Char) : Bool := Text.isDecimal s || Text.isPattern s

/-- Reads a field, with the value after `=`. What follows a second `=` does not matter. -/
def fieldTest? (s : List Char) : Option FieldTest :=
  match s.span (· ≠ '=') with
  | ([], []) => none
  | (name, []) => some ⟨name, none⟩
  | (name, _ :: more) =>
    let value := more.takeWhile (· ≠ '=')
    if isValue value then some ⟨name, some value⟩ else none

/-- Why a text is no directive: it does not read as one, or one of its parts would hold a part of a
character. -/
inductive Fault
  | unreadable
  | splitCharacter
deriving DecidableEq

/-- A directive as far as it is being read: the text ahead, and the bytes from which its parts are
taken. -/
structure Draft where
  ahead : List Char
  bytes : List UInt8

namespace Draft

/-- The draft of a text. Its blanks at either end are passed over in reading, but not in taking: of
a text with blanks in front each part is taken from as many bytes before it. -/
def ofText (s : List Char) : Draft := ⟨Text.trim s, Text.Utf8.encode s⟩

/-- The draft after a part of the text. -/
def drop (d : Draft) (part : List Char) : Draft :=
  ⟨d.ahead.drop part.length, d.bytes.drop (Text.Utf8.encode part).length⟩

/-- What is taken of so many bytes. -/
def take (d : Draft) (size : Nat) : Except Fault (List Char) :=
  match Text.Utf8.slice? d.bytes size with
  | some taken => .ok taken
  | none => .error .splitCharacter

/-- What is taken up to the first of the `ends`, with that end and the draft after it. -/
def upTo (d : Draft) (ends : List Char) : Except Fault (List Char × Char × Draft) :=
  let part := d.ahead.takeWhile (· ∉ ends)
  let rest := d.drop part
  match rest.ahead with
  | [] => .error .unreadable
  | c :: _ => (d.take (Text.Utf8.encode part).length).map (·, c, rest.drop [c])

/-- The detail of a level that is taken up to the end. -/
def level (d : Draft) : Except Fault Nat :=
  match d.take d.bytes.length with
  | .error fault => .error fault
  | .ok taken =>
    match detailAfter? taken with
    | some detail => .ok detail
    | none => .error .unreadable

/-- The detail that a directive ends with: that of the level after `=`, or all. -/
def closing (d : Draft) : Except Fault Nat :=
  match d.ahead with
  | [] => .ok fullDetail
  | c :: _ => if c = '=' then (d.drop [c]).level else .error .unreadable

/-- The directive on a target, from the place after the opening brace of a field. -/
def braced (d : Draft) (target : List Char) (span : Option (List Char)) : Except Fault Directive :=
  match d.upTo ['\x7d'] with
  | .error fault => .error fault
  | .ok (field, _, d) =>
    match d.ahead, fieldTest? field with
    | ']' :: _, some field =>
      (d.drop [']']).closing.map fun detail => { target, span, field := some field, detail }
    | _, _ => .error .unreadable

/-- The directive on a target, from the place after an opening bracket. -/
def bracketed (d : Draft) (target : List Char) : Except Fault Directive :=
  match d.upTo [']', '\x7b'] with
  | .error fault => .error fault
  | .ok (span, c, d) =>
    if c = ']' then d.closing.map fun detail => { target, span := some span, detail }
    else d.braced target (if span = [] then none else some span)

end Draft

/-- Reads a directive. -/
def parse (s : List Char) : Except Fault Directive :=
  let d := Draft.ofText s
  match d.ahead with
  | [] => .error .unreadable
  | c :: _ =>
    if c = '[' then (d.drop [c]).bracketed []
    else if !canStart c then .error .unreadable
    else if d.ahead.all (· ∉ ['=', '[']) then
      match detail? s with
      | some detail => .ok { target := [], detail }
      | none => .ok { target := s, detail := fullDetail }
    else
      match d.upTo ['=', '['] with
      | .error fault => .error fault
      | .ok (target, c, d) =>
        if c = '[' then d.bracketed target else d.level.map fun detail => { target, detail }

end Directive

end RemoteSearch.Log

/-! ## Filters -/

namespace RemoteSearch.Log

/-- The directives of a filter, in the order in which they were given. -/
abbrev Filter : Type := List Directive

namespace Filter

/-- Reads a filter. The first directive that cannot be read spoils all. -/
def parse (s : String) : Except Directive.Fault Filter :=
  ((Text.pieces (· = ',') s.toList).filter (· ≠ [])).mapM Directive.parse

/-- The filter of a program, which is the default one when it is told of none, or of one that is
unreadable. One that splits a character leaves it without any. -/
def ofSetting? (default : Filter) : Option String → Option Filter
  | none => some default
  | some s =>
    match parse s with
    | .ok filter => some filter
    | .error .unreadable => some default
    | .error .splitCharacter => none

/-- The directive that decides over an entry among those that apply to it. -/
def deciding? (f : Filter) (e : Entry) : Option Directive :=
  (f.filter (·.applies e)).foldl
    (fun best d =>
      match best with
      | none => some d
      | some b => if b.specificity ≤ d.specificity then some d else some b) none

/-- True when an entry is shown. -/
def admits (f : Filter) (e : Entry) : Bool :=
  match f.deciding? e with
  | none => false
  | some d => e.level.detail ≤ d.detail

end Filter

end RemoteSearch.Log
