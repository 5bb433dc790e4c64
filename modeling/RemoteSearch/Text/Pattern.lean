import RemoteSearch.Text.Characters
import RemoteSearch.Text.Pattern.Sign
import RemoteSearch.Text.Pattern.State

set_option autoImplicit false

/-! # Patterns

Which texts are regular expressions. A brace never counts repetitions: where patterns stand, the
closing brace would end the pattern.
-/

namespace RemoteSearch.Text.Pattern

namespace State

/-! ## Classes -/

/-- Reads from behind the bracket that opens a class. -/
def openClass? (p : State) (s : List Char) : Option (State × List Char) :=
  match skip p.manner.verbose s with
  | '^' :: rest =>
    if p.manner.wide then some ({ p with classes := {} :: p.classes }, rest) else none
  | rest => some ({ p with classes := {} :: p.classes }, rest)

/-- Reads one item of a class, or a range between two, that starts with a character. A dash is part
of a range unless a bracket or another dash is seen after it. -/
def classRange? (p : State) (c : Char) (s : List Char) : Option (List Char) :=
  let verbose := p.manner.verbose
  match sign? verbose c s with
  | none => none
  | some (low, s) =>
    match skip verbose s with
    | [] => none
    | d :: s =>
      if d ≠ '-' || glance? verbose s ∈ [some ']', some '-'] then
        if p.manner.takesInClass low then some (d :: s) else none
      else
        match skip verbose s with
        | [] => none
        | e :: s =>
          match low, sign? verbose e s with
          | .character l _, some (.character h b, s) =>
            if l ≤ h && p.manner.takesInClass low && p.manner.takesInClass (.character h b) then
              some s
            else none
          | _, _ => none

/-- Reads on in the innermost of the open classes. -/
def readClass? (p : State) (k : Class) (outer : List Class) (c : Char) (s : List Char) :
    Option (State × List Char) :=
  let back (k : Class) : State := { p with classes := k :: outer }
  if k.atStart && c = '-' then
    if p.manner.takesCharacters then some (back { k.add 0 with atStart := true }, s) else none
  else if k.atStart && k.items.isEmpty && c = ']' then
    if p.manner.takesCharacters then some (back (k.add 0), s) else none
  else if c = ']' then
    match outer with
    | [] => some ({ p with classes := [] }.add (1 + k.height), s)
    | o :: outer => some ({ p with classes := o.add (1 + k.height) :: outer }, s)
  else if c = '[' then
    match namedCategory? s with
    | some (negated, rest) =>
      if p.manner.takesCharacters && (p.manner.wide || !negated) then some (back (k.add 0), rest)
      else none
    | none => (back { k with atStart := false }).openClass? s
  else if c ∈ ['&', '-', '~'] && s.head? = some c then some (back k.operate, s.drop 1)
  else (p.classRange? c s).map fun rest => (back (k.add 0), rest)

/-! ## Groups -/

/-- True of a name for a group. -/
def isName : List Char → Bool
  | [] => false
  | c :: s =>
    (c = '_' || isAlphabetic c) && s.all fun d => d ∈ ['_', '.', '[', ']'] || isAlphanumeric d

/-- Reads the name of a group, from its first character on. -/
def openNamed? (p : State) (s : List Char) : Option (State × List Char) :=
  let name := s.takeWhile (· ≠ '>')
  match s.dropWhile (· ≠ '>') with
  | [] => none
  | _ :: rest =>
    if isName name && name ∉ p.names then
      some ({ p.open_ p.manner with names := name :: p.names }, rest)
    else none

/-- Reads flags, which open a group or hold up to the end of the group around them. -/
def flags? (p : State) (s : List Char) : Option (State × List Char) :=
  let written := s.takeWhile (· ∉ [':', ')'])
  let manner := p.manner.after written
  if !Manner.areFlags written then none
  else
    match s.dropWhile (· ∉ [':', ')']) with
    | ':' :: rest => some (p.open_ manner, rest)
    | ')' :: rest =>
      if written = [] then none
      else some ({ p with manner, group.parts := none :: p.group.parts }, rest)
    | _ => none

/-- Reads from behind a parenthesis that opens a group. -/
def openGroup? (p : State) (s : List Char) : Option (State × List Char) :=
  match skip p.manner.verbose s with
  | '?' :: 'P' :: '<' :: rest => p.openNamed? rest
  | '?' :: '<' :: rest => p.openNamed? rest
  | '?' :: rest => p.flags? rest
  | rest => some (p.open_ p.manner, rest)

/-- Reads on outside of classes. A question mark right after a repetition is part of it. -/
def readItem? (p : State) (c : Char) (s : List Char) : Option (State × List Char) :=
  match c with
  | '(' => p.openGroup? s
  | ')' => p.close?.map (·, s)
  | '|' => some ({ p with group := p.group.alternate }, s)
  | '[' => p.openClass? s
  | '?' | '*' | '+' =>
    p.group.repeat?.map fun group =>
      ({ p with group }, if s.head? = some '?' then s.drop 1 else s)
  | '\x7b' => none
  | '.' => if p.manner.wide then some (p.add 0, s) else none
  | '^' | '$' => some (p.add 0, s)
  | _ =>
    match sign? p.manner.verbose c s with
    | none => none
    | some (sign, rest) => if p.manner.takes sign then some (p.add 0, rest) else none

/-! ## The whole pattern -/

/-- Reads one thing that starts with a character. -/
def read? (p : State) (c : Char) (s : List Char) : Option (State × List Char) :=
  match p.classes with
  | [] => p.readItem? c s
  | k :: outer => p.readClass? k outer c s

/-- Reads up to the end, at most so many things. -/
def readAll? : Nat → State → List Char → Option State
  | 0, _, _ => none
  | n + 1, p, s =>
    match skip p.manner.verbose s with
    | [] => some p
    | c :: s =>
      match p.read? c s with
      | none => none
      | some (p, s) => readAll? n p s

end State

end RemoteSearch.Text.Pattern

namespace RemoteSearch.Text

/-- True of a text that is a pattern. It holds no more things than characters. -/
def isPattern (s : List Char) : Bool :=
  (Pattern.State.readAll? (s.length + 1) {} s).any Pattern.State.isFinal

end RemoteSearch.Text
