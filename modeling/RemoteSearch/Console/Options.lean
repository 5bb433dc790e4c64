import RemoteSearch.Mode.Text
import RemoteSearch.Text.Plain
import RemoteSearch.Wire.Endian

set_option autoImplicit false

/-! # Options of the console

The arguments of the console are read from left to right. An option takes a value, attached to it
or as the argument after it, and may be given once. An argument that looks like an option is never
taken for a value. An option whose value may still follow is settled only when the next option
starts or the arguments end, so that an argument that belongs nowhere is complained about first.
-/

namespace RemoteSearch.Console

/-- The options that take a value. -/
inductive Key
  | endian
  | network
  | address
  | searchMode
  | readTimeout
  | writeTimeout
deriving DecidableEq

namespace Key

/-- All options, in the order in which they are listed. -/
def all : List Key := [endian, network, address, searchMode, readTimeout, writeTimeout]

/-- The long name. -/
def long : Key → String
  | endian => "endian"
  | network => "network"
  | address => "address"
  | searchMode => "search-mode"
  | readTimeout => "read-timeout-ms"
  | writeTimeout => "write-timeout-ms"

/-- The one-letter name, of the options that have one. -/
def short? : Key → Option Char
  | endian => some 'e'
  | network => some 'n'
  | address => some 'a'
  | searchMode => some 'm'
  | readTimeout => none
  | writeTimeout => none

/-- What stands for the value. -/
def placeholder : Key → String
  | endian => "ENDIAN"
  | network => "NETWORK"
  | address => "ADDRESS"
  | searchMode => "SEARCH_MODE"
  | readTimeout => "READ_TIMEOUT_MS"
  | writeTimeout => "WRITE_TIMEOUT_MS"

/-- The option with its value, as errors name it. -/
def usage (k : Key) : String := s!"--{k.long} <{k.placeholder}>"

/-- The option of a long name. -/
def ofLong? (name : String) : Option Key := all.find? (·.long = name)

/-- The option of a letter. -/
def ofShort? (c : Char) : Option Key := all.find? (·.short? = some c)

end Key

/-- What the options say. -/
structure Options where
  order : Wire.Endian := .little
  network : String := "tcp"
  address : String := "127.0.0.1:80"
  mode : Mode := .all
  readTimeout : Nat := 0
  writeTimeout : Nat := 0
deriving DecidableEq

/-- The largest timeout. -/
def timeoutLimit : Nat := 18446744073709551615

/-- The options with a value read for one of them, or what is wrong with the value. -/
def Options.assign (o : Options) (k : Key) (value : String) : Except String Options :=
  match k with
  | .endian =>
    match Wire.Endian.parse value with
    | .ok order => .ok { o with order }
    | .error e => .error (Failure.config e).message
  | .network => .ok { o with network := value }
  | .address => .ok { o with address := value }
  | .searchMode =>
    match Mode.parse value with
    | .ok mode => .ok { o with mode }
    | .error e => .error (Failure.config e).message
  | .readTimeout =>
    match Text.Numeral.read 10 timeoutLimit value.toList with
    | .ok readTimeout => .ok { o with readTimeout }
    | .error e => .error e.message
  | .writeTimeout =>
    match Text.Numeral.read 10 timeoutLimit value.toList with
    | .ok writeTimeout => .ok { o with writeTimeout }
    | .error e => .error e.message

/-! ## Errors -/

/-- How arguments can be wrong. -/
inductive UsageError
  | unexpectedArgument (argument : String)
  | unexpectedValue (value option : String)
  | missingValue (key : Key)
  | repeated (key : Key)
  | badValue (key : Key) (value reason : String)
deriving DecidableEq

/-- The error in words. What was given is shown as plain text. -/
def UsageError.message : UsageError → String
  | unexpectedArgument argument => s!"error: unexpected argument '{Text.plain argument}' found"
  | unexpectedValue value option =>
    s!"error: unexpected value '{Text.plain value}' for '{option}' found; no more were expected"
  | missingValue key => s!"error: a value is required for '{key.usage}' but none was supplied"
  | repeated key => s!"error: the argument '{key.usage}' cannot be used multiple times"
  | badValue key value reason =>
    s!"error: invalid value '{Text.plain value}' for '{key.usage}': {reason}"

/-! ## Arguments -/

/-- An argument by its shape. -/
inductive Argument
  | long (name : String) (value : Option String)
  | short (letter : Char) (rest : List Char)
  | terminator
  | plain (text : String)
deriving DecidableEq

/-- The shape of an argument. A single dash is plain text. -/
def Argument.ofString (s : String) : Argument :=
  match s.toList with
  | '-' :: '-' :: [] => .terminator
  | '-' :: '-' :: rest =>
    match rest.span (· ≠ '=') with
    | (name, []) => .long (String.ofList name) none
    | (name, _ :: value) => .long (String.ofList name) (some (String.ofList value))
  | '-' :: letter :: rest => .short letter rest
  | _ => .plain s

/-- The value attached to a one-letter option: what follows it, less an equals sign in front. -/
def attached? : List Char → Option String
  | [] => none
  | '=' :: value => some (String.ofList value)
  | value => some (String.ofList value)

/-! ## Reading arguments -/

/-- What the arguments ask for. -/
inductive Invocation
  | help
  | version
  | run (options : Options)
deriving DecidableEq

/-- The options read so far, those among them that were given, and the option whose value may still
follow or has just come. -/
structure Parsing where
  options : Options := {}
  given : List Key := []
  open? : Option (Key × Option String) := none

namespace Parsing

/-- Gives an option its value. -/
def give (p : Parsing) (k : Key) (value : String) : Except UsageError Parsing :=
  if k ∈ p.given then .error (.repeated k)
  else
    match p.options.assign k value with
    | .ok options => .ok { p with options, given := k :: p.given }
    | .error reason => .error (.badValue k value reason)

/-- Settles the option whose value could still follow. -/
def settle (p : Parsing) : Except UsageError Parsing :=
  match p.open? with
  | none => .ok p
  | some (k, none) => .error (.missingValue k)
  | some (k, some value) => { p with open? := none }.give k value

/-- Starts an option, with the value attached to it. -/
def start (p : Parsing) (k : Key) (value : Option String) : Except UsageError Parsing :=
  match p.settle with
  | .error e => .error e
  | .ok p =>
    match value with
    | some value => p.give k value
    | none => .ok { p with open? := some (k, none) }

/-- Ends with a result, once the last option is settled. -/
def finish (p : Parsing) (result : Options → Invocation) : Except UsageError Invocation :=
  p.settle.map (fun p => result p.options)

/-- Reads the arguments from a point on. -/
def read (p : Parsing) : List String → Except UsageError Invocation
  | [] => p.finish .run
  | argument :: rest =>
    match Argument.ofString argument with
    | .terminator =>
      match rest with
      | [] => p.finish .run
      | extra :: _ => .error (.unexpectedArgument extra)
    | .plain text =>
      match p.open? with
      | some (k, none) =>
        -- The value is judged later: whatever follows may be worse.
        read { p with open? := some (k, some text) } rest
      | _ => .error (.unexpectedArgument text)
    | .long name value =>
      match Key.ofLong? name with
      | some k =>
        match p.start k value with
        | .error e => .error e
        | .ok p => read p rest
      | none =>
        if name = "help" ∨ name = "version" then
          match value with
          | some value => .error (.unexpectedValue value s!"--{name}")
          | none => p.finish fun _ => if name = "help" then .help else .version
        else .error (.unexpectedArgument s!"--{name}")
    | .short letter more =>
      match Key.ofShort? letter with
      | some k =>
        match p.start k (attached? more) with
        | .error e => .error e
        | .ok p => read p rest
      | none =>
        if letter = 'h' then p.finish fun _ => .help
        else if letter = 'V' then p.finish fun _ => .version
        else .error (.unexpectedArgument (String.ofList ['-', letter]))

end Parsing

/-- Reads the arguments of the console. -/
def Invocation.ofArguments (arguments : List String) : Except UsageError Invocation :=
  ({} : Parsing).read arguments

/-! ## Help -/

/-- The version. -/
def version : String := "0.1.0"

/-- The name and version of the console. -/
def versionLine : String := s!"datsearch-cli {version}\n"

/-- The lines about one option. -/
def helpLines (k : Key) : List String :=
  let names := match k.short? with
    | some c => String.ofList ['-', c, ',', ' ']
    | none => "    "
  let about := match k with
    | .endian => "Byte order shared with the server (little, big) [default: little]"
    | .network => "Network (tcp, unix) [default: tcp]"
    | .address => "Address (host:port or socket path) [default: 127.0.0.1:80]"
    | .searchMode =>
      "Search mode: integer bitset or names such as first|needle|user-data [default: 7]"
    | .readTimeout => "Read timeout in milliseconds (0 = none) [default: 0]"
    | .writeTimeout => "Write timeout in milliseconds (0 = none) [default: 0]"
  [s!"  {names}{k.usage}\n", s!"          {about}\n"]

/-- What is shown to who asks for help. -/
def helpText : String :=
  String.join (["Interactive client for a datsearch server\n", "\n",
    "Usage: datsearch-cli [OPTIONS]\n", "\n", "Options:\n"] ++ Key.all.flatMap helpLines ++
    ["  -h, --help\n", "          Print help\n", "  -V, --version\n", "          Print version\n"])

end RemoteSearch.Console
