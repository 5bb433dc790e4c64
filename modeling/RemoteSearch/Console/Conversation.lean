import RemoteSearch.Client
import RemoteSearch.Log
import RemoteSearch.Mode.Text

set_option autoImplicit false

/-! # The conversation at the console

The console asks for needles, one line each, and answers with one line for each occurrence, until
there is no more input or a search fails. What is printed, what is logged and how it ends are all
functions of the input and of what the connection has in store.
-/

namespace RemoteSearch.Console

/-! ## Lines of input -/

/-- The input cut after each newline. The last line may lack one. -/
def lines : List UInt8 → List (List UInt8)
  | [] => []
  | b :: rest =>
    if b = 10 then [b] :: lines rest
    else
      match lines rest with
      | [] => [[b]]
      | line :: more => (b :: line) :: more

theorem flatten_lines (bytes : List UInt8) : (lines bytes).flatten = bytes := by
  induction bytes with
  | nil => rfl
  | cons b rest ih =>
    simp only [lines]
    split
    · simp [ih]
    · split <;> simp_all

/-- What reading a line of invalid text meets. -/
def invalidText : StreamError := ⟨.invalidData, "stream did not contain valid UTF-8"⟩

/-- The needle of a line: its text without the line ends. -/
def needleOf (line : List UInt8) : Except Failure String :=
  match Text.Utf8.strict? line with
  | none => .error (.stream invalidText)
  | some s => .ok (String.ofList (s.reverse.dropWhile fun c => c = '\n' || c = '\r').reverse)

/-! ## Lines of output -/

/-- The line for an occurrence: as much of it as the mode asked for. -/
def occurrenceLine (mode : Mode) (order : Wire.Endian) (o : Occurrence) : String :=
  let needle := match o.needle with
    | some t => if mode.hasNeedle then s!" \"{t.toString order}\" ({t.length})" else ""
    | none => ""
  let data :=
    if mode.hasUserData then
      s!" data length: \"{String.ofList (Text.Utf8.lenient o.data)}\" {o.dataSize}"
    else ""
  s!"found{needle}{data}"

/-- What is printed for the occurrences of a search. -/
def answerText (mode : Mode) (order : Wire.Endian) (os : List Occurrence) : List String :=
  if os.isEmpty then ["not found\n"] else os.map (fun o => occurrenceLine mode order o ++ "\n")

/-- What is printed to ask for a needle. -/
def prompt : String := "Needle: "

/-! ## Exchanges -/

/-- The target of entries about exchanges. -/
def clientTarget : String := "datsearch::network::client"

/-- The entry for a request that was sent. -/
def sentEntry (mode : Mode) (needle : String) : Log.Entry :=
  ⟨.trace, clientTarget,
    s!"Sent search for {(Text.Utf8.encode needle.toList).length} bytes (mode {mode.toText})"⟩

/-- The entry for a response that was received. -/
def receivedEntry (mode : Mode) (os : List Occurrence) : Log.Entry :=
  ⟨.trace, clientTarget, s!"Received {os.length} occurrences (mode {mode.toText})"⟩

/-- A search together with the entries about it, one for each half that succeeds. -/
def exchange (mode : Mode) (needle : String) (c : Client) :
    Except Failure (List Occurrence) × List Log.Entry × Client :=
  match c.send mode needle c.writeTimeout with
  | (.error e, c) => (.error e, [], c)
  | (.ok (), c) =>
    match c.receive mode c.readTimeout with
    | (.error e, c) => (.error e, [sentEntry mode needle], c)
    | (.ok os, c) => (.ok os, [sentEntry mode needle, receivedEntry mode os], c)

/-- An exchange is a search. -/
theorem exchange_eq_search (mode : Mode) (needle : String) (c : Client) :
    ((exchange mode needle c).1, (exchange mode needle c).2.2) = c.search mode needle := by
  unfold exchange Client.search
  rcases c.send mode needle c.writeTimeout with ⟨e | ⟨⟩, c'⟩
  · rfl
  · dsimp only
    rcases c'.receive mode c'.readTimeout with ⟨e | os, c''⟩ <;> rfl

/-! ## The conversation -/

/-- What a conversation, or one turn of it, leaves behind. -/
structure Transcript where
  output : List String
  entries : List Log.Entry
  outcome : Except Failure Unit
  client : Client

/-- The transcript with more before it. -/
def Transcript.after (output : List String) (entries : List Log.Entry) (t : Transcript) :
    Transcript :=
  { t with output := output ++ t.output, entries := entries ++ t.entries }

/-- Answers one line of input. -/
def turn (mode : Mode) (line : List UInt8) (client : Client) : Transcript :=
  match needleOf line with
  | .error e => ⟨[], [], .error e, client⟩
  | .ok needle =>
    match exchange mode needle client with
    | (.error e, entries, client) => ⟨[], entries, .error e, client⟩
    | (.ok os, entries, client) =>
      ⟨answerText mode client.dialect.order os, entries, .ok (), client⟩

/-- What is printed when the input has ended. -/
def farewell : String := "\n"

/-- Asks for needles, which are read from lines, and answers each, until one cannot be answered. -/
def converse (mode : Mode) : List (List UInt8) → Client → Transcript
  | [], client => ⟨[prompt, farewell], [], .ok (), client⟩
  | line :: more, client =>
    match turn mode line client with
    | ⟨output, entries, .error e, client⟩ => ⟨prompt :: output, entries, .error e, client⟩
    | ⟨output, entries, .ok (), client⟩ =>
      (converse mode more client).after (prompt :: output) entries

end RemoteSearch.Console
