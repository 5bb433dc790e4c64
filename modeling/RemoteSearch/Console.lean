import RemoteSearch.Console.Conversation
import RemoteSearch.Console.Options
import RemoteSearch.Server
import RemoteSearch.Log.Filter
import RemoteSearch.Settings

set_option autoImplicit false

/-! # The console

A run of the console from its arguments to its exit status: the log filter and the arguments are
read, the server is connected to, and needles are asked for until the input ends. Everything the run
prints, logs and sends is collected in a report. What a run does once it is connected depends on its
settings, the connection and the input alone (`runOver`).
-/

namespace RemoteSearch.Console

/-- The target of entries about the run as a whole. -/
def consoleTarget : String := "datsearch_cli"

/-- The target of entries about connecting. -/
def connectionTarget : String := "datsearch::network::transport"

/-- The filter that holds when none is set: warnings, and more about the library itself. -/
def defaultFilter : Log.Filter :=
  [{ target := [], detail := 2 }, { target := "datsearch".toList, detail := 3 }]

/-- The entry for a failure that ends the run. -/
def failureEntry (e : Failure) : Log.Entry := ⟨.error, consoleTarget, e.message⟩

/-- The settings that options describe, for an endpoint. -/
def Options.settings (o : Options) (endpoint : Endpoint) : Settings :=
  .ofList [.endpoint endpoint, .order o.order, .mode o.mode, .readTimeout o.readTimeout,
    .writeTimeout o.writeTimeout]

/-- The entries that open a run. -/
def openingEntries (s : Settings) : List Log.Entry :=
  [⟨.info, consoleTarget, s!"datsearch CLI v{version}"⟩,
    ⟨.info, consoleTarget,
      s!"Server: {s.endpoint.toText} ({s.order.toText} endian, mode {s.mode.toText})"⟩]

/-- The entry for a connection that was made. -/
def connectedEntry (e : Endpoint) : Log.Entry :=
  ⟨.debug, connectionTarget, s!"Connected to {e.toText}"⟩

/-- Why a run does not come about: the arguments are not understood, or the log filter splits a
character. -/
inductive Refusal
  | usage (e : UsageError)
  | splitFilter

namespace Refusal

/-- The exit status. -/
def status : Refusal → UInt8
  | usage _ => 2
  | splitFilter => 101

/-- The text on standard error. That of a filter starts with an empty line. -/
def message : Refusal → String
  | usage e => e.message
  | splitFilter => "\nthe log filter splits a character"

end Refusal

/-- What a run leaves behind. -/
structure Report where
  status : UInt8
  output : List String := []
  entries : List Log.Entry := []
  refusal : Option Refusal := none
  sent : List UInt8 := []

namespace Report

/-- The report of a run that does not come about. -/
def refused (r : Refusal) : Report := { status := r.status, refusal := some r }

/-- The report with the entries that a filter admits. -/
def admitted (r : Report) (filter : Log.Filter) : Report :=
  { r with entries := r.entries.filter filter.admits }

/-- The lines on standard error: the entries, or the first line about a refusal. -/
def errorLines (r : Report) : List String :=
  match r.refusal with
  | some refusal => [String.ofList (Text.firstLine refusal.message.toList)]
  | none => r.entries.map Log.Entry.line

end Report

/-- A run over a connection, with settings, on input. -/
def runOver (settings : Settings) (connection : Connection) (input : List UInt8) : Report :=
  let t := converse settings.mode (lines input) (settings.client connection)
  let entries := openingEntries settings ++ connectedEntry settings.endpoint :: t.entries
  let sent := t.client.connection.sent
  match t.outcome with
  | .ok () => { status := 0, output := t.output, entries, sent }
  | .error e => { status := 1, output := t.output, entries := entries ++ [failureEntry e], sent }

variable (files : Path.FileSystem) (server : Server)

/-- A run with settings, on input. -/
def runWith (settings : Settings) (input : List UInt8) : Report :=
  match settings.endpoint.connect files server (lines input).length with
  | .error e => { status := 1, entries := openingEntries settings ++ [failureEntry e] }
  | .ok connection => runOver settings connection input

/-- A run with arguments, on input, with all that could be logged. -/
def runLogged (arguments : List String) (input : List UInt8) : Report :=
  match Invocation.ofArguments arguments with
  | .error e => .refused (.usage e)
  | .ok .help => { status := 0, output := [helpText] }
  | .ok .version => { status := 0, output := [versionLine] }
  | .ok (.run o) =>
    match Endpoint.parse o.network o.address with
    | .error e => { status := 2, entries := [failureEntry (.config e)] }
    | .ok endpoint => runWith files server (o.settings endpoint) input

/-- A run with a setting of the log filter and arguments, on input. The filter is read first. -/
def run (setting : Option String) (arguments : List String) (input : List UInt8) : Report :=
  match Log.Filter.ofSetting? defaultFilter setting with
  | none => .refused .splitFilter
  | some filter => (runLogged files server arguments input).admitted filter

end RemoteSearch.Console
