import RemoteSearch.Console
import Std.Async.DNS
import Std.Async.TCP
import Std.Async.Timer
import Std.Time

set_option autoImplicit false

/-! # The program

The console over real sockets, standard input and standard output. Nothing is decided here: each
line of input is answered by `Console.turn`, over a connection whose store of arrivals is filled
from the socket. A turn that comes to the end of the store in the middle of a field is taken again
once the missing bytes have come; every other turn is final, whatever comes later.
-/

namespace RemoteSearch.Program

open Std.Async

/-- A connected socket. -/
abbrev Socket : Type := TCP.Socket.Client

/-- The most bytes taken from a socket at once. -/
def chunkSize : UInt64 := 65536

/-- A failure of the socket. -/
def socketError (e : IO.Error) : StreamError :=
  let kind : StreamError.Kind := match e with
    | .resourceVanished _ _ => .connectionReset
    | .noSuchThing _ _ _ => .connectionRefused
    | .permissionDenied _ _ _ => .permissionDenied
    | .interrupted _ _ _ => .interrupted
    | .timeExpired _ _ => .timedOut
    | _ => .other
  ⟨kind, toString e⟩

/-- Writes entries to standard error, each after the time of day. -/
def report (filter : Log.Filter) (entries : List Log.Entry) : IO Unit := do
  for entry in entries.filter filter.admits do
    let now := Std.Time.DateTime.ofTimestamp (← Std.Time.Timestamp.now) .UTC
    let padding := "".pushn ' ' (5 - entry.level.text.length)
    IO.eprintln s!"{now.toISO8601String} {padding}{entry.line}"

/-- Prints texts at once. -/
def print (texts : List String) : IO Unit := do
  let output ← IO.getStdout
  output.putStr (String.join texts)
  output.flush

/-- The next line of the input with its newline, or nothing at its end. -/
partial def readLine (input : IO.FS.Stream) (newest : List UInt8) : IO (List UInt8) := do
  match (← input.read 1).toList with
  | [] => return newest.reverse
  | b :: _ => if b = 10 then return (b :: newest).reverse else readLine input (b :: newest)

/-! ## The socket -/

/-- Connects to the first address of a host that accepts. -/
def connectHost (host : String) (port : Nat) : IO Socket := do
  let mut failure := IO.userError "failed to lookup address information"
  for address in ← (DNS.getAddrInfo host "").block do
    let target : Std.Net.SocketAddress := match address with
      | .v4 a => .v4 ⟨a, port.toUInt16⟩
      | .v6 a => .v6 ⟨a, port.toUInt16⟩
    try
      let socket ← TCP.Socket.Client.mk
      (socket.connect target).block
      socket.noDelay
      return socket
    catch e => failure := e
  throw failure

/-- Connects to an endpoint. Sockets in the file system are not to be had here. -/
def connect (e : Endpoint) : IO (Except Failure Socket) := do
  match e with
  | .unix path =>
    match Endpoint.pathRefusal? path with
    | some cause => return .error (.connect e.toText cause)
    | none =>
      return .error (.config (.other "Unix domain sockets are not supported on this platform"))
  | .tcp address =>
    match Endpoint.hostAndPort address with
    | .error cause => return .error (.connect e.toText cause)
    | .ok (host, port) =>
      try return .ok (← connectHost host port)
      catch cause => return .error (.connect e.toText (socketError cause))

/-- Waits for what comes next on the socket, within a limit. -/
def arrival (socket : Socket) (limit : Option Duration) : IO Arrival := do
  try
    let received ← match limit with
      | none => some <$> (socket.recv? chunkSize).block
      | some d =>
        let sleep ← (Selector.sleep ⟨(d.nanoseconds / 1000000 : Nat)⟩).block
        (Selectable.one #[
          .case (socket.recvSelector chunkSize) (fun got => pure (some got)),
          .case sleep (fun _ => pure none)]).block
    match received with
    | none => return .failure Server.outOfTime
    | some none => return .ended
    | some (some bytes) => return .data bytes.toList
  catch e => return .failure (socketError e)

/-- Waits until as many bytes have come as are missing, or until no more can. -/
partial def arrivals (socket : Socket) (limit : Option Duration) (missing : Nat) :
    IO (List Arrival) := do
  match ← arrival socket limit with
  | .data bytes =>
    if missing ≤ bytes.length then return [.data bytes]
    else return .data bytes :: (← arrivals socket limit (missing - bytes.length))
  | other => return [other]

/-! ## The conversation -/

/-- The client with more in store. -/
def stocked (client : Client) (more : List Arrival) : Client :=
  client.onConnection { client.connection with arrivals := client.connection.arrivals ++ more }

/-- Takes a turn whose request has been sent, as often as the socket has to be waited for. -/
partial def await (socket : Socket) (mode : Mode) (line : List UInt8) (client : Client) :
    IO Console.Transcript := do
  let t := Console.turn mode line client
  match t.outcome with
  | .error (.shortRead _ expected got) =>
    let more ← arrivals socket client.readTimeout (expected - got)
    if .ended ∈ more then return Console.turn mode line (stocked client more)
    else await socket mode line (stocked client more)
  | _ => return t

/-- Takes a turn: sends what it sends, and then waits for its end. -/
def take (socket : Socket) (mode : Mode) (line : List UInt8) (client : Client) :
    IO Console.Transcript := do
  let t := Console.turn mode line client
  let bytes := t.client.connection.sent.drop client.connection.sent.length
  try
    if bytes ≠ [] then (socket.send (ByteArray.mk bytes.toArray)).block
    await socket mode line client
  catch e =>
    let failing := { client.connection with replies := [.failure (socketError e)] }
    return Console.turn mode line (client.onConnection failing)

/-- Asks for needles until the input ends or one cannot be answered. -/
partial def converse (socket : Socket) (filter : Log.Filter) (mode : Mode) (client : Client) :
    IO UInt32 := do
  print [Console.prompt]
  let line ← readLine (← IO.getStdin) []
  if line.isEmpty then
    print [Console.farewell]
    return 0
  let t ← take socket mode line client
  report filter t.entries
  print t.output
  match t.outcome with
  | .ok () => converse socket filter mode t.client
  | .error e =>
    report filter [Console.failureEntry e]
    return 1

/-- Runs the console with options. -/
def run (filter : Log.Filter) (o : Console.Options) : IO UInt32 := do
  match Endpoint.parse o.network o.address with
  | .error e =>
    report filter [Console.failureEntry (.config e)]
    return 2
  | .ok endpoint =>
    let settings := o.settings endpoint
    report filter (Console.openingEntries settings)
    match ← connect endpoint with
    | .error e =>
      report filter [Console.failureEntry e]
      return 1
    | .ok socket =>
      report filter [Console.connectedEntry endpoint]
      converse socket filter settings.mode (settings.client {})

end RemoteSearch.Program

/-- Reads the log filter and the arguments, then shows help, shows the version or runs the console.
-/
def main (arguments : List String) : IO UInt32 := do
  let refuse (r : RemoteSearch.Console.Refusal) : IO UInt32 := do
    IO.eprintln r.message
    return r.status.toUInt32
  let setting ← IO.getEnv "RUST_LOG"
  match RemoteSearch.Log.Filter.ofSetting? RemoteSearch.Console.defaultFilter setting with
  | none => refuse .splitFilter
  | some filter =>
    match RemoteSearch.Console.Invocation.ofArguments arguments with
    | .error e => refuse (.usage e)
    | .ok .help =>
      IO.print RemoteSearch.Console.helpText
      return 0
    | .ok .version =>
      IO.print RemoteSearch.Console.versionLine
      return 0
    | .ok (.run options) => RemoteSearch.Program.run filter options
