import RemoteSearch.Client
import RemoteSearch.Endpoint
import RemoteSearch.Endpoint.Path
import RemoteSearch.Text.Numeral

set_option autoImplicit false

/-! # Servers and how they are reached

A server listens at one endpoint. To whoever connects it sends bytes of its own accord and then
either ends its side or stays silent, so that every further read runs out of time. It takes all
that is written to it. An endpoint at which no server listens is refused with the reason that can
be told from its address and from what stands in the file system.
-/

namespace RemoteSearch

/-- A server, by where it listens and what it sends. -/
structure Server where
  endpoint : Endpoint
  sends : List UInt8
  staysSilent : Bool

namespace Server

/-- What a read meets that has run out of time. -/
def outOfTime : StreamError := ⟨.wouldBlock, "Resource temporarily unavailable (os error 11)"⟩

/-- A connection to the server, on which up to `patience` reads may run out of time. -/
def connection (patience : Nat) (s : Server) : Connection where
  arrivals := .data s.sends ::
    if s.staysSilent then List.replicate patience (.failure outOfTime) else []

end Server

namespace Endpoint

/-- The number of bytes a socket's path has to stay below. -/
def pathLimit : Nat := 108

/-- The host and the port of an address. The port is what follows the last colon. -/
def hostAndPort (address : String) : Except StreamError (String × Nat) :=
  match address.toList.reverse.span (· ≠ ':') with
  | (_, []) => .error ⟨.invalidInput, "invalid socket address"⟩
  | (port, _ :: host) =>
    match Text.Numeral.read 10 65535 port.reverse with
    | .error _ => .error ⟨.invalidInput, "invalid port value"⟩
    | .ok n => .ok (String.ofList host.reverse, n)

/-- What connecting meets where nothing listens. -/
def refused : StreamError := ⟨.connectionRefused, "Connection refused (os error 111)"⟩

/-- Why a host and port are refused at which no server listens. -/
def hostRefusal (address : String) : StreamError :=
  match hostAndPort address with
  | .error e => e
  | .ok (host, _) =>
    if '\x00' ∈ host.toList then
      ⟨.invalidInput, "file name contained an unexpected NUL byte"⟩
    else refused

/-- Why a path is refused whatever there is in the file system. -/
def pathRefusal? (path : String) : Option StreamError :=
  if '\x00' ∈ path.toList then
    some ⟨.invalidInput, "paths must not contain interior null bytes"⟩
  else if pathLimit ≤ path.utf8ByteSize then
    some ⟨.invalidInput, "path must be shorter than SUN_LEN"⟩
  else if path = "" then some ⟨.invalidInput, "Invalid argument (os error 22)"⟩
  else none

/-- Why a path is refused that does not lead to the socket of a server. -/
def goalRefusal? : Path.Goal → Option StreamError
  | .reached .socket => none
  | .reached _ => some refused
  | .throughFile => some ⟨.notADirectory, "Not a directory (os error 20)"⟩
  | .missing => some ⟨.notFound, "No such file or directory (os error 2)"⟩

/-- Why an endpoint cannot be reached while a server listens at one, in a file system. -/
def refusal? (files : Path.FileSystem) (server : Endpoint) : Endpoint → Option StreamError
  | tcp address => if server = tcp address then none else some (hostRefusal address)
  | unix path =>
    match pathRefusal? path, server with
    | some e, _ => some e
    | none, unix socket =>
      if socket = path then none else goalRefusal? ((files.serving socket).goal path)
    | none, tcp _ => goalRefusal? (files.goal path)

/-- Connects to an endpoint. -/
def connect (files : Path.FileSystem) (server : Server) (patience : Nat) (e : Endpoint) :
    Except Failure Connection :=
  match refusal? files server.endpoint e with
  | some cause => .error (.connect e.toText cause)
  | none => .ok (server.connection patience)

end Endpoint

end RemoteSearch
