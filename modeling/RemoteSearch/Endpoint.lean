import RemoteSearch.Failure
import RemoteSearch.Text.Blank

set_option autoImplicit false

/-! # Endpoints

Where a search server listens: on a host and port, or on a socket in the file system. An endpoint
is named by a network and an address; the address is kept as it is given.
-/

namespace RemoteSearch

/-- Where a server listens. -/
inductive Endpoint
  | tcp (address : String)
  | unix (path : String)
deriving DecidableEq

namespace Endpoint

/-- The address or path. -/
def address : Endpoint → String
  | tcp address => address
  | unix path => path

/-- The endpoint as text. -/
def toText : Endpoint → String
  | tcp address => s!"tcp://{address}"
  | unix path => s!"unix://{path}"

/-- The names of networks that are read, with the endpoints on them. -/
def networks : List (String × (String → Endpoint)) :=
  [("tcp", tcp), ("tcp4", tcp), ("tcp6", tcp), ("unix", unix)]

/-- The endpoint on a network with an address. Case and surrounding white space of the network do
not matter. -/
def parse (network address : String) : Except Misconfiguration Endpoint :=
  let name := String.ofList (Text.lower (Text.trim network.toList))
  match networks.lookup name with
  | some endpoint => .ok (endpoint address)
  | none => .error (.unknownNetwork name)

end Endpoint

end RemoteSearch
