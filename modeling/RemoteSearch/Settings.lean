import RemoteSearch.Client
import RemoteSearch.Endpoint

set_option autoImplicit false

/-! # Settings

All that a client can be told before it connects. Settings start from defaults and are changed one
at a time, so that of several settings of the same thing the last one holds. An endpoint can be
given as such, or by its address or path. Timeouts are given in milliseconds, where zero stands for
none.
-/

namespace RemoteSearch

/-- The settings of a client. -/
structure Settings where
  endpoint : Endpoint := .tcp "127.0.0.1:80"
  readTimeout : Nat := 0
  writeTimeout : Nat := 0
  order : Wire.Endian := .little
  mode : Mode := .all
  fieldLimit : Nat := defaultFieldLimit
deriving DecidableEq

/-- A change of one setting. -/
inductive Setting
  | endpoint (e : Endpoint)
  | readTimeout (milliseconds : Nat)
  | writeTimeout (milliseconds : Nat)
  | order (order : Wire.Endian)
  | mode (mode : Mode)
  | fieldLimit (limit : Nat)
deriving DecidableEq

namespace Setting

/-- The change to an endpoint on a host and port. -/
def tcp (address : String) : Setting := endpoint (.tcp address)

/-- The change to an endpoint in the file system. -/
def unix (path : String) : Setting := endpoint (.unix path)

end Setting

namespace Settings

/-- The settings after a change. -/
def set (s : Settings) : Setting → Settings
  | .endpoint endpoint => { s with endpoint }
  | .readTimeout readTimeout => { s with readTimeout }
  | .writeTimeout writeTimeout => { s with writeTimeout }
  | .order order => { s with order }
  | .mode mode => { s with mode }
  | .fieldLimit fieldLimit => { s with fieldLimit }

/-- The settings after changes to the defaults, made in order. -/
def ofList (changes : List Setting) : Settings := changes.foldl set {}

/-- The byte order and field limit. -/
def dialect (s : Settings) : Dialect := ⟨s.order, s.fieldLimit⟩

/-- The client that these settings describe, over a connection. -/
def client (s : Settings) (c : Connection) : Client :=
  ((Client.ofConnection s.dialect c).withMode s.mode).withTimeouts
    (Duration.limitOfMilliseconds s.readTimeout) (Duration.limitOfMilliseconds s.writeTimeout)

theorem ofList_concat (changes : List Setting) (c : Setting) :
    ofList (changes ++ [c]) = (ofList changes).set c := by
  simp [ofList]

end Settings

end RemoteSearch
