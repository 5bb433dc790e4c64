import RemoteSearch.Request
import RemoteSearch.Response

set_option autoImplicit false

/-! # Clients

A client runs searches over one connection. A search is an exchange: a request is sent, then its
response is received in the same mode. Each half first sets the deadline for its direction, where a
deadline of zero stands for none. Requests are written to the connection itself; responses are read
through a store of bytes read ahead, so that a client may hold bytes of a response that nobody has
asked for yet.
-/

namespace RemoteSearch

/-- A client of one connection. The mode is the one for queries; the timeouts are those of whole
searches. -/
structure Client where
  reader : Reader
  dialect : Dialect
  mode : Mode := .all
  readTimeout : Option Duration := none
  writeTimeout : Option Duration := none
deriving DecidableEq

namespace Client

/-- The number of bytes a client reads ahead. -/
def readAhead : Nat := 8192

/-- A client of a connection, which queries for everything and waits as long as it takes. -/
def ofConnection (dialect : Dialect) (c : Connection) : Client :=
  { reader := .buffered readAhead c, dialect }

/-- The connection under a client. -/
def connection (c : Client) : Connection := c.reader.connection

/-- The client over another state of its connection. -/
def onConnection (c : Client) (connection : Connection) : Client :=
  { c with reader := { c.reader with connection } }

/-- The client with another mode for queries. -/
def withMode (mode : Mode) (c : Client) : Client := { c with mode }

/-- The client with other timeouts for searches. -/
def withTimeouts (readTimeout writeTimeout : Option Duration) (c : Client) : Client :=
  { c with readTimeout, writeTimeout }

/-- A new client of the same connection. Bytes read ahead are lost, and the mode and the timeouts
are those of any new client. -/
def renew (c : Client) : Client := ofConnection c.dialect c.connection

/-- Sends one request. -/
def send (mode : Mode) (text : String) (deadline : Option Duration) (c : Client) :
    Except Failure Unit × Client :=
  match c.connection.setDeadline .writing (Duration.limit? deadline) with
  | (some e, connection) => (.error (.stream e), c.onConnection connection)
  | (none, connection) =>
    match (Request.ofText mode text).send c.dialect.order connection with
    | (outcome, connection) => (outcome, c.onConnection connection)

/-- Receives the occurrences that answer the last request. The deadline is one for each read. -/
def receive (mode : Mode) (deadline : Option Duration) (c : Client) :
    Except Failure (List Occurrence) × Client :=
  match c.connection.setDeadline .reading (Duration.limit? deadline) with
  | (some e, connection) => (.error (.stream e), c.onConnection connection)
  | (none, connection) =>
    match c.dialect.readOccurrences mode { c.reader with connection } with
    | (outcome, reader) => (outcome, { c with reader })

/-- Searches for a text: sends the request and receives its occurrences. -/
def search (mode : Mode) (text : String) (c : Client) :
    Except Failure (List Occurrence) × Client :=
  match c.send mode text c.writeTimeout with
  | (.error e, c) => (.error e, c)
  | (.ok (), c) => c.receive mode c.readTimeout

/-- Searches in the client's own mode. -/
def query (text : String) (c : Client) : Except Failure (List Occurrence) × Client :=
  c.search c.mode text

/-! ## Runs -/

/-- What can be done with a client. -/
inductive Step
  | send (text : String) (mode : Mode) (deadline : Option Duration)
  | receive (mode : Mode) (deadline : Option Duration)
  | search (text : String) (mode : Mode)
  | query (text : String)
  | renew
  | withMode (mode : Mode)
  | withTimeouts (readTimeout writeTimeout : Option Duration)

/-- What a step gives: nothing but that it was done, or occurrences. -/
inductive Outcome
  | done
  | found (occurrences : List Occurrence)
deriving DecidableEq

/-- Takes one step. -/
def step : Step → Client → Except Failure Outcome × Client
  | .send text mode deadline, c => (c.send mode text deadline).map (·.map fun _ => .done) id
  | .receive mode deadline, c => (c.receive mode deadline).map (·.map .found) id
  | .search text mode, c => (c.search mode text).map (·.map .found) id
  | .query text, c => (c.query text).map (·.map .found) id
  | .renew, c => (.ok .done, c.renew)
  | .withMode mode, c => (.ok .done, c.withMode mode)
  | .withTimeouts readTimeout writeTimeout, c =>
    (.ok .done, c.withTimeouts readTimeout writeTimeout)

/-- Takes steps one after the other, also after one that fails. -/
def run : List Step → Client → List (Except Failure Outcome) × Client
  | [], c => ([], c)
  | s :: steps, c =>
    let (outcome, c) := c.step s
    let (outcomes, c) := c.run steps
    (outcome :: outcomes, c)

theorem run_append (s t : List Step) (c : Client) :
    c.run (s ++ t) = ((c.run s).1 ++ ((c.run s).2.run t).1, ((c.run s).2.run t).2) := by
  induction s generalizing c with
  | nil => simp [run]
  | cons a s ih => simp [run, ih]

end Client

end RemoteSearch
