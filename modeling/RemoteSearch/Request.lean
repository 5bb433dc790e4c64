import RemoteSearch.Connection
import RemoteSearch.Mode
import RemoteSearch.Text.Utf8
import RemoteSearch.Wire.Endian

set_option autoImplicit false

/-! # Requests

A request is one frame: the byte of the search mode, the number of bytes of the needle as an
unsigned word, and the needle. `Request.parse` takes a frame off the front of bytes, as a server
does.
-/

namespace RemoteSearch

/-- A search for a needle, in a mode. -/
structure Request where
  mode : Mode
  needle : List UInt8
deriving DecidableEq

namespace Request

/-- The number of bytes before the needle. -/
def headerSize : Nat := 5

/-- The request for a text. -/
def ofText (mode : Mode) (text : String) : Request := ⟨mode, Text.Utf8.encode text.toList⟩

/-- The bytes of a frame whose needle fits. That a frame which is written part by part, the mode,
the length and the needle, comes to these bytes is an assumption about the buffer it is written
into: each part is appended as a whole, and a word in the order that is asked for, as the buffer's
documentation has it. -/
def layout (order : Wire.Endian) (q : Request) : List UInt8 :=
  q.mode.bits :: (order.encode (UInt32.ofNat q.needle.length) ++ q.needle)

/-- The frame of a request. The length of the needle has to fit into a word. -/
def frame (order : Wire.Endian) (q : Request) : Except Failure (List UInt8) :=
  if q.needle.length < UInt32.size then .ok (q.layout order)
  else .error (.protocol (.needleTooLong q.needle.length))

/-- Writes the frame of a request to a connection. -/
def send (order : Wire.Endian) (q : Request) (c : Connection) : Except Failure Unit × Connection :=
  match q.frame order with
  | .error e => (.error e, c)
  | .ok bytes => c.send bytes

/-- The request at the front of the bytes, and the bytes after it. -/
def parse (order : Wire.Endian) : List UInt8 → Option (Request × List UInt8)
  | [] => none
  | mode :: rest =>
    if rest.length < 4 then none
    else
      let size := (order.decode (rest.take 4)).toNat
      let body := rest.drop 4
      if body.length < size then none
      else some (⟨⟨mode⟩, body.take size⟩, body.drop size)

theorem length_layout (order : Wire.Endian) (q : Request) :
    (q.layout order).length = headerSize + q.needle.length := by
  simp [layout, headerSize]
  omega

end Request

end RemoteSearch
