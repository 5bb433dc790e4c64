import RemoteSearch.Text.Quoted

set_option autoImplicit false

/-! # Failures

Everything that can go wrong is kept by its cause; the wording is one function of the cause. A
failure of the stream under a connection has a kind and a text of its own. Of the other failures
some arise while connecting, some while a response is read, some while text is read as a setting.
-/

namespace RemoteSearch

/-- The two directions of a connection. -/
inductive Direction
  | reading
  | writing
deriving DecidableEq

/-- The direction in words. -/
def Direction.text : Direction → String
  | reading => "reading"
  | writing => "writing"

/-! ## Failures of the stream -/

/-- What went wrong on the stream. -/
inductive StreamError.Kind
  | notFound
  | permissionDenied
  | connectionRefused
  | connectionReset
  | connectionAborted
  | notConnected
  | notADirectory
  | brokenPipe
  | wouldBlock
  | invalidInput
  | invalidData
  | timedOut
  | writeZero
  | interrupted
  | unexpectedEof
  | other
deriving DecidableEq

/-- The standard wording of a kind. -/
def StreamError.Kind.text : StreamError.Kind → String
  | notFound => "entity not found"
  | permissionDenied => "permission denied"
  | connectionRefused => "connection refused"
  | connectionReset => "connection reset"
  | connectionAborted => "connection aborted"
  | notConnected => "not connected"
  | notADirectory => "not a directory"
  | brokenPipe => "broken pipe"
  | wouldBlock => "operation would block"
  | invalidInput => "invalid input parameter"
  | invalidData => "invalid data"
  | timedOut => "timed out"
  | writeZero => "write zero"
  | interrupted => "operation interrupted"
  | unexpectedEof => "unexpected end of file"
  | other => "other error"

/-- A failure of one call on the stream. -/
structure StreamError where
  kind : StreamError.Kind
  text : String
deriving DecidableEq

/-- A failure with the standard wording of its kind. -/
def StreamError.ofKind (kind : StreamError.Kind) : StreamError := ⟨kind, kind.text⟩

/-- True when the call was interrupted and may simply be made again. -/
def StreamError.isInterruption (e : StreamError) : Bool := e.kind = .interrupted

/-- True when the call's deadline ran out, which streams report in either of two ways. -/
def StreamError.isTimeout (e : StreamError) : Bool := e.kind = .wouldBlock || e.kind = .timedOut

/-! ## Failures of a search -/

/-- The fields of a response. -/
inductive Field
  | dataSize
  | data
  | needleLength
  | needle
deriving DecidableEq

/-- The field in words. -/
def Field.text : Field → String
  | dataSize => "data size"
  | data => "data value"
  | needleLength => "needle length"
  | needle => "needle"

/-- How the rules of the wire can be broken. -/
inductive Violation
  | negativeNeedleLength (length : Int32)
  | needleTooLong (size : Nat)
  | other (text : String)
deriving DecidableEq

/-- The violation in words. -/
def Violation.text : Violation → String
  | negativeNeedleLength length => s!"Negative needle length: {length.toInt}"
  | needleTooLong size => s!"Needle of {size} bytes does not fit a 32-bit length"
  | other text => text

/-- How a setting given as text can be wrong. Names are kept as they were compared, trimmed and in
small letters. -/
inductive Misconfiguration
  | unknownEndian (name : String)
  | unknownNetwork (name : String)
  | unknownFlag (name : String)
  | other (text : String)
deriving DecidableEq

/-- The misconfiguration in words. -/
def Misconfiguration.text : Misconfiguration → String
  | unknownEndian name => s!"Unknown byte order: {Text.quoted name} (expected little or big)"
  | unknownNetwork name => s!"Unknown network: {Text.quoted name} (expected tcp or unix)"
  | unknownFlag name => s!"Unknown search mode flag: {Text.quoted name}"
  | other text => text

/-- Why a search, or what leads up to it, fails. -/
inductive Failure
  | stream (cause : StreamError)
  | connect (endpoint : String) (cause : StreamError)
  | timeout (direction : Direction)
  | shortRead (field : Field) (expected got : Nat)
  | fieldTooLarge (field : Field) (size max : Nat)
  | protocol (violation : Violation)
  | config (fault : Misconfiguration)
deriving DecidableEq

namespace Failure

/-- The failure in words. -/
def message : Failure → String
  | stream cause => s!"IO error: {cause.text}"
  | connect endpoint cause => s!"Failed to connect to {endpoint}: {cause.text}"
  | timeout direction => s!"Timed out while {direction.text}"
  | shortRead field expected got =>
    s!"Short read on {field.text}: expected {expected} bytes, got {got}"
  | fieldTooLarge field size max =>
    s!"{field.text} of {size} bytes exceeds limit of {max} bytes"
  | protocol violation => s!"Protocol error: {violation.text}"
  | config fault => s!"Configuration error: {fault.text}"

/-- The failure of the stream behind this one. -/
def cause? : Failure → Option StreamError
  | stream cause => some cause
  | connect _ cause => some cause
  | _ => none

/-- True when a deadline ran out. -/
def isTimeout : Failure → Bool
  | timeout _ => true
  | _ => false

/-- True when the stream ended inside a field. -/
def isShortRead : Failure → Bool
  | shortRead _ _ _ => true
  | _ => false

/-- How a failed read or write is reported: a deadline that ran out by its direction, anything else
as it came. -/
def ofCall (direction : Direction) (e : StreamError) : Failure :=
  if e.isTimeout then .timeout direction else .stream e

theorem ofCall_eq (direction : Direction) (e : StreamError) :
    ofCall direction e =
      if e.kind = .wouldBlock ∨ e.kind = .timedOut then .timeout direction else .stream e := by
  simp [ofCall, StreamError.isTimeout]

end Failure

/-- Outcomes that carry values can be compared. -/
instance decidableEqOutcome {ε α : Type} [DecidableEq ε] [DecidableEq α] :
    DecidableEq (Except ε α)
  | .error e, .error e' => decidable_of_iff (e = e') ⟨congrArg _, Except.error.inj⟩
  | .ok a, .ok a' => decidable_of_iff (a = a') ⟨congrArg _, Except.ok.inj⟩
  | .error _, .ok _ => .isFalse nofun
  | .ok _, .error _ => .isFalse nofun

end RemoteSearch
