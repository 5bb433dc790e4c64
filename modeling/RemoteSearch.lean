import RemoteSearch.Client
import RemoteSearch.Client.Shared
import RemoteSearch.Connection
import RemoteSearch.Console
import RemoteSearch.Console.Conversation
import RemoteSearch.Console.Options
import RemoteSearch.Duration
import RemoteSearch.Endpoint
import RemoteSearch.Endpoint.Path
import RemoteSearch.Failure
import RemoteSearch.Log
import RemoteSearch.Log.Filter
import RemoteSearch.Main
import RemoteSearch.Mode
import RemoteSearch.Mode.Text
import RemoteSearch.Proofs.Reading.Advance
import RemoteSearch.Proofs.Reading.Flow
import RemoteSearch.Proofs.Reading.Lockstep
import RemoteSearch.Reader
import RemoteSearch.Request
import RemoteSearch.Response
import RemoteSearch.Response.Layout
import RemoteSearch.Server
import RemoteSearch.Settings
import RemoteSearch.Text.Blank
import RemoteSearch.Text.Characters
import RemoteSearch.Text.Numeral
import RemoteSearch.Text.Pattern
import RemoteSearch.Text.Pattern.Manner
import RemoteSearch.Text.Pattern.Sign
import RemoteSearch.Text.Pattern.State
import RemoteSearch.Text.Pieces
import RemoteSearch.Text.Plain
import RemoteSearch.Text.Quoted
import RemoteSearch.Text.Utf8
import RemoteSearch.Wire.Endian
import RemoteSearch.Wire.WideText
import RemoteSearch.Proofs.Response.Parallel
import RemoteSearch.Proofs.Response.Flow
import RemoteSearch.Proofs.Response.Grammar
import RemoteSearch.Proofs.Response.Answer
import RemoteSearch.Proofs.Connection.Sides
import RemoteSearch.Proofs.Client.Receiving
import RemoteSearch.Proofs.Response.Continuation
import RemoteSearch.Proofs.Client.Outcome
import RemoteSearch.Proofs.Request.Framing
import RemoteSearch.Proofs.Request.Sending
import RemoteSearch.Proofs.Client.Session
import RemoteSearch.Proofs.Response.Refusal
import RemoteSearch.Proofs.Response.Segmentation
import RemoteSearch.Proofs.Response.Truncation
import RemoteSearch.Proofs.Response.Pieces
import RemoteSearch.Proofs.Request.Transcript
import RemoteSearch.Proofs.Client.Halves
import RemoteSearch.Proofs.Client.Stages
import RemoteSearch.Proofs.Client.Sharing
import RemoteSearch.Proofs.Client.Deadlines
import RemoteSearch.Proofs.Client.Renewal
import RemoteSearch.Proofs.Text.Utf8
import RemoteSearch.Proofs.Console.Answers
import RemoteSearch.Proofs.Console.Output
import RemoteSearch.Proofs.Reading.Effort
import RemoteSearch.Proofs.Reading.Ends
import RemoteSearch.Proofs.Reading.Fields
import RemoteSearch.Proofs.Response.Effort
import RemoteSearch.Proofs.Response.Limit
import RemoteSearch.Proofs.Response.Orders
import RemoteSearch.Proofs.Text.Numeral
import RemoteSearch.Proofs.Text.Pieces
import RemoteSearch.Proofs.Mode.Grammar
import RemoteSearch.Proofs.Mode.Shown
import RemoteSearch.Proofs.Wire.WideText
import RemoteSearch.Proofs.Response.Needles
import RemoteSearch.Proofs.Client.Settings
