import RpcTransport.Body
import RpcTransport.Codec
import RpcTransport.Config
import RpcTransport.Connection
import RpcTransport.Decoder
import RpcTransport.Decoder.Reader
import RpcTransport.Decoder.Run
import RpcTransport.Duration
import RpcTransport.Error
import RpcTransport.Frame
import RpcTransport.Http
import RpcTransport.Json.Basic
import RpcTransport.Json.Conversion
import RpcTransport.Json.Fault
import RpcTransport.Json.Numeral
import RpcTransport.Json.Printer
import RpcTransport.Json.Reader
import RpcTransport.Latch
import RpcTransport.Number.Binary64
import RpcTransport.Number.Shortest
import RpcTransport.Proofs.Alone
import RpcTransport.Proofs.Attempts
import RpcTransport.Proofs.Batches
import RpcTransport.Proofs.Change
import RpcTransport.Proofs.Chunks
import RpcTransport.Proofs.Closing
import RpcTransport.Proofs.Codecs
import RpcTransport.Proofs.Completion
import RpcTransport.Proofs.Connects
import RpcTransport.Proofs.Conversation
import RpcTransport.Proofs.Decoding
import RpcTransport.Proofs.Delivery
import RpcTransport.Proofs.Denial
import RpcTransport.Proofs.Documents
import RpcTransport.Proofs.Encodings
import RpcTransport.Proofs.Envelope
import RpcTransport.Proofs.Failures
import RpcTransport.Proofs.Fallback
import RpcTransport.Proofs.Forwarding
import RpcTransport.Proofs.Frames
import RpcTransport.Proofs.Handing
import RpcTransport.Proofs.History
import RpcTransport.Proofs.Intake
import RpcTransport.Proofs.Json.Grammar
import RpcTransport.Proofs.Json.Numeral
import RpcTransport.Proofs.Json.Printing
import RpcTransport.Proofs.Json.Reflow
import RpcTransport.Proofs.Json.Text
import RpcTransport.Proofs.Kinds
import RpcTransport.Proofs.LastEvent
import RpcTransport.Proofs.Life
import RpcTransport.Proofs.Lifecycle
import RpcTransport.Proofs.Outcomes
import RpcTransport.Proofs.Owners
import RpcTransport.Proofs.Pauses
import RpcTransport.Proofs.Reconnects
import RpcTransport.Proofs.Refusal
import RpcTransport.Proofs.Rendering
import RpcTransport.Proofs.Replies
import RpcTransport.Proofs.Requests
import RpcTransport.Proofs.Resumption
import RpcTransport.Proofs.Retrying
import RpcTransport.Proofs.Separation
import RpcTransport.Proofs.Server
import RpcTransport.Proofs.Sessions
import RpcTransport.Proofs.Standing
import RpcTransport.Proofs.Steps
import RpcTransport.Proofs.Stopping
import RpcTransport.Proofs.Streams
import RpcTransport.Proofs.Tasks
import RpcTransport.Proofs.Text.Lines
import RpcTransport.Proofs.Text.Trim
import RpcTransport.Proofs.Text.Utf8
import RpcTransport.Proofs.Trail
import RpcTransport.Proofs.Turn
import RpcTransport.Resumption
import RpcTransport.Retry
import RpcTransport.Rpc.Message
import RpcTransport.Simulation.Scenario
import RpcTransport.Simulation.Script
import RpcTransport.Simulation.World
import RpcTransport.Text.Affix
import RpcTransport.Text.Blank
import RpcTransport.Text.Combining
import RpcTransport.Text.Lines
import RpcTransport.Text.Quoted
import RpcTransport.Text.Unprintable
import RpcTransport.Text.Utf8
import RpcTransport.Transport.Basic
import RpcTransport.Transport.Connecting
import RpcTransport.Transport.Forwarding
import RpcTransport.Transport.Intake
import RpcTransport.Transport.Opening
import RpcTransport.Transport.Sending
import RpcTransport.Transport.Streaming
import RpcTransport.Transport.System
import RpcTransport.Transport.Task
