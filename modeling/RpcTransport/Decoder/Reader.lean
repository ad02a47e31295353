import RpcTransport.Decoder
import RpcTransport.Body
import RpcTransport.Codec
import RpcTransport.Frame

/-! Decoding a body item by item. A reader neither calls the handler nor keeps the token. -/
namespace RpcTransport.Decoder

inductive Reader where
  /-- All lines so far, each with a line feed. -/
  | document (text : String)
  | sequence
  | events (draft : Frame.Draft)
  deriving DecidableEq, Repr

inductive Progress (M : Type) where
  | more (next : Reader)
  /-- Hand over the messages, then record the id, then go on or end. -/
  | messages (messages : List M) (id : Option String) (next : Option Reader)
  | finished (result : Except Error Unit)

namespace Reader

/-- A reader at the start of a body. -/
def start : Decoder → Reader
  | .singleDocument => .document ""
  | .jsonSequence => .sequence
  | .eventStream => .events .empty

/-- The text of a record: its line without the separators that may precede it. -/
def record (line : String) : String :=
  let separator : Char := '\x1e'
  Text.trim (.ofList ((Text.trim line).toList.dropWhile (· == separator)))

variable {M : Type}

/-- Goes on without messages. -/
def skip : Option Reader → Progress M
  | some next => .more next
  | none => .finished (.ok ())

/-- What a frame leads to. Only message frames count, and their data is decoded
as a whole. -/
def ofFrame (codec : Codec M) (frame : Option Frame) (next : Option Reader) : Progress M :=
  match frame with
  | none => skip next
  | some frame =>
    if frame.isMessage then
      match codec.readDocument frame.data with
      | .ok messages => .messages messages frame.resumptionId next
      | .error error => .finished (.error error)
    else skip next

/-- Takes an item, or the end of the body. A body is given up when `stopped`
holds, but only where the reader asks for it. A sequence goes on behind lines
that are no messages. -/
def accept (codec : Codec M) (stopped : Bool) (reader : Reader) (item : Option BodyItem) :
    Progress M :=
  match reader, item with
  | .document text, some (.ok line) => .more (.document (text ++ line ++ "\n"))
  | .document _, some (.error error) => .finished (.error error)
  | .document text, none =>
    if stopped then .finished (.ok ())
    else match codec.readDocument text with
      | .ok messages => .messages messages none none
      | .error error => .finished (.error error)
  | .sequence, some (.ok line) =>
    if stopped then .finished (.ok ())
    else if record line = "" then .more .sequence
    else match codec.decode (record line) with
      | .ok message => .messages [message] none (some .sequence)
      | .error _ => .more .sequence
  | .sequence, some (.error error) =>
    if error.kind = .malformed then .more .sequence else .finished (.error error)
  | .sequence, none => .finished (.ok ())
  | .events draft, some (.ok line) =>
    if stopped then .finished (.ok ())
    else
      let (frame, next) := draft.add line
      ofFrame codec frame (some (.events next))
  | .events _, some (.error error) => .finished (.error error)
  | .events draft, none => ofFrame codec draft.close.1 none

/-- Whether the reader asks if it is to stop: a document once at its end, the
other forms at each line. -/
def asks : Reader → Option BodyItem → Bool
  | .document _, item => item.isNone
  | _, some (.ok _) => true
  | _, _ => false

end Reader

end RpcTransport.Decoder
