import RpcTransport.Http
import RpcTransport.Error

namespace RpcTransport

inductive Decoder where
  /-- One document: an object or an array of messages. -/
  | singleDocument
  /-- One message on each line. -/
  | jsonSequence
  /-- Frames of an event stream, each with one document. -/
  | eventStream
  deriving DecidableEq, Repr

namespace Decoder

def ofContentType? (value : String) : Option Decoder :=
  if Text.occursIn "application/json-seq" value then some .jsonSequence
  else if Text.occursIn "text/event-stream" value then some .eventStream
  else if Text.occursIn "application/json" value then some .singleDocument
  else none

/-- The decoder for a response. Status 202 has no body to decode; an absent
content type counts as an empty one, which names no form. -/
def select {β : Type} (response : Http.Response β) : Except Error (Option Decoder) :=
  if response.status = 202 then .ok none
  else if ¬response.isSuccess then .error (.ofStatus response.status)
  else
    let contentType := response.contentType?.getD ""
    match ofContentType? contentType with
    | some decoder => .ok (some decoder)
    | none => .error (.unsupportedContentType contentType)

end Decoder

end RpcTransport
