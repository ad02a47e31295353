import RpcTransport.Connection
import RpcTransport.Rpc.Message
import RpcTransport.Json.Conversion
import RpcTransport.Text.Utf8

namespace RpcTransport

/-- Why the text of a body is no message. -/
inductive Malformed where
  | notUtf8 (fault : Text.Utf8.Fault)
  | notJson (error : Json.SyntaxError)
  /-- A document that is neither an object nor an array, in its compact text. -/
  | scalar (text : String)
  | reported (text : String)
  deriving DecidableEq, Repr

/-- Why a text cannot be turned into a message, or a value into a typed one. -/
inductive Unreadable where
  | text (error : Rpc.ReadError)
  | value (mismatch : Json.Mismatch)
  deriving DecidableEq, Repr

inductive Error where
  /-- A connect found the connection in this state. -/
  | alreadyConnected (state : ConnectionState)
  /-- The server does not offer the endpoint. -/
  | endpointMissing (status : Nat)
  | clientError (status : Nat)
  | serverError (status : Nat)
  | unexpectedStatus (status : Nat)
  | unsupportedContentType (value : String)
  | malformed (cause : Malformed)
  | unreadable (cause : Unreadable)
  /-- A request was not delivered or not answered. -/
  | http (text : String)
  /-- A body broke off. -/
  | interrupted (text : String)
  | handler (text : String)
  | legacy (text : String)
  /-- The legacy transport is needed and there is none. -/
  | noLegacy
  | closed
  | invalidConfig (text : String)
  deriving DecidableEq, Repr

inductive ErrorKind where
  | endpointMissing
  | transient
  | malformed
  | protocol
  | state
  | other
  deriving DecidableEq, Repr

def Malformed.message : Malformed → String
  | .notUtf8 fault => s!"body is not valid UTF-8: {fault.message}"
  | .notJson error => s!"invalid JSON document: {error.message}"
  | .scalar text => s!"unexpected JSON in payload: {text}"
  | .reported text => text

def Unreadable.message : Unreadable → String
  | .text (.syntaxError error) => error.message
  | .text .noMessage => "data did not match any variant of untagged enum JsonRpcMessage"
  | .value mismatch => mismatch.message

namespace Error

def message : Error → String
  | .alreadyConnected state => s!"already connected or connecting (state: {state.name})"
  | .endpointMissing status => s!"endpoint not supported by server (status {status})"
  | .clientError status => s!"client error: status {status}"
  | .serverError status => s!"server error: status {status}"
  | .unexpectedStatus status => s!"unexpected status code: {status}"
  | .unsupportedContentType value => s!"unsupported content type: {Text.quoted value}"
  | .malformed cause => s!"malformed message: {cause.message}"
  | .unreadable cause => s!"serialization error: {cause.message}"
  | .http text => s!"http error: {text}"
  | .interrupted text => s!"stream interrupted: {text}"
  | .handler text => s!"handler error: {text}"
  | .legacy text => s!"legacy transport error: {text}"
  | .noLegacy => "fallback required but no legacy transport is configured"
  | .closed => "transport closed"
  | .invalidConfig text => s!"invalid configuration: {text}"

/-- Of the server errors only 502, 503 and 504 are expected to pass. -/
def kind : Error → ErrorKind
  | .endpointMissing _ => .endpointMissing
  | .http _ | .interrupted _ => .transient
  | .serverError status =>
    if 502 ≤ status ∧ status ≤ 504 then .transient else .protocol
  | .malformed _ | .unreadable _ => .malformed
  | .clientError _ | .unexpectedStatus _ | .unsupportedContentType _ => .protocol
  | .alreadyConnected _ => .state
  | .handler _ | .legacy _ | .noLegacy | .closed | .invalidConfig _ => .other

/-- Another attempt may help. -/
def isTransient (error : Error) : Bool :=
  error.kind = .transient

/-- The server does not offer the endpoint, so the legacy transport is to be used. -/
def deniesEndpoint : Error → Bool
  | .endpointMissing _ | .unsupportedContentType _ => true
  | _ => false

/-- The error for a status outside 200 to 299. -/
def ofStatus (status : Nat) : Error :=
  if status = 404 ∨ status = 405 then .endpointMissing status
  else if 400 ≤ status ∧ status ≤ 499 then .clientError status
  else if 500 ≤ status ∧ status ≤ 599 then .serverError status
  else .unexpectedStatus status

end Error

end RpcTransport
