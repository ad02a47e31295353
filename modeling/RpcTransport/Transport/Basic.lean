import RpcTransport.Body
import RpcTransport.Codec
import RpcTransport.Config
import RpcTransport.Decoder
import RpcTransport.Latch
import RpcTransport.Resumption

/-! The parts of a transport. What its calls share changes only between two waits of a call. -/
namespace RpcTransport.Transport

/-- What is fixed when a transport is built. -/
structure Settings (M : Type) where
  config : Config
  codec : Codec M
  policy : RetryPolicy
  hasLegacy : Bool

/-- The choices made before a transport is built. -/
structure Builder (M : Type) where
  config : Config
  codec : Codec M
  hasEngine : Bool := false
  hasLegacy : Bool := false
  policy : Option RetryPolicy := none

namespace Builder

variable {M N : Type}

/-- Replaces the codec. A legacy transport chosen before is for other messages
and is dropped. -/
def withCodec (builder : Builder M) (codec : Codec N) : Builder N :=
  { builder with codec, hasLegacy := false }

def withEngine (builder : Builder M) : Builder M :=
  { builder with hasEngine := true }

def withLegacy (builder : Builder M) : Builder M :=
  { builder with hasLegacy := true }

/-- A policy chosen here goes before the one of the configuration. -/
def withRetryPolicy (builder : Builder M) (policy : RetryPolicy) : Builder M :=
  { builder with policy := some policy }

def build (builder : Builder M) : Except Error (Settings M) := do
  builder.config.validate
  if ¬builder.hasEngine then throw (.invalidConfig "no HTTP engine configured")
  return {
    config := builder.config
    codec := builder.codec
    policy := builder.policy.getD builder.config.retryPolicy
    hasLegacy := builder.hasLegacy }

end Builder

/-- What the calls and the stream task of a transport share. -/
structure Shared (H : Type) where
  state : ConnectionState := .disconnected
  latch : Latch := {}
  token : ResumptionToken := none
  /-- The handler of the last connect sequence. Without one replies are dropped. -/
  handler : Option H := none
  /-- The last stream task that was started, whether it still runs or not. -/
  streamTask : Option Nat := none
  deriving DecidableEq, Repr

namespace Shared

variable {H : Type}

def isClosed (shared : Shared H) : Bool :=
  shared.state = .closed

def trip (shared : Shared H) : Shared H :=
  { shared with latch := shared.latch.trip.2 }

/-- Moves the state if it is `source`. -/
def moveIf (shared : Shared H) (source target : ConnectionState) : Shared H :=
  { shared with state := shared.state.moveIf source target }

/-- Ends a connect sequence, unless the transport was closed meanwhile. -/
def leaveConnecting (shared : Shared H) (connected : Bool) : Shared H :=
  shared.moveIf .connecting (if connected then .connected else .disconnected)

end Shared

/-- What a call can wait for. -/
inductive Wait (M H B : Type) where
  /-- The answer to a request. -/
  | answer (request : Http.Request)
  | pause (delay : Duration)
  /-- The next item of a body. -/
  | item (body : B)
  /-- The verdict of a handler on a message. -/
  | verdict (handler : H) (message : M)
  | legacyConnect (handler : Option H)
  | legacySend (message : M)
  | legacyClose
  deriving DecidableEq

/-- What ends a wait. -/
inductive Reply (B : Type) where
  | answer (result : Except Error (Http.Response B))
  | elapsed
  /-- An item, or the end of the body. -/
  | item (item : Option BodyItem)
  | verdict (result : Except Error Unit)
  | legacy (result : Except Error Unit)

/-- Either the point at which something waits, or its result. -/
inductive Step (P R : Type) where
  | wait (point : P)
  | done (result : R)

namespace Step

variable {P Q R S : Type}

def mapPoint (f : P → Q) : Step P R → Step Q R
  | .wait point => .wait (f point)
  | .done result => .done result

def mapResult (f : R → S) : Step P R → Step P S
  | .wait point => .wait point
  | .done result => .done (f result)

end Step

namespace Settings

variable {M : Type}

/-- A request to the endpoint with the headers that all requests have. -/
def request (settings : Settings M) (method : Http.Method) : Http.Request :=
  (Http.Request.withHeader { method, url := settings.config.url }
    "Accept" "application/json, text/event-stream").withHeaders settings.config.headers

/-- The request that opens the stream of the server, or resumes it. -/
def openRequest (settings : Settings M) (token : ResumptionToken) : Http.Request :=
  match token with
  | some id => (settings.request .get).withHeader "Last-Event-ID" id
  | none => settings.request .get

/-- The request that delivers an encoded message. -/
def postRequest (settings : Settings M) (body : String) : Http.Request :=
  ((settings.request .post).withHeader "Content-Type" "application/json").withBody body

end Settings

end RpcTransport.Transport
