import RpcTransport.Transport.Basic

/-! Opening the stream of the server, with retries. Each attempt looks at the state and at the
latch before it sends its request. -/
namespace RpcTransport.Transport

/-- What opening leads to, if it does not fail. -/
inductive Opened (B : Type) where
  | stream (decoder : Decoder) (body : B)
  /-- The server has nothing to stream. -/
  | accepted
  /-- The endpoint cannot be used. -/
  | fallback (reason : Error)

/-- Where opening waits. The number counts the retries before the attempt. -/
inductive Opening where
  | requesting (retry : Nat) (request : Http.Request)
  | pausing (retry : Nat) (delay : Duration)

namespace Opening

variable {M H B : Type}

/-- What the answer to the request means. -/
def judge (answer : Except Error (Http.Response B)) : Except Error (Opened B) :=
  match answer with
  | .error error => .error error
  | .ok response =>
    match Decoder.select response with
    | .ok (some decoder) => .ok (.stream decoder response.body)
    | .ok none => .ok .accepted
    | .error error => if error.deniesEndpoint then .ok (.fallback error) else .error error

/-- Ends an attempt: with the result, or with a pause before the next one. -/
def settle (settings : Settings M) (retry : Nat) (result : Except Error (Opened B)) :
    Step Opening (Except Error (Opened B)) :=
  match result with
  | .ok opened => .done (.ok opened)
  | .error error =>
    match settings.policy.afterFailure retry error with
    | some delay => .wait (.pausing retry delay)
    | none => .done (.error error)

/-- Starts an attempt. -/
def attempt (settings : Settings M) (shared : Shared H) (retry : Nat) :
    Step Opening (Except Error (Opened B)) :=
  if shared.isClosed then settle settings retry (.error .closed)
  else if shared.latch.tripped then .done (.ok (.fallback .noLegacy))
  else .wait (.requesting retry (settings.openRequest shared.token))

def resume (settings : Settings M) (shared : Shared H) :
    Opening → Reply B → Option (Step Opening (Except Error (Opened B)))
  | .requesting retry _, .answer answer => some (settle settings retry (judge answer))
  | .pausing retry _, .elapsed => some (attempt settings shared (retry + 1))
  | _, _ => none

def wait : Opening → Wait M H B
  | .requesting _ request => .answer request
  | .pausing _ delay => .pause delay

end Opening

end RpcTransport.Transport
