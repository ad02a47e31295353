import RpcTransport.Transport.Connecting
import RpcTransport.Transport.Forwarding
import RpcTransport.Transport.Intake

namespace RpcTransport.Transport

inductive Sending (M H B : Type) where
  | connecting (message : M) (point : Connecting)
  | posting (message : M) (request : Http.Request)
  | receiving (message : M) (point : Intake M H B)
  | forwarding (point : Forwarding M)

/-- What a step of a send leaves behind: the shared state, where the send
stands, and a stream that its connect sequence opened. -/
structure Sending.Turn (M H B : Type) where
  shared : Shared H
  step : Step (Sending M H B) (Except Error Unit)
  stream : Option (Decoder × B) := none

namespace Sending

variable {M H B : Type}

def forward (settings : Settings M) (message : M) :
    Step (Sending M H B) (Except Error Unit) :=
  (Forwarding.start settings message).mapPoint .forwarding

def post (settings : Settings M) (message : M) : Step (Sending M H B) (Except Error Unit) :=
  match settings.codec.encode message with
  | .ok body => .wait (.posting message (settings.postRequest body))
  | .error error => .done (.error error)

/-- Goes on behind the connect sequence. -/
def afterConnecting (settings : Settings M) (message : M) :
    Shared H × Step Connecting (Connected B) → Turn M H B
  | (shared, .wait point) => ⟨shared, .wait (.connecting message point), none⟩
  | (shared, .done connected) =>
    let step : Step (Sending M H B) (Except Error Unit) :=
      match connected.result with
      | .error error => .done (.error error)
      | .ok () =>
        if shared.latch.tripped then forward settings message
        else if shared.isClosed then .done (.ok ())
        else post settings message
    ⟨shared, step, connected.stream⟩

def start (settings : Settings M) (shared : Shared H) (handler : Option H) (message : M) :
    Turn M H B :=
  if shared.latch.tripped then ⟨shared, forward settings message, none⟩
  else match shared.state with
    | .closed => ⟨shared, .done (.ok ()), none⟩
    | .disconnected =>
      if settings.config.connectOnSend then
        let shared := { shared with state := .connecting }
        afterConnecting settings message (Connecting.start settings shared handler)
      else ⟨shared, post settings message, none⟩
    | _ => ⟨shared, post settings message, none⟩

/-- Goes on behind a step of taking in the reply. -/
def afterIntake (settings : Settings M) (shared : Shared H) (message : M) :
    Step (Intake M H B) (Except Error Nat) → Turn M H B
  | .wait point => ⟨shared, .wait (.receiving message point), none⟩
  | .done (.ok _) => ⟨shared, .done (.ok ()), none⟩
  | .done (.error error) =>
    if error.deniesEndpoint then ⟨shared.trip, forward settings message, none⟩
    else ⟨shared, .done (.error error), none⟩

/-- Goes on with the answer to the posted message. A request that failed is
never a reason to use the legacy transport. -/
def afterPosting (settings : Settings M) (shared : Shared H) (message : M)
    (answer : Except Error (Http.Response B)) : Turn M H B :=
  match answer with
  | .error error => ⟨shared, .done (.error error), none⟩
  | .ok response =>
    match Decoder.select response with
    | .ok (some decoder) =>
      afterIntake settings shared message (.wait (.start decoder response.body))
    | .ok none => afterIntake settings shared message (.done (.ok 0))
    | .error error => afterIntake settings shared message (.done (.error error))

def resume (settings : Settings M) (shared : Shared H) (handler : Option H) :
    Sending M H B → Reply B → Option (Turn M H B)
  | .connecting message point, reply =>
    (point.resume settings shared reply).map (afterConnecting settings message)
  | .posting message _, .answer answer => some (afterPosting settings shared message answer)
  | .receiving message point, reply =>
    (point.resume settings.codec false handler shared.token reply).map fun (token, step) =>
      afterIntake settings { shared with token } message step
  | .forwarding point, .legacy result =>
    some ⟨shared, (point.resume result).mapPoint .forwarding, none⟩
  | _, _ => none

def wait (handler : Option H) : Sending M H B → Wait M H B
  | .connecting _ point => point.wait handler
  | .posting _ request => .answer request
  | .receiving _ point => point.wait
  | .forwarding point => point.wait

end Sending

end RpcTransport.Transport
