import RpcTransport.Transport.Sending
import RpcTransport.Transport.Streaming

namespace RpcTransport.Transport

inductive Call (M H : Type) where
  | connect (handler : H)
  /-- The reply goes to the handler registered when the call is made. -/
  | send (message : M)
  | sendWith (handler : H) (message : M)
  | close

inductive Task (M H B : Type) where
  | connecting (handler : H) (point : Connecting)
  /-- A connect while the legacy transport is in use. -/
  | legacyConnecting (handler : H)
  | sending (handler : Option H) (point : Sending M H B)
  /-- A close that waits for the legacy transport. -/
  | closing
  | streaming (handler : Option H) (point : Streaming M H B)

/-- What a step of a task leaves behind. A stream task has no result; a stream
that was opened is to be read by a new task. -/
structure Turn (M H B : Type) where
  shared : Shared H
  step : Step (Task M H B) (Option (Except Error Unit))
  stream : Option (Option H × Decoder × B) := none

namespace Turn

variable {M H B : Type}

def ofConnecting (handler : H) : Shared H × Step Connecting (Connected B) → Turn M H B
  | (shared, .wait point) => ⟨shared, .wait (.connecting handler point), none⟩
  | (shared, .done connected) =>
    ⟨shared, .done (some connected.result), connected.stream.map (some handler, ·)⟩

def ofSending (handler : Option H) (turn : Sending.Turn M H B) : Turn M H B :=
  ⟨turn.shared, (turn.step.mapPoint (.sending handler)).mapResult some,
    turn.stream.map (handler, ·)⟩

def ofStreaming (handler : Option H) : Shared H × Step (Streaming M H B) Unit → Turn M H B
  | (shared, step) =>
    ⟨shared, (step.mapPoint (.streaming handler)).mapResult fun _ => none, none⟩

def returned (shared : Shared H) (result : Except Error Unit) : Turn M H B :=
  ⟨shared, .done (some result), none⟩

end Turn

namespace Call

variable {M H B : Type}

def startConnect (settings : Settings M) (shared : Shared H) (handler : H) : Turn M H B :=
  if shared.latch.tripped then
    if settings.hasLegacy then ⟨shared, .wait (.legacyConnecting handler), none⟩
    else .returned shared (.error .noLegacy)
  else match shared.state.move .disconnected .connecting with
    | .ok state =>
      .ofConnecting handler (Connecting.start settings { shared with state } (some handler))
    | .error state => .returned shared (.error (.alreadyConnected state))

def startClose (settings : Settings M) (shared : Shared H) : Turn M H B :=
  let shared := { shared with state := .closed }
  if shared.latch.tripped ∧ settings.hasLegacy then ⟨shared, .wait .closing, none⟩
  else .returned shared (.ok ())

/-- The first step of a call. -/
def start (settings : Settings M) (shared : Shared H) : Call M H → Turn M H B
  | .connect handler => startConnect settings shared handler
  | .send message =>
    .ofSending shared.handler (Sending.start settings shared shared.handler message)
  | .sendWith handler message =>
    .ofSending (some handler) (Sending.start settings shared (some handler) message)
  | .close => startClose settings shared

end Call

namespace Task

variable {M H B : Type}

/-- The step from a wait to the next one, if the reply is one to that wait. -/
def resume (settings : Settings M) (shared : Shared H) :
    Task M H B → Reply B → Option (Turn M H B)
  | .connecting handler point, reply =>
    (point.resume settings shared reply).map (.ofConnecting handler)
  | .legacyConnecting _, .legacy result => some (.returned shared result)
  | .sending handler point, reply =>
    (point.resume settings shared handler reply).map (.ofSending handler)
  | .closing, .legacy result => some (.returned shared result)
  | .streaming handler point, reply =>
    (point.resume settings shared handler reply).map (.ofStreaming handler)
  | _, _ => none

def wait : Task M H B → Wait M H B
  | .connecting handler point => point.wait (some handler)
  | .legacyConnecting handler => .legacyConnect (some handler)
  | .sending handler point => point.wait handler
  | .closing => .legacyClose
  | .streaming _ point => point.wait

end Task

end RpcTransport.Transport
