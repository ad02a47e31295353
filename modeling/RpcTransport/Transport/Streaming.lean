import RpcTransport.Transport.Opening
import RpcTransport.Transport.Intake

namespace RpcTransport.Transport

inductive Streaming (M H B : Type) where
  | receiving (point : Intake M H B)
  | reopening (point : Opening)

namespace Streaming

variable {M H B : Type}

/-- The end of the task. The state leaves connected, if it was connected. -/
def finish (shared : Shared H) (target : ConnectionState) :
    Shared H × Step (Streaming M H B) Unit :=
  (shared.moveIf .connected target, .done ())

def afterOpening (shared : Shared H) :
    Step Opening (Except Error (Opened B)) → Shared H × Step (Streaming M H B) Unit
  | .wait point => (shared, .wait (.reopening point))
  | .done (.ok (.stream decoder body)) => (shared, .wait (.receiving (.start decoder body)))
  | .done (.ok .accepted) => finish shared .closed
  | .done (.ok (.fallback _)) => finish shared.trip .disconnected
  | .done (.error _) => finish shared .disconnected

def afterIntake (settings : Settings M) (shared : Shared H) :
    Step (Intake M H B) (Except Error Nat) → Shared H × Step (Streaming M H B) Unit
  | .wait point => (shared, .wait (.receiving point))
  | .done result =>
    if shared.isClosed then (shared, .done ())
    else match result with
      | .ok _ => finish shared .closed
      | .error error =>
        if settings.policy.worthRetrying error then
          afterOpening shared (Opening.attempt settings shared 0)
        else finish shared .disconnected

def resume (settings : Settings M) (shared : Shared H) (handler : Option H) :
    Streaming M H B → Reply B → Option (Shared H × Step (Streaming M H B) Unit)
  | .receiving point, reply =>
    (point.resume settings.codec shared.isClosed handler shared.token reply).map
      fun (token, step) => afterIntake settings { shared with token } step
  | .reopening point, reply =>
    (point.resume settings shared reply).map (afterOpening shared)

def wait : Streaming M H B → Wait M H B
  | .receiving point => point.wait
  | .reopening point => point.wait

end Streaming

end RpcTransport.Transport
