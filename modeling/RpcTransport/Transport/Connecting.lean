import RpcTransport.Transport.Opening

/-! The connect sequence. Whoever starts it has moved the state to connecting before. -/
namespace RpcTransport.Transport

inductive Connecting where
  | opening (point : Opening)
  | legacy

/-- The result of a connect sequence, and the stream that is to be read. -/
structure Connected (B : Type) where
  result : Except Error Unit
  stream : Option (Decoder × B) := none

namespace Connecting

variable {M H B : Type}

def afterOpening (settings : Settings M) (shared : Shared H) :
    Step Opening (Except Error (Opened B)) → Shared H × Step Connecting (Connected B)
  | .wait point => (shared, .wait (.opening point))
  | .done (.ok (.stream decoder body)) =>
    match shared.state.move .connecting .connected with
    | .ok state => ({ shared with state }, .done ⟨.ok (), some (decoder, body)⟩)
    | .error _ => (shared, .done ⟨.ok (), none⟩)
  | .done (.ok .accepted) => (shared.leaveConnecting true, .done ⟨.ok (), none⟩)
  | .done (.ok (.fallback _)) =>
    let shared := shared.trip
    if settings.hasLegacy then (shared, .wait .legacy)
    else (shared.leaveConnecting false, .done ⟨.error .noLegacy, none⟩)
  | .done (.error error) => (shared.leaveConnecting false, .done ⟨.error error, none⟩)

def start (settings : Settings M) (shared : Shared H) (handler : Option H) :
    Shared H × Step Connecting (Connected B) :=
  let shared := { shared with handler }
  afterOpening settings shared (Opening.attempt settings shared 0)

def resume (settings : Settings M) (shared : Shared H) :
    Connecting → Reply B → Option (Shared H × Step Connecting (Connected B))
  | .opening point, reply =>
    (point.resume settings shared reply).map (afterOpening settings shared)
  | .legacy, .legacy result =>
    some (shared.leaveConnecting result.isOk, .done ⟨result, none⟩)
  | _, _ => none

def wait (handler : Option H) : Connecting → Wait M H B
  | .opening point => point.wait
  | .legacy => .legacyConnect handler

end Connecting

end RpcTransport.Transport
