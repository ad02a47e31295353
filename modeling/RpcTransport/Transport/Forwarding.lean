import RpcTransport.Transport.Basic

namespace RpcTransport.Transport

/-- An item is with the legacy transport, and `rest` comes after it. -/
structure Forwarding (M : Type) where
  item : M
  rest : List M
  failure : Option Error

namespace Forwarding

variable {M H B : Type}

def next (failure : Option Error) : List M → Step (Forwarding M) (Except Error Unit)
  | item :: rest => .wait ⟨item, rest, failure⟩
  | [] =>
    .done <| match failure with
      | some error => .error error
      | none => .ok ()

/-- Forwards a message. Without a legacy transport nothing is sent. -/
def start (settings : Settings M) (message : M) : Step (Forwarding M) (Except Error Unit) :=
  if settings.hasLegacy then next none (settings.codec.itemsOf message)
  else .done (.error .noLegacy)

/-- Goes on behind an item. An earlier failure is kept. -/
def resume (point : Forwarding M) (result : Except Error Unit) :
    Step (Forwarding M) (Except Error Unit) :=
  let failure := match point.failure, result with
    | some earlier, _ => some earlier
    | none, .error error => some error
    | none, .ok () => none
  next failure point.rest

def wait (point : Forwarding M) : Wait M H B :=
  .legacySend point.item

end Forwarding

end RpcTransport.Transport
