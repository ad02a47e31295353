import RpcTransport.Transport.System

namespace RpcTransport.Simulation

/-- A body as it arrives: time passes, or there is something to read. -/
inductive Signal (α : Type) where
  | wait (milliseconds : Nat)
  | item (item : α)

namespace Signal

variable {α β : Type}

/-- Without the times. -/
def items (signals : List (Signal α)) : List α :=
  signals.filterMap fun
    | .wait _ => none
    | .item x => some x

/-- The lines of a body that arrives in chunks, each at the time at which the
chunk that completes it arrives. Nothing follows a chunk that failed. -/
def ofChunks (assembler : Body.Assembler) :
    List (Signal (Except String (List UInt8))) → List (Signal BodyItem)
  | [] => assembler.finish.map .item
  | .wait milliseconds :: rest => .wait milliseconds :: ofChunks assembler rest
  | .item (.error text) :: _ => [.item (.error (.interrupted text))]
  | .item (.ok chunk) :: rest =>
    let (items, next) := assembler.push chunk
    items.map .item ++ ofChunks next rest

end Signal

inductive BodyScript where
  | signals (signals : List (Signal BodyItem))
  /-- A body whose items come later, under this name. -/
  | feed (name : String)

/-- The answer to a request, and the time until it is there. -/
structure Answer where
  delay : Nat := 0
  result : Except Error (Http.Response BodyScript)

/-- The outcomes of the calls of each kind, in order. Later calls succeed. -/
structure LegacyScript (M : Type) where
  connect : List (Option Error) := []
  send : List (Option Error) := []
  close : List (Option Error) := []
  /-- The messages that a connect that succeeds hands over. -/
  deliver : List M := []

/-- A handler counts its messages from zero. -/
structure HandlerScript where
  failures : List (Nat × Error) := []
  /-- The messages at which the handler closes the transport. -/
  closeAt : List Nat := []

structure Script (M : Type) where
  answers : List Answer := []
  legacy : LegacyScript M := {}
  handlers : List (String × HandlerScript) := []

end RpcTransport.Simulation
