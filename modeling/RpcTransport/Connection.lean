/-! The state of a connection. Only a close starts from any state, so no other move leaves the
closed state. -/
namespace RpcTransport

inductive ConnectionState where
  | disconnected
  | connecting
  | connected
  | closed
  deriving DecidableEq, Repr

namespace ConnectionState

def name : ConnectionState → String
  | .disconnected => "disconnected"
  | .connecting => "connecting"
  | .connected => "connected"
  | .closed => "closed"

/-- Moves to `target` if the state is `source`, and otherwise tells the state. -/
def move (current source target : ConnectionState) :
    Except ConnectionState ConnectionState :=
  if current = source then .ok target else .error current

/-- Moves to `target` if the state is `source`, and otherwise stays. -/
def moveIf (current source target : ConnectionState) : ConnectionState :=
  if current = source then target else current

end ConnectionState

end RpcTransport
