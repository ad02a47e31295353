import RpcTransport.Transport.Task

/-! A transport in use. Which action comes next is left open, so a run is any list of actions. -/
namespace RpcTransport.Transport

abbrev TaskId := Nat

structure System (M H B : Type) where
  shared : Shared H := {}
  /-- The tasks that wait, each under its number. -/
  tasks : List (TaskId × Task M H B) := []
  /-- The number of the next task. -/
  next : TaskId := 0

inductive Action (M H B : Type) where
  | call (call : Call M H)
  /-- A reply that its task does not wait for changes nothing. -/
  | reply (task : TaskId) (reply : Reply B)

inductive Event (M H B : Type) where
  | waits (task : TaskId) (wait : Wait M H B)
  | returned (task : TaskId) (result : Except Error Unit)
  /-- A stream task is over. -/
  | ended (task : TaskId)

namespace System

variable {M H B : Type}

def task? (system : System M H B) (id : TaskId) : Option (Task M H B) :=
  system.tasks.lookup id

/-- Forgets a task, so that no reply reaches it any more. -/
def cancel (system : System M H B) (id : TaskId) : System M H B :=
  { system with tasks := system.tasks.filter (·.1 ≠ id) }

/-- Stops the last stream task that was started, as dropping a transport does. -/
def abandon (system : System M H B) : System M H B :=
  match system.shared.streamTask with
  | some id => system.cancel id
  | none => system

def add (system : System M H B) (id : TaskId) (task : Task M H B) :
    System M H B × List (Event M H B) :=
  ({ system with tasks := system.tasks ++ [(id, task)] }, [.waits id task.wait])

/-- Starts the task that reads a stream. It takes the place of an earlier one. -/
def spawn (system : System M H B) (handler : Option H) (decoder : Decoder) (body : B) :
    System M H B × List (Event M H B) :=
  let id := system.next
  let system := system.abandon
  let shared := { system.shared with streamTask := some id }
  { system with shared, next := id + 1 }.add id
    (.streaming handler (.receiving (.start decoder body)))

/-- Puts the outcome of a step in place of the task that made it. -/
def settle (system : System M H B) (id : TaskId) (turn : Turn M H B) :
    System M H B × List (Event M H B) :=
  let system := { system.cancel id with shared := turn.shared }
  let (system, events) := match turn.step with
    | .wait task => system.add id task
    | .done (some result) => (system, [.returned id result])
    | .done none => (system, [.ended id])
  match turn.stream with
  | some (handler, decoder, body) =>
    let (system, more) := system.spawn handler decoder body
    (system, events ++ more)
  | none => (system, events)

/-- One action. -/
def step (settings : Settings M) (system : System M H B) :
    Action M H B → System M H B × List (Event M H B)
  | .call call =>
    let id := system.next
    { system with next := id + 1 }.settle id (call.start settings system.shared)
  | .reply id reply =>
    match (system.task? id).bind fun task => task.resume settings system.shared reply with
    | some turn => system.settle id turn
    | none => (system, [])

/-- A list of actions, and all events in order. -/
def run (settings : Settings M) (system : System M H B) :
    List (Action M H B) → System M H B × List (Event M H B)
  | [] => (system, [])
  | action :: actions =>
    let (system, events) := system.step settings action
    let (system, more) := system.run settings actions
    (system, events ++ more)

/-- A summary for a log. -/
def summary (settings : Settings M) (system : System M H B) : String :=
  let state := match system.shared.state with
    | .disconnected => "Disconnected"
    | .connecting => "Connecting"
    | .connected => "Connected"
    | .closed => "Closed"
  let token := match system.shared.token with
    | some id => s!"Some({Text.quoted id})"
    | none => "None"
  s!"StreamableHttpTransport \x7b url: {Text.quoted settings.config.url}, state: {state}, " ++
    s!"fallback: {system.shared.latch.tripped}, last_event_id: {token} \x7d"

end System

end RpcTransport.Transport
