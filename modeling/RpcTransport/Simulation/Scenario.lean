import RpcTransport.Simulation.World

namespace RpcTransport.Simulation

open Transport (Call TaskId)

inductive Command (M : Type) where
  | call (label : Option String) (call : Call M String)
  | wait (milliseconds : Nat)
  | feed (name : String) (signals : List (Signal BodyItem))
  | endFeed (name : String)
  | drop
  /-- Only asks for the report. -/
  | look

/-- What can be seen of a transport that has not been dropped. -/
structure View where
  state : ConnectionState
  fallback : Bool
  token : ResumptionToken
  summary : String

structure Report (M : Type) where
  /-- The result of a call in the foreground. -/
  result : Option (Except Error Unit)
  now : Nat
  view : Option View
  log : Log M
  /-- Label, result and time of each call in the background that returned. -/
  completed : List (String × Except Error Unit × Nat)

structure Scenario (M : Type) where
  settings : Transport.Settings M
  script : Script M
  commands : List (Command M)

namespace Scenario

variable {M : Type}

def total (sizes : List Nat) : Nat :=
  sizes.foldr (· + ·) 0

/-- The size of a body, which bounds the messages in it. -/
def sizeOfSignals (signals : List (Signal BodyItem)) : Nat :=
  total (signals.map fun
    | .item (.ok line) => line.length + 4
    | _ => 4)

def sizeOfAnswer (answer : Answer) : Nat :=
  match answer.result with
  | .ok { body := .signals signals, .. } => sizeOfSignals signals + 4
  | _ => 4

def sizeOfCommand (settings : Transport.Settings M) : Command M → Nat
  | .call _ (.send message) => (settings.codec.itemsOf message).length + 4
  | .call _ (.sendWith _ message) => (settings.codec.itemsOf message).length + 4
  | .feed _ signals => sizeOfSignals signals + 4
  | _ => 4

/-- More entries than the scenario can lead to: for each call and each body a
loop of attempts, and a few for each item, message and character. -/
def effort (scenario : Scenario M) : Nat :=
  let answers := scenario.script.answers
  let commands := scenario.commands
  let loops := answers.length + commands.length + 2
  let attempts := scenario.settings.policy.maxRetries.toNat + 2
  let size :=
    total (answers.map sizeOfAnswer) + total (commands.map (sizeOfCommand scenario.settings))
  4 * (loops * attempts + size + 4)

/-- The simulation between two commands. -/
structure State (M : Type) where
  world : World M
  labels : List (TaskId × String) := []
  dropped : Bool := false

/-- The report after a command, and the simulation with an empty log. -/
def report (state : State M) (foreground : Option TaskId) : Report M × State M :=
  let world := state.world
  let shared := world.system.shared
  let completed := world.log.returned.filterMap fun (task, outcome) =>
    (state.labels.lookup task).map fun label => (label, outcome)
  let view : View := {
    state := shared.state
    fallback := shared.latch.tripped
    token := shared.token
    summary := world.system.summary world.settings }
  let result := foreground.bind fun task => (world.log.returned.lookup task).map (·.1)
  ({ result, now := world.now, view := if state.dropped then none else some view
     log := world.log, completed },
   { state with world := { world with log := {} } })

/-- Carries out a command. Yields the call whose result is awaited. -/
def perform (fuel : Nat) (state : State M) : Command M → State M × Option TaskId
  | .call label call =>
    if state.dropped then (state, none)
    else
      let task := state.world.system.next
      let world := state.world.act (.call call)
      match label with
      | some label => ({ state with world, labels := (task, label) :: state.labels }, none)
      | none => ({ state with world := world.runUntilReturn task fuel }, some task)
  | .wait milliseconds =>
    let limit := state.world.now + Timer.length milliseconds
    ({ state with world := { state.world.runUntil limit fuel with now := limit } }, none)
  | .feed name signals =>
    let world := state.world.feed name fun source =>
      if source.isOpen then { source with signals := source.signals ++ signals } else source
    ({ state with world }, none)
  | .endFeed name =>
    ({ state with world := state.world.feed name ({ · with isOpen := false }) }, none)
  | .drop =>
    let world := { state.world with system := state.world.system.abandon }
    ({ state with world, dropped := true }, none)
  | .look => (state, none)

def runFrom (fuel : Nat) (state : State M) : List (Command M) → List (Report M)
  | [] => []
  | command :: commands =>
    let (state, foreground) := perform fuel state command
    let world := state.world.runUntil state.world.now fuel
    let (entry, state) := report { state with world } foreground
    entry :: runFrom fuel state commands

def run (scenario : Scenario M) : List (Report M) :=
  runFrom scenario.effort
    { world := { settings := scenario.settings, script := scenario.script } }
    scenario.commands

end Scenario

end RpcTransport.Simulation
