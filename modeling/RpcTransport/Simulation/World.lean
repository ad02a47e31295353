import RpcTransport.Simulation.Script

/-! A transport on a clock of its own, which stands still while anything can go on. -/
namespace RpcTransport.Simulation

open Transport (System Action Event Call TaskId)

/-- A body that is being read. -/
structure Source where
  signals : List (Signal BodyItem)
  /-- More signals may come. -/
  isOpen : Bool := false
  /-- The task that waits for the next signal. -/
  reader : Option TaskId := none

inductive Entry where
  | answer (task : TaskId) (result : Except Error (Http.Response BodyScript))
  | pull (task : TaskId) (body : Nat)
  | reply (task : TaskId) (reply : Transport.Reply Nat)

inductive LegacyCall (M : Type) where
  | connect
  | send (message : M)
  | close

/-- What happened since the last report, in order. -/
structure Log (M : Type) where
  requests : List (Http.Request × Nat) := []
  /-- Handler, message, and whether it was refused. -/
  messages : List (String × M × Bool) := []
  legacy : List (LegacyCall M) := []
  returned : List (TaskId × Except Error Unit × Nat) := []

structure World (M : Type) where
  settings : Transport.Settings M
  script : Script M
  system : System M String Nat := {}
  now : Nat := 0
  /-- What is due, in the order in which it happens. -/
  agenda : List (Nat × Entry) := []
  sources : Array Source := #[]
  /-- The body that a feed fills. -/
  feeds : List (String × Nat) := []
  /-- The number of messages that each handler was given. -/
  counts : List (String × Nat) := []
  log : Log M := {}

namespace World

variable {M : Type}

/-- Behind everything else that is due at the same time. -/
def insertEntry (due : Nat) (entry : Entry) : List (Nat × Entry) → List (Nat × Entry)
  | [] => [(due, entry)]
  | (d, e) :: rest =>
    if due < d then (due, entry) :: (d, e) :: rest else (d, e) :: insertEntry due entry rest

/-- Sets a timer, at the end of which the entry is due. -/
def schedule (world : World M) (delay : Nat) (entry : Entry) : World M :=
  { world with agenda := insertEntry (world.now + Timer.length delay) entry world.agenda }

/-- Before everything else. -/
def goOn (world : World M) (entries : List Entry) : World M :=
  { world with agenda := entries.map (world.now, ·) ++ world.agenda }

/-- The first outcome of a list of outcomes. -/
def outcome : List (Option Error) → Except Error Unit
  | some error :: _ => .error error
  | _ => .ok ()

def noteLegacy (world : World M) (call : LegacyCall M) : World M :=
  { world with log := { world.log with legacy := world.log.legacy ++ [call] } }

/-- Closes the legacy transport. -/
def closeLegacy (world : World M) : World M × Except Error Unit :=
  let close := world.script.legacy.close
  let script :=
    { world.script with legacy := { world.script.legacy with close := close.drop 1 } }
  ({ world with script }.noteLegacy .close, outcome close)

/-- A close within a handler, which is over when the handler goes on. -/
def closeWithin (world : World M) : World M :=
  let (system, events) := world.system.step world.settings (.call .close)
  let world := { world with system }
  match events with
  | [.waits id .legacyClose] =>
    let (world, result) := world.closeLegacy
    { world with system := (world.system.step world.settings (.reply id (.legacy result))).1 }
  | _ => world

/-- Gives a message to a handler. -/
def hand (world : World M) (handler : String) (message : M) : World M × Except Error Unit :=
  let count := (world.counts.lookup handler).getD 0
  let script := (world.script.handlers.lookup handler).getD {}
  let failure := script.failures.lookup count
  let world := { world with
    counts := (handler, count + 1) :: world.counts.filter (·.1 ≠ handler)
    log := { world.log with
      messages := world.log.messages ++ [(handler, message, failure.isSome)] } }
  let world := if script.closeAt.contains count then world.closeWithin else world
  (world, match failure with
    | some error => .error error
    | none => .ok ())

/-- Gives messages to a handler until one is refused. -/
def handAll (world : World M) (handler : String) : List M → World M × Except Error Unit
  | [] => (world, .ok ())
  | message :: rest =>
    match world.hand handler message with
    | (world, .ok ()) => world.handAll handler rest
    | (world, .error error) => (world, .error error)

/-- Connects the legacy transport, which hands over its messages. -/
def connectLegacy (world : World M) (handler : Option String) : World M × Except Error Unit :=
  let legacy := world.script.legacy
  let script := { world.script with legacy := { legacy with connect := legacy.connect.drop 1 } }
  let world := { world with script }.noteLegacy .connect
  match outcome legacy.connect, handler with
  | .ok (), some handler => world.handAll handler legacy.deliver
  | result, _ => (world, result)

def sendLegacy (world : World M) (message : M) : World M × Except Error Unit :=
  let legacy := world.script.legacy
  let script := { world.script with legacy := { legacy with send := legacy.send.drop 1 } }
  ({ world with script }.noteLegacy (.send message), outcome legacy.send)

/-- Logs a request and takes the next answer. -/
def answerTo (world : World M) (task : TaskId) (request : Http.Request) :
    World M × List Entry :=
  let world := { world with
    log := { world.log with requests := world.log.requests ++ [(request, world.now)] } }
  match world.script.answers with
  | [] => (world, [.answer task (.error (.http "no scripted response left"))])
  | answer :: answers =>
    let world := { world with script := { world.script with answers } }
    if answer.delay = 0 then (world, [.answer task answer.result])
    else (world.schedule answer.delay (.answer task answer.result), [])

/-- What an event leads to: the entries with which its task goes on at once. -/
def note (world : World M) : Event M String Nat → World M × List Entry
  | .returned task result =>
    let returned := world.log.returned ++ [(task, result, world.now)]
    ({ world with log := { world.log with returned } }, [])
  | .ended _ => (world, [])
  | .waits task wait =>
    match wait with
    | .answer request => world.answerTo task request
    | .pause delay => (world.schedule delay.milliseconds (.reply task .elapsed), [])
    | .item body => (world, [.pull task body])
    | .verdict handler message =>
      let (world, result) := world.hand handler message
      (world, [.reply task (.verdict result)])
    | .legacyConnect handler =>
      let (world, result) := world.connectLegacy handler
      (world, [.reply task (.legacy result)])
    | .legacySend message =>
      let (world, result) := world.sendLegacy message
      (world, [.reply task (.legacy result)])
    | .legacyClose =>
      let (world, result) := world.closeLegacy
      (world, [.reply task (.legacy result)])

def noteAll (world : World M) : List (Event M String Nat) → World M × List Entry
  | [] => (world, [])
  | event :: events =>
    let (world, entries) := world.note event
    let (world, more) := world.noteAll events
    (world, entries ++ more)

/-- One action of the transport. The task that made it goes on first. -/
def act (world : World M) (action : Action M String Nat) : World M :=
  let (system, events) := world.system.step world.settings action
  let (world, entries) := { world with system }.noteAll events
  world.goOn entries

/-- Opens the body of a response. -/
def openBody (world : World M) : BodyScript → World M × Nat
  | .signals signals =>
    ({ world with sources := world.sources.push { signals } }, world.sources.size)
  | .feed name =>
    let body := world.sources.size
    ({ world with
      sources := world.sources.push { signals := [], isOpen := true }
      feeds := (name, body) :: world.feeds.filter (·.1 ≠ name) }, body)

def setSource (world : World M) (body : Nat) (source : Source) : World M :=
  { world with sources := world.sources.setIfInBounds body source }

/-- Carries out an entry. A task that is gone gets no answer and reads nothing. -/
def carryOut (world : World M) : Entry → World M
  | .reply task reply => world.act (.reply task reply)
  | .answer task result =>
    if (world.system.task? task).isNone then world
    else match result with
      | .error error => world.act (.reply task (.answer (.error error)))
      | .ok response =>
        let (world, body) := world.openBody response.body
        world.act (.reply task (.answer (.ok { response with body })))
  | .pull task body =>
    match world.system.task? task, world.sources[body]? with
    | some _, some source =>
      match source.signals with
      | .wait milliseconds :: signals =>
        (world.setSource body { source with signals }).schedule milliseconds (.pull task body)
      | .item item :: signals =>
        (world.setSource body { source with signals }).act (.reply task (.item (some item)))
      | [] =>
        if source.isOpen then world.setSource body { source with reader := some task }
        else world.act (.reply task (.item none))
    | _, _ => world

/-- Changes the body that a feed fills, and wakes its reader. -/
def feed (world : World M) (name : String) (change : Source → Source) : World M :=
  match world.feeds.lookup name with
  | none => world
  | some body =>
    match world.sources[body]? with
    | none => world
    | some source =>
      let changed := world.setSource body { change source with reader := none }
      match source.reader with
      | some task => changed.schedule 0 (.pull task body)
      | none => changed

/-- Whether a call has returned. -/
def hasReturned (world : World M) (task : TaskId) : Bool :=
  world.log.returned.any (·.1 == task)

/-- Carries out all entries that are due up to a time. `fuel` bounds their
number. -/
def runUntil (limit : Nat) : (fuel : Nat) → World M → World M
  | 0, world => world
  | fuel + 1, world =>
    match world.agenda with
    | [] => world
    | (due, entry) :: agenda =>
      if due ≤ limit then
        runUntil limit fuel ({ world with agenda, now := max world.now due }.carryOut entry)
      else world

/-- Carries out entries until a call has returned. -/
def runUntilReturn (task : TaskId) : (fuel : Nat) → World M → World M
  | 0, world => world
  | fuel + 1, world =>
    if world.hasReturned task then world
    else match world.agenda with
      | [] => world
      | (due, entry) :: agenda =>
        runUntilReturn task fuel ({ world with agenda, now := max world.now due }.carryOut entry)

end World

end RpcTransport.Simulation
