import RpcTransport.Proofs.Change
import RpcTransport.Proofs.Conversation
import RpcTransport.Proofs.Requests
import RpcTransport.Proofs.Trail

/-! To whom messages are given. A task has one owner from its first turn to its last one. -/
namespace RpcTransport.Transport

variable {M H B : Type}

/-- The handler that a call is for, given the one that is registered. -/
def Call.owner (registered : Option H) : Call M H → Option H
  | .connect handler | .sendWith handler _ => some handler
  | .send _ | .close => registered

theorem Call.owner_of_message {call : Call M H} {message : M} (h : call.message? = some message)
    (shared : Shared H) : call.replyHandler shared = call.owner shared.handler := by
  cases call <;> first | rfl | cases h

/-- The handler that is registered behind a turn. A call whose first turn begins a connect
sequence registers its own. -/
def Record.registers (registered : Option H) (record : Record M H B) : Option H :=
  match record.origin with
  | .began call => if record.turn.phase = .connecting then call.owner registered else registered
  | .resumed _ _ => registered

/-- The handler that the last connect sequence which has begun registered. -/
def System.registered (history : List (Record M H B)) : Option H :=
  history.foldl Record.registers none

namespace Connecting

variable {settings : Settings M} {shared : Shared H}

theorem handler_afterOpening (settings : Settings M) (shared : Shared H)
    (step : Step Opening (Except Error (Opened B))) :
    (afterOpening settings shared step).1.handler = shared.handler := by
  unfold afterOpening
  split
  · rfl
  · split <;> rfl
  · rfl
  · split <;> rfl
  · rfl

theorem handler_resume {point : Connecting} {reply : Reply B}
    {turn : Shared H × Step Connecting (Connected B)}
    (h : point.resume settings shared reply = some turn) : turn.1.handler = shared.handler := by
  cases resumes h with
  | opening resumed => exact handler_afterOpening settings shared _
  | legacy result => rfl

end Connecting

namespace Sending

variable {settings : Settings M} {shared : Shared H} {handler : Option H}

theorem handler_afterIntake (settings : Settings M) (shared : Shared H) (message : M)
    (step : Step (Intake M H B) (Except Error Nat)) :
    (afterIntake settings shared message step).shared.handler = shared.handler := by
  unfold afterIntake
  split
  · rfl
  · rfl
  · split <;> rfl

theorem handler_resume {point : Sending M H B} {reply : Reply B} {turn : Turn M H B}
    (h : point.resume settings shared handler reply = some turn) :
    turn.shared.handler = shared.handler := by
  cases resumes h with
  | connecting resumed =>
      rw [afterConnecting_shared]
      exact Connecting.handler_resume resumed
  | failed message request error => rfl
  | answered message request response => exact handler_afterIntake settings shared _ _
  | receiving resumed => exact handler_afterIntake settings _ _ _
  | forwarding inner result => rfl

/-- Of the sends only one that begins with a connect sequence registers its handler. -/
theorem handler_start (settings : Settings M) (shared : Shared H) (handler : Option H)
    (message : M) :
    let turn : Turn M H B := start settings shared handler message
    turn.shared.handler =
      if (Transport.Turn.ofSending handler turn).phase = .connecting then handler
      else shared.handler := by
  have hPost : (Turn.ofSending handler ⟨shared, post settings message, none⟩ :
      Transport.Turn M H B).phase ≠ .connecting := by
    rw [phase_post]
    exact Phase.noConfusion
  cases hLatch : shared.latch.tripped with
  | true =>
      simp only [start, hLatch, ite_true, phase_forward]
      rfl
  | false =>
      cases hState : shared.state with
      | closed =>
          simp only [start, hLatch, hState, Bool.false_eq_true, ite_false]
          rfl
      | disconnected =>
          cases hConnect : settings.config.connectOnSend with
          | true =>
              simp only [start, hLatch, hState, hConnect, Bool.false_eq_true, ite_false, ite_true]
              rw [Connecting.start_eq { shared with state := .connecting } handler rfl hLatch]
              rfl
          | false => simp [start, hLatch, hState, hConnect, hPost]
      | connecting => simp [start, hLatch, hState, hPost]
      | connected => simp [start, hLatch, hState, hPost]

end Sending

namespace Streaming

variable {settings : Settings M} {shared : Shared H} {handler : Option H}

theorem handler_afterOpening (shared : Shared H)
    (step : Step Opening (Except Error (Opened B))) :
    (afterOpening shared step : Shared H × Step (Streaming M H B) Unit).1.handler =
      shared.handler := by
  unfold afterOpening
  split <;> rfl

theorem handler_afterIntake (settings : Settings M) (shared : Shared H)
    (step : Step (Intake M H B) (Except Error Nat)) :
    (afterIntake settings shared step).1.handler = shared.handler := by
  unfold afterIntake
  split
  · rfl
  · split
    · rfl
    · split
      · rfl
      · split
        · exact handler_afterOpening shared _
        · rfl

theorem handler_resume {point : Streaming M H B} {reply : Reply B}
    {turn : Shared H × Step (Streaming M H B) Unit}
    (h : point.resume settings shared handler reply = some turn) :
    turn.1.handler = shared.handler := by
  cases resumes h with
  | receiving resumed => exact handler_afterIntake settings _ _
  | reopening resumed => exact handler_afterOpening shared _

end Streaming

theorem Task.handler_resume {settings : Settings M} {shared : Shared H} {task : Task M H B}
    {reply : Reply B} {turn : Turn M H B} (h : task.resume settings shared reply = some turn) :
    turn.shared.handler = shared.handler := by
  cases resumes h with
  | connecting resumed =>
      rw [Turn.ofConnecting_shared]
      exact Connecting.handler_resume resumed
  | legacyConnecting handler result => rfl
  | sending resumed => exact Sending.handler_resume resumed
  | closing result => rfl
  | streaming resumed => exact Streaming.handler_resume resumed

theorem Call.handler_start (settings : Settings M) (shared : Shared H) (call : Call M H) :
    let turn : Turn M H B := call.start settings shared
    turn.shared.handler =
      if turn.phase = .connecting then call.owner shared.handler else shared.handler := by
  have hStarts := call.starts (B := B) settings shared
  intro turn
  change Starts settings shared call turn at hStarts
  generalize turn = turn at hStarts
  cases hStarts with
  | legacyConnecting handler tripped => rfl
  | refused handler error => rfl
  | connecting handler untripped idle =>
      rw [Connecting.start_eq { shared with state := .connecting } (some handler) rfl untripped]
      rfl
  | sending sends =>
      rw [← owner_of_message sends]
      exact Sending.handler_start settings shared _ _
  | closing => rfl
  | closed => rfl

namespace System

/-- What a transport holds as its handler is what was registered last. -/
theorem handler_run (settings : Settings M) (actions : List (Action M H B)) :
    (run settings {} actions).1.shared.handler = registered (history settings {} actions) := by
  refine run_induction settings
    (motive := fun system past => system.shared.handler = registered past) rfl ?_ actions
  intro system past action h
  cases hRecord : system.record? settings action with
  | none => simpa [step_of_no_record hRecord] using h
  | some record =>
      obtain ⟨streamTask, hShared⟩ :=
        settle_shared (system.enroll action) record.id record.turn
      have hTurn : record.turn.shared.handler = record.registers system.shared.handler := by
        obtain ⟨_, ⟨call, _, _, hOrigin, hTurn⟩ | ⟨task, reply, _, _, hOrigin, hTurn⟩⟩ :=
          record_cases hRecord
        · rw [Record.registers, hOrigin, hTurn]
          exact call.handler_start settings system.shared
        · rw [Record.registers, hOrigin]
          exact Task.handler_resume hTurn
      rw [step_of_record hRecord, hShared, Option.toList_some, registered, List.foldl_append,
        ← registered, ← h]
      exact hTurn

end System

/-- The point at which something waits. -/
def Step.point? {P R : Type} : Step P R → Option P
  | .wait point => some point
  | .done _ => none

/-- The message that is given to a handler, with the handler. -/
def Wait.given? : Wait M H B → Option (H × M)
  | .verdict handler message => some (handler, message)
  | _ => none

namespace Record

/-- The messages that a task gave to handlers, in order. -/
def given (records : List (Record M H B)) : List (H × M) :=
  (waits records).filterMap Wait.given?

@[simp] theorem given_append (records more : List (Record M H B)) :
    given (records ++ more) = given records ++ given more := by
  simp [given]

end Record

namespace Intake

/-- A message that waits for a verdict waits for that of the owner. -/
def Owned (owner : Option H) : Intake M H B → Prop
  | .reading _ _ _ => True
  | .handing handler _ _ _ _ _ _ => owner = some handler

/-- The messages that are to be given next: those of the item, or those that are left behind
an accepted one. -/
def due (codec : Codec M) (stopped : Bool) : Intake M H B → Reply B → List M
  | .reading _ reader _, .item item =>
    match reader.accept codec stopped item with
    | .messages messages _ _ => messages
    | _ => []
  | .handing _ _ rest _ _ _ _, .verdict (.ok ()) => rest
  | _, _ => []

/-- The message that is given in a step. -/
def given? (step : Step (Intake M H B) (Except Error Nat)) : Option (H × M) :=
  step.point?.bind fun point => (point.wait : Wait M H B).given?

theorem given_reading (body : B) (reader : Decoder.Reader) (handled : Nat) :
    given? (.wait (.reading body reader handled) :
      Step (Intake M H B) (Except Error Nat)) = none :=
  rfl

section Owned

variable {codec : Codec M} {stopped : Bool} {owner : Option H} {token after : ResumptionToken}
  {messages : List M} {step : Step (Intake M H B) (Except Error Nat)}

theorem given_offer {id : Option String} {body : B} {next : Option Decoder.Reader}
    {handled : Nat} (h : offer owner token messages id body next handled = (after, step)) :
    given? step = owner.bind fun handler => messages.head?.map (handler, ·) := by
  have hProceed (count : Nat) :
      given? (proceed body next count : Step (Intake M H B) (Except Error Nat)) = none := by
    cases next <;> rfl
  cases owner with
  | none =>
      cases h
      exact hProceed _
  | some handler =>
      cases messages with
      | nil =>
          cases h
          exact hProceed _
      | cons message messages =>
          cases h
          rfl

/-- The first of the messages that are due is given at once, and to the owner. -/
theorem given_resume {point : Intake M H B} {reply : Reply B} (hOwned : point.Owned owner)
    (h : point.resume codec stopped owner token reply = some (after, step)) :
    given? step = owner.bind fun handler =>
      (point.due codec stopped reply).head?.map (handler, ·) := by
  have hNone : (owner.bind fun handler => ([] : List M).head?.map (handler, ·)) = none := by
    cases owner <;> rfl
  generalize hTurn : (after, step) = turn at h
  cases resumes h with
  | more accepts =>
      cases hTurn
      simp only [due, accepts]
      exact hNone.symm
  | messages accepts =>
      simp only [due, accepts]
      exact given_offer hTurn.symm
  | finished accepts =>
      cases hTurn
      simp only [due, accepts]
      exact hNone.symm
  | accepted handler message rest id body next handled =>
      cases hOwned
      exact given_offer hTurn.symm
  | refused handler message rest id body next handled error =>
      cases hTurn
      exact hNone.symm

theorem owned_of_given {f : H → Option M}
    (h : given? step = owner.bind fun handler => (f handler).map (handler, ·))
    {point : Intake M H B} (hPoint : step = .wait point) : point.Owned owner := by
  subst hPoint
  cases point with
  | reading body reader handled => trivial
  | handing handler message messages id body next handled =>
      cases owner with
      | none => cases h
      | some owner =>
          obtain ⟨_, _, hEq⟩ := Option.map_eq_some_iff.mp h.symm
          cases hEq
          rfl

theorem owned_ofResponse {response : Http.Response B} {point : Intake M H B}
    (h : ofResponse response = .wait point) : point.Owned owner := by
  unfold ofResponse at h
  split at h
  · cases h
    trivial
  · cases h
  · cases h

end Owned

end Intake

namespace Sending

def Owned (owner : Option H) : Sending M H B → Prop
  | .receiving _ point => point.Owned owner
  | _ => True

variable {settings : Settings M} {shared : Shared H} {owner : Option H} {message : M}
  {next : Sending M H B}

theorem owned_forward (h : forward settings message = .wait next) : next.Owned owner := by
  obtain ⟨point, rfl⟩ := forwarding_of_forward h
  trivial

theorem owned_post (h : post settings message = .wait next) : next.Owned owner := by
  obtain ⟨body, _, rfl⟩ := posting_of_post h
  trivial

theorem owned_afterConnecting {turn : Shared H × Step Connecting (Connected B)}
    (h : (afterConnecting settings message turn).step = .wait next) : next.Owned owner := by
  rcases wait_of_afterConnecting h with ⟨point, _, rfl⟩ | ⟨point, rfl⟩ | ⟨_, hPost⟩
  · trivial
  · trivial
  · exact owned_post hPost

theorem owned_start
    (h : (start settings shared owner message : Turn M H B).step = .wait next) :
    next.Owned owner := by
  unfold start at h
  split at h
  · exact owned_forward h
  · split at h
    · cases h
    · split at h
      · exact owned_afterConnecting h
      · exact owned_post h
    · exact owned_post h

theorem owned_afterIntake {step : Step (Intake M H B) (Except Error Nat)}
    (hStep : ∀ point, step = .wait point → point.Owned owner)
    (h : (afterIntake settings shared message step).step = .wait next) : next.Owned owner := by
  rcases step with point | (error | count)
  · cases h
    exact hStep point rfl
  · simp only [afterIntake] at h
    split at h
    · exact owned_forward h
    · cases h
  · cases h

theorem owned_resume {point : Sending M H B} {reply : Reply B} {turn : Turn M H B}
    (hOwned : point.Owned owner) (h : point.resume settings shared owner reply = some turn)
    (hNext : turn.step = .wait next) : next.Owned owner := by
  cases resumes h with
  | connecting resumed => exact owned_afterConnecting hNext
  | failed message request error => cases hNext
  | answered message request response =>
      exact owned_afterIntake (fun _ => Intake.owned_ofResponse) hNext
  | receiving resumed =>
      exact owned_afterIntake
        (fun _ => Intake.owned_of_given (Intake.given_resume hOwned resumed)) hNext
  | forwarding inner result =>
      obtain ⟨later, _, rfl⟩ := Step.mapPoint_eq_wait.mp hNext
      trivial

end Sending

namespace Streaming

def Owned (owner : Option H) : Streaming M H B → Prop
  | .receiving point => point.Owned owner
  | .reopening _ => True

/-- The message that is given in a step. -/
def given? (step : Step (Streaming M H B) Unit) : Option (H × M) :=
  step.point?.bind fun point => (point.wait : Wait M H B).given?

/-- The messages of the stream that are to be given next. -/
def due (codec : Codec M) (stopped : Bool) : Streaming M H B → Reply B → List M
  | .receiving point, reply => point.due codec stopped reply
  | .reopening _, _ => []

variable {settings : Settings M} {shared : Shared H} {owner : Option H}

/-- Opening a stream gives no message. -/
theorem given_afterOpening (shared : Shared H) (owner : Option H)
    (step : Step Opening (Except Error (Opened B))) :
    let turn : Shared H × Step (Streaming M H B) Unit := afterOpening shared step
    given? turn.2 = none ∧ ∀ next, turn.2 = .wait next → next.Owned owner := by
  rcases step with point | (error | (⟨decoder, body⟩ | _ | reason))
  · exact ⟨by cases point <;> rfl, by rintro next ⟨⟩; trivial⟩
  · exact ⟨rfl, nofun⟩
  · exact ⟨rfl, by rintro next ⟨⟩; trivial⟩
  · exact ⟨rfl, nofun⟩
  · exact ⟨rfl, nofun⟩

theorem given_afterIntake (settings : Settings M) (shared : Shared H)
    {step : Step (Intake M H B) (Except Error Nat)}
    (hStep : ∀ point, step = .wait point → point.Owned owner) :
    let turn := afterIntake settings shared step
    given? turn.2 = Intake.given? step ∧ ∀ next, turn.2 = .wait next → next.Owned owner := by
  cases step with
  | wait point => exact ⟨rfl, by rintro next ⟨⟩; exact hStep point rfl⟩
  | done result =>
      simp only [afterIntake]
      split
      · exact ⟨rfl, nofun⟩
      · cases result with
        | ok count => exact ⟨rfl, nofun⟩
        | error error =>
            dsimp only
            split
            · exact given_afterOpening _ owner _
            · exact ⟨rfl, nofun⟩

/-- A stream gives the messages that are due to its owner. -/
theorem given_resume {point : Streaming M H B} {reply : Reply B}
    {turn : Shared H × Step (Streaming M H B) Unit} (hOwned : point.Owned owner)
    (h : point.resume settings shared owner reply = some turn) :
    (given? turn.2 = owner.bind fun handler =>
      (point.due settings.codec shared.isClosed reply).head?.map (handler, ·)) ∧
      ∀ next, turn.2 = .wait next → next.Owned owner := by
  cases resumes h with
  | receiving resumed =>
      have hGiven := Intake.given_resume hOwned resumed
      obtain ⟨hSame, hNext⟩ :=
        given_afterIntake settings _ fun _ => Intake.owned_of_given hGiven
      exact ⟨hSame.trans hGiven, hNext⟩
  | @reopening inner reply step resumed =>
      obtain ⟨hNone, hNext⟩ := given_afterOpening shared owner step
      refine ⟨hNone.trans ?_, hNext⟩
      cases owner <;> rfl

end Streaming

/-- The task is one of the owner's. -/
def Task.Owned (owner : Option H) : Task M H B → Prop
  | .connecting handler _ => owner = some handler
  | .sending handler point => owner = handler ∧ point.Owned owner
  | .streaming handler point => owner = handler ∧ point.Owned owner
  | _ => True

/-- A task of the owner's gives messages to the owner alone. -/
theorem Task.Owned.of_given {owner : Option H} {task : Task M H B} (h : task.Owned owner)
    {given : H × M} (hGiven : task.wait.given? = some given) : owner = some given.1 := by
  have hIntake {point : Intake M H B} (hOwned : point.Owned owner)
      (hGiven : (point.wait : Wait M H B).given? = some given) : owner = some given.1 := by
    cases point with
    | reading body reader handled => cases hGiven
    | handing handler message messages id body next handled =>
        cases hGiven
        exact hOwned
  rcases task with ⟨_, (_ | _) | _⟩ | _ | ⟨_, ⟨_, (_ | _) | _⟩ | _ | ⟨_, point⟩ | _⟩ | _ |
    ⟨_, point | (_ | _)⟩
  all_goals first | exact hIntake h.2 hGiven | cases hGiven

namespace Turn

/-- What the turn leaves behind is the owner's: the task that waits and the stream that was
opened. -/
structure Owned (owner : Option H) (turn : Turn M H B) : Prop where
  task : ∀ task, turn.step = .wait task → task.Owned owner
  stream : ∀ stream, turn.stream = some stream → stream.1 = owner

theorem Owned.ofConnecting (handler : H) (turn : Shared H × Step Connecting (Connected B)) :
    (ofConnecting handler turn : Turn M H B).Owned (some handler) := by
  obtain ⟨shared, point | connected⟩ := turn
  · exact ⟨by rintro task ⟨⟩; rfl, nofun⟩
  · refine ⟨nofun, fun stream hStream => ?_⟩
    obtain ⟨_, _, rfl⟩ := Option.map_eq_some_iff.mp hStream
    rfl

theorem Owned.ofSending {owner : Option H} {turn : Sending.Turn M H B}
    (h : ∀ next, turn.step = .wait next → next.Owned owner) :
    (ofSending owner turn).Owned owner := by
  refine ⟨fun task hTask => ?_, fun stream hStream => ?_⟩
  · obtain ⟨point, hPoint, rfl⟩ := ofSending_eq_wait.mp hTask
    exact ⟨rfl, h point hPoint⟩
  · obtain ⟨_, _, rfl⟩ := Option.map_eq_some_iff.mp hStream
    rfl

theorem Owned.ofStreaming {owner : Option H} {turn : Shared H × Step (Streaming M H B) Unit}
    (h : ∀ next, turn.2 = .wait next → next.Owned owner) :
    (ofStreaming owner turn).Owned owner := by
  refine ⟨fun task hTask => ?_, nofun⟩
  obtain ⟨point, hPoint, rfl⟩ := ofStreaming_eq_wait.mp hTask
  exact ⟨rfl, h point hPoint⟩

/-- A turn without a connect sequence or a body is anyone's. -/
theorem Owned.returned (owner : Option H) (shared : Shared H) (result : Except Error Unit) :
    (returned shared result : Turn M H B).Owned owner :=
  ⟨nofun, nofun⟩

end Turn

/-- The owner of a task is the owner of all that it does. -/
theorem Task.owned_resume {settings : Settings M} {shared : Shared H} {owner : Option H}
    {task : Task M H B} {reply : Reply B} {turn : Turn M H B} (hOwned : task.Owned owner)
    (h : task.resume settings shared reply = some turn) : turn.Owned owner := by
  cases resumes h with
  | connecting resumed =>
      cases hOwned
      exact .ofConnecting _ _
  | legacyConnecting handler result => exact .returned owner shared result
  | sending resumed =>
      obtain ⟨rfl, hPoint⟩ := hOwned
      exact .ofSending fun _ => Sending.owned_resume hPoint resumed
  | closing result => exact .returned owner shared result
  | streaming resumed =>
      obtain ⟨rfl, hPoint⟩ := hOwned
      exact .ofStreaming (Streaming.given_resume hPoint resumed).2

theorem Call.owned_start (settings : Settings M) (shared : Shared H) (call : Call M H) :
    (call.start settings shared : Turn M H B).Owned (call.owner shared.handler) := by
  have hStarts := call.starts (B := B) settings shared
  generalize call.start settings shared = turn at hStarts
  cases hStarts with
  | legacyConnecting handler tripped => exact ⟨by rintro task ⟨⟩; trivial, nofun⟩
  | refused handler error => exact .returned _ shared (.error error)
  | connecting handler untripped idle => exact .ofConnecting handler _
  | sending sends =>
      rw [owner_of_message sends]
      exact .ofSending fun _ => Sending.owned_start
  | closing => exact ⟨by rintro task ⟨⟩; trivial, nofun⟩
  | closed => exact .returned _ _ (.ok ())

/-- All turns of a call are its owner's. -/
theorem Life.owned {settings : Settings M} {id : TaskId} {call : Call M H} {begun : Shared H}
    {past : List (Record M H B)} {last : Record M H B}
    (life : Life settings id call begun past last) :
    ∀ record ∈ past ++ [last], record.turn.Owned (call.owner begun.handler) := by
  induction life with
  | start => simpa using call.owned_start settings begun
  | @resume past last task shared reply turn prior waits leads resumes ih =>
      have hTurn := Task.owned_resume ((ih last (by simp)).task task waits) resumes
      intro record hRecord
      rcases List.mem_append.mp hRecord with hPast | hLast
      · exact ih record hPast
      · rw [List.mem_singleton.mp hLast]
        exact hTurn

namespace Record

/-- The messages of a stream that are to be given behind a turn of the task that reads it. -/
def due (codec : Codec M) (record : Record M H B) : List M :=
  match record.origin with
  | .resumed (.streaming _ point) reply => point.due codec record.before.isClosed reply
  | _ => []

/-- What a stream with that owner gives: the first of the messages that are due behind each
turn. -/
def streams (codec : Codec M) (owner : Option H) (records : List (Record M H B)) :
    List (H × M) :=
  records.filterMap fun record => owner.bind fun handler =>
    (record.due codec).head?.map (handler, ·)

theorem given_cons (record : Record M H B) (records : List (Record M H B)) :
    given (record :: records) = (record.turn.wait?.bind Wait.given?).toList ++ given records := by
  rw [given, waits, List.filterMap_cons]
  cases hWait : record.turn.wait? with
  | none => rfl
  | some wait =>
      simp only [List.filterMap_cons, Option.bind_some]
      cases wait.given? <;> rfl

/-- Messages are given to an owner if all turns are the owner's. -/
theorem owner_of_given {owner : Option H} {records : List (Record M H B)}
    (h : ∀ record ∈ records, record.turn.Owned owner) {message : H × M}
    (hGiven : message ∈ given records) : owner = some message.1 := by
  obtain ⟨wait, hWait, hMessage⟩ := List.mem_filterMap.mp hGiven
  obtain ⟨record, hRecord, hTurn⟩ := List.mem_filterMap.mp hWait
  obtain ⟨task, hTask, rfl⟩ := Turn.wait?_eq_some.mp hTurn
  exact ((h record hRecord).task task hTask).of_given hMessage

end Record

/-- A stream task gives what its stream brings to its owner, body after body. -/
theorem Trail.given_eq {settings : Settings M} {id : TaskId} {task? : Option (Task M H B)}
    {shared : Shared H} {records : List (Record M H B)} {owner : Option H}
    (trail : Trail settings id task? shared records)
    (hTask : ∀ task, task? = some task → task.isStreaming = true ∧ task.Owned owner) :
    Record.given records = Record.streams settings.codec owner records := by
  induction trail with
  | stops => rfl
  | @goesOn task shared later reply turn records leads resumes onward ih =>
      obtain ⟨hKind, hOwned⟩ := hTask task rfl
      cases task with
      | streaming handler point =>
          obtain ⟨rfl, hPoint⟩ := hOwned
          obtain ⟨inner, hInner, rfl⟩ := Option.map_eq_some_iff.mp resumes
          obtain ⟨hGiven, hNext⟩ := Streaming.given_resume hPoint hInner
          have hWait : (Turn.ofStreaming owner inner : Turn M H B).wait?.bind Wait.given? =
              Streaming.given? inner.2 := by
            obtain ⟨shared, next | result⟩ := inner <;> rfl
          rw [Record.given_cons, hWait, hGiven, ih]
          · rw [Record.streams, Record.streams, List.filterMap_cons, Record.due]
            split <;> rename_i hHead <;> rw [hHead] <;> rfl
          · intro next hNextTask
            have hStep := Turn.task?_eq_some.mp hNextTask
            refine ⟨?_, (Turn.Owned.ofStreaming hNext).task next hStep⟩
            rw [Task.isStreaming_of_resume resumes hStep]
            rfl
      | _ => cases hKind

namespace System

/-- The task `id` opens the stream that the task `streamId` reads. -/
def Opens (settings : Settings M) (actions : List (Action M H B)) (id streamId : TaskId) :
    Prop :=
  ∃ before action after record, actions = before ++ action :: after ∧
    (run settings {} before).1.record? settings action = some record ∧ record.id = id ∧
    record.turn.stream.isSome = true ∧
    ((run settings {} before).1.step settings action).1.shared.streamTask = some streamId

variable {settings : Settings M} {actions : List (Action M H B)}

/-- The number of a call that begins is new. -/
theorem began_mem (settings : Settings M) (before after : List (Action M H B))
    (call : Call M H) :
    let system := (run settings {} before).1
    (⟨system.next, system.shared, .began call, call.start settings system.shared⟩ :
      Record M H B) ∈ history settings {} (before ++ .call call :: after) := by
  rw [history_append, history]
  exact List.mem_append_right _ (List.mem_append_left _ (List.mem_singleton.mpr rfl))

/-- The turns of a call are those of the handler that it is for. -/
theorem owned_of_call (settings : Settings M) (before after : List (Action M H B))
    (call : Call M H) :
    ∀ record ∈ own (run settings {} before).1.next
        (history settings {} (before ++ .call call :: after)),
      record.turn.Owned (call.owner (registered (history settings {} before))) := by
  obtain ⟨past, last, hOwn, life, _⟩ := life_of_began (began_mem settings before after call) rfl
  rw [hOwn, ← handler_run]
  exact life.owned

/-- A stream gives its messages to the owner of the call that opened it. -/
theorem given_of_opens {id streamId : TaskId} {owner : Option H}
    (hOwned : ∀ record ∈ own id (history settings {} actions), record.turn.Owned owner)
    (h : Opens settings actions id streamId) :
    Record.given (own streamId (history settings {} actions)) =
      Record.streams settings.codec owner (own streamId (history settings {} actions)) := by
  obtain ⟨before, action, after, record, rfl, hRecord, rfl, hStream, hId⟩ := h
  have hSystem := (chronicle_run settings before).wellFormed
  obtain ⟨⟨handler, decoder, body⟩, hStream⟩ := Option.isSome_iff_exists.mp hStream
  have hHistory : history settings {} (before ++ action :: after) =
      (history settings {} before ++ [record]) ++
        ((run settings {} before).1.step settings action).1.history settings after := by
    rw [history_append, history, hRecord, Option.toList_some, List.append_assoc]
  have hHandler : handler = owner := by
    refine (hOwned record (List.mem_filter.mpr ⟨?_, by simp⟩)).stream _ hStream
    rw [hHistory]
    simp
  have hStep := step_of_record hRecord
  rw [settle_of_stream hStream] at hStep
  have hNew : streamId = ((run settings {} before).1.enroll action).next := by
    rw [hStep] at hId
    exact (Option.some.inj hId).symm
  -- nobody had the number before
  have hEarlier : own streamId (history settings {} before ++ [record]) = [] := by
    refine own_eq_nil fun other hOther => Nat.ne_of_lt ?_
    rw [hNew]
    rcases List.mem_append.mp hOther with hOld | hLast
    · exact Nat.lt_of_lt_of_le ((chronicle_run settings before).numbered other hOld)
        (le_enroll_next _ action)
    · rw [List.mem_singleton.mp hLast]
      exact hSystem.numbered_of_record hRecord
  have hTask : ((run settings {} before).1.step settings action).1.task? streamId =
      some (.streaming handler (.receiving (.start decoder body))) := by
    refine (hSystem.step settings action).task?_eq_some.mpr ?_
    rw [hStep, hNew]
    exact List.mem_append_right _ (List.mem_singleton.mpr rfl)
  have hLess : streamId < ((run settings {} before).1.step settings action).1.next := by
    rw [hStep, hNew]
    exact Nat.lt_succ_self _
  have hTrail := trail_of_task settings (hSystem.step settings action) hLess after
  rw [hHistory, own_append, hEarlier, List.nil_append]
  refine hTrail.given_eq fun task hSome => ?_
  rw [hTask] at hSome
  cases hSome
  exact ⟨rfl, hHandler.symm, trivial⟩

end System

end RpcTransport.Transport
