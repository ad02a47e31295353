import Mathlib.Data.List.Induction
import RpcTransport.Transport.System

/-! The history of a run keeps every turn, with what caused it and with what the calls shared
before. -/
namespace RpcTransport.Transport

variable {M H B : Type}

/-- Settings for messages that are their own texts. No message is a batch. -/
def Settings.plain (hasLegacy : Bool) : Settings String where
  config := { baseUri := "http://host" }
  codec := { encode := .ok, decode := .ok, itemsOf := fun message => [message] }
  policy := {}
  hasLegacy := hasLegacy

/-- What causes a turn. -/
inductive Origin (M H B : Type) where
  | began (call : Call M H)
  | resumed (task : Task M H B) (reply : Reply B)

/-- One turn of a task in a run. -/
structure Record (M H B : Type) where
  id : TaskId
  /-- What the calls shared before the turn. -/
  before : Shared H
  origin : Origin M H B
  turn : Turn M H B

namespace Turn

/-- The task that waits after the turn. -/
def task? (turn : Turn M H B) : Option (Task M H B) :=
  match turn.step with
  | .wait task => some task
  | .done _ => none

/-- What the task waits for after the turn. -/
def wait? (turn : Turn M H B) : Option (Wait M H B) :=
  turn.task?.map Task.wait

/-- What a call returns in the turn. A stream task returns nothing. -/
def result? (turn : Turn M H B) : Option (Except Error Unit) :=
  match turn.step with
  | .wait _ => none
  | .done result => result

/-- The event of the turn itself, without that of a stream that it opens. -/
def event (id : TaskId) (turn : Turn M H B) : Event M H B :=
  match turn.step with
  | .wait task => .waits id task.wait
  | .done (some result) => .returned id result
  | .done none => .ended id

def entries (id : TaskId) (turn : Turn M H B) : List (TaskId × Task M H B) :=
  turn.task?.toList.map (id, ·)

end Turn

namespace System

/-- The turn that an action causes. -/
def record? (settings : Settings M) (system : System M H B) :
    Action M H B → Option (Record M H B)
  | .call call =>
    some ⟨system.next, system.shared, .began call, call.start settings system.shared⟩
  | .reply id reply =>
    (system.task? id).bind fun task =>
      (task.resume settings system.shared reply).map fun turn =>
        ⟨id, system.shared, .resumed task reply, turn⟩

/-- A call gets a number of its own before its first turn. -/
def enroll (system : System M H B) : Action M H B → System M H B
  | .call _ => { system with next := system.next + 1 }
  | .reply _ _ => system

/-- All turns of a list of actions, in order. -/
def history (settings : Settings M) (system : System M H B) :
    List (Action M H B) → List (Record M H B)
  | [] => []
  | action :: actions =>
    (system.record? settings action).toList ++
      (system.step settings action).1.history settings actions

@[simp] theorem enroll_shared (system : System M H B) (action : Action M H B) :
    (system.enroll action).shared = system.shared := by
  cases action <;> rfl

@[simp] theorem enroll_tasks (system : System M H B) (action : Action M H B) :
    (system.enroll action).tasks = system.tasks := by
  cases action <;> rfl

theorem le_enroll_next (system : System M H B) (action : Action M H B) :
    system.next ≤ (system.enroll action).next := by
  cases action with
  | call call => exact Nat.le_succ system.next
  | reply id reply => exact Nat.le_refl system.next

theorem step_of_record {settings : Settings M} {system : System M H B}
    {action : Action M H B} {record : Record M H B}
    (h : system.record? settings action = some record) :
    system.step settings action = (system.enroll action).settle record.id record.turn := by
  cases action with
  | call call =>
      cases h
      rfl
  | reply id reply =>
      simp only [record?, Option.bind_eq_some_iff, Option.map_eq_some_iff] at h
      obtain ⟨task, hTask, turn, hTurn, rfl⟩ := h
      simp [step, enroll, hTask, hTurn]

/-- A reply that no task waits for. -/
theorem step_of_no_record {settings : Settings M} {system : System M H B}
    {action : Action M H B} (h : system.record? settings action = none) :
    system.step settings action = (system, []) := by
  cases action with
  | call call => cases h
  | reply id reply =>
      cases hTask : system.task? id with
      | none => simp [step, hTask]
      | some task =>
          have hTurn : task.resume settings system.shared reply = none := by
            simpa [record?, hTask] using h
          simp [step, hTask, hTurn]

/-- What is known of a turn: a call starts under a new number, or a waiting task
goes on. -/
theorem record_cases {settings : Settings M} {system : System M H B}
    {action : Action M H B} {record : Record M H B}
    (h : system.record? settings action = some record) :
    record.before = system.shared ∧
    ((∃ call, action = .call call ∧ record.id = system.next ∧ record.origin = .began call ∧
        record.turn = call.start settings system.shared) ∨
      (∃ task reply, action = .reply record.id reply ∧ system.task? record.id = some task ∧
        record.origin = .resumed task reply ∧
        task.resume settings system.shared reply = some record.turn)) := by
  cases action with
  | call call =>
      cases h
      exact ⟨rfl, Or.inl ⟨call, rfl, rfl, rfl, rfl⟩⟩
  | reply id reply =>
      simp only [record?, Option.bind_eq_some_iff, Option.map_eq_some_iff] at h
      obtain ⟨task, hTask, turn, hTurn, rfl⟩ := h
      exact ⟨rfl, Or.inr ⟨task, reply, rfl, hTask, rfl, hTurn⟩⟩

theorem run_append (settings : Settings M) (system : System M H B)
    (actions more : List (Action M H B)) :
    system.run settings (actions ++ more) =
      (((system.run settings actions).1.run settings more).1,
        (system.run settings actions).2 ++
          ((system.run settings actions).1.run settings more).2) := by
  induction actions generalizing system with
  | nil => rfl
  | cons action actions ih => simp [run, ih]

theorem history_append (settings : Settings M) (system : System M H B)
    (actions more : List (Action M H B)) :
    system.history settings (actions ++ more) =
      system.history settings actions ++
        (system.run settings actions).1.history settings more := by
  induction actions generalizing system with
  | nil => rfl
  | cons action actions ih => simp [run, history, ih]

/-- A turn of a run comes from one of its actions. -/
theorem record_of_mem_history {settings : Settings M} {system : System M H B}
    {actions : List (Action M H B)} {record : Record M H B}
    (h : record ∈ system.history settings actions) :
    ∃ before action after, actions = before ++ action :: after ∧
      (system.run settings before).1.record? settings action = some record := by
  induction actions generalizing system with
  | nil => cases h
  | cons action actions ih =>
      rcases List.mem_append.mp h with hFirst | hLater
      · exact ⟨[], action, actions, rfl, Option.mem_toList.mp hFirst⟩
      · obtain ⟨before, later, after, rfl, hRecord⟩ := ih hLater
        exact ⟨action :: before, later, after, rfl, hRecord⟩

/-- A turn of a run that is no start resumes its task in what was shared before. -/
theorem resume_of_mem_history {settings : Settings M} {system : System M H B}
    {actions : List (Action M H B)} {record : Record M H B}
    (h : record ∈ system.history settings actions) {task : Task M H B} {reply : Reply B}
    (hOrigin : record.origin = .resumed task reply) :
    task.resume settings record.before reply = some record.turn := by
  obtain ⟨_, _, _, _, hRecord⟩ := record_of_mem_history h
  obtain ⟨hBefore, ⟨_, _, _, hBegan, _⟩ | ⟨_, _, _, _, hResumed, hTurn⟩⟩ := record_cases hRecord
  · rw [hOrigin] at hBegan
    cases hBegan
  · rw [hOrigin] at hResumed
    cases hResumed
    rwa [hBefore]

/-- A turn of a run that is a start starts its call in what was shared before. -/
theorem start_of_mem_history {settings : Settings M} {system : System M H B}
    {actions : List (Action M H B)} {record : Record M H B}
    (h : record ∈ system.history settings actions) {call : Call M H}
    (hOrigin : record.origin = .began call) :
    record.turn = call.start settings record.before := by
  obtain ⟨_, _, _, _, hRecord⟩ := record_of_mem_history h
  obtain ⟨hBefore, ⟨_, _, _, hBegan, hTurn⟩ | ⟨_, _, _, _, hResumed, _⟩⟩ := record_cases hRecord
  · rw [hOrigin] at hBegan
    cases hBegan
    rw [hBefore, hTurn]
  · rw [hOrigin] at hResumed
    cases hResumed

/-- What holds of a new transport and is kept by every action holds of every
run. The history of the run is at hand. -/
theorem run_induction (settings : Settings M)
    {motive : System M H B → List (Record M H B) → Prop} (start : motive {} [])
    (step : ∀ system past action, motive system past →
      motive (system.step settings action).1
        (past ++ (system.record? settings action).toList))
    (actions : List (Action M H B)) :
    motive (run settings {} actions).1 (history settings {} actions) := by
  induction actions using List.reverseRecOn with
  | nil => exact start
  | append_singleton actions action ih =>
      have hStep := step _ _ action ih
      rw [run_append, history_append]
      simpa [run, history] using hStep

end System

end RpcTransport.Transport
