import RpcTransport.Proofs.Life

/-! The trail of a task. Whatever the other tasks do, the records of a task that waits are a run of
that task alone. -/
namespace RpcTransport.Transport

variable {M H B : Type}

/-- A task alone, from a wait on. Without a wait there are no more turns. -/
inductive Trail (settings : Settings M) (id : TaskId) :
    Option (Task M H B) → Shared H → List (Record M H B) → Prop where
  | stops (task? : Option (Task M H B)) (shared : Shared H) : Trail settings id task? shared []
  | goesOn {task : Task M H B} {shared later : Shared H} {reply : Reply B} {turn : Turn M H B}
      {records : List (Record M H B)} (leads : shared.Leads later)
      (resumes : task.resume settings later reply = some turn)
      (onward : Trail settings id turn.task? turn.shared records) :
      Trail settings id (some task) shared (⟨id, later, .resumed task reply, turn⟩ :: records)

namespace Trail

variable {settings : Settings M} {id : TaskId} {records : List (Record M H B)}

theorem eq_nil {shared : Shared H} (h : Trail settings id none shared records) :
    records = [] := by
  cases h
  rfl

/-- Other tasks may have had turns before the first one. -/
theorem of_leads {task? : Option (Task M H B)} {shared later : Shared H}
    (h : Trail settings id task? later records) (hLeads : shared.Leads later) :
    Trail settings id task? shared records := by
  cases h with
  | stops => exact .stops _ _
  | goesOn leads resumes onward => exact .goesOn (hLeads.trans leads) resumes onward

end Trail

namespace System

/-- After a turn a task waits where its own turn stopped, or where it waited before,
if it still waits. -/
theorem task?_of_step {settings : Settings M} {system : System M H B} (h : system.WellFormed)
    {action : Action M H B} {record : Record M H B}
    (hRecord : system.record? settings action = some record) {id : TaskId}
    (hId : id < system.next) {task : Task M H B}
    (hTask : (system.step settings action).1.task? id = some task) :
    (record.id = id ∧ record.turn.task? = some task) ∨
      (record.id ≠ id ∧ system.task? id = some task) := by
  have hMem := (h.step settings action).task?_eq_some.mp hTask
  rw [step_of_record hRecord] at hMem
  rcases WellFormed.mem_of_mem_settle hMem with hReplace | ⟨hNew, _⟩
  · rcases WellFormed.mem_replace.mp hReplace with ⟨hOld, hNe⟩ | ⟨hEq, hWait⟩
    · rw [enroll_tasks] at hOld
      exact Or.inr ⟨Ne.symm hNe, h.task?_eq_some.mpr hOld⟩
    · exact Or.inl ⟨hEq.symm, Turn.task?_eq_some.mpr hWait⟩
  · exact absurd hNew (Nat.ne_of_lt (Nat.lt_of_lt_of_le hId (le_enroll_next system action)))

/-- A trail from behind an action is one from where the turn of its own task stopped,
or from before the turn of another task. -/
theorem trail_of_step {settings : Settings M} {system : System M H B} (h : system.WellFormed)
    {action : Action M H B} {record : Record M H B}
    (hRecord : system.record? settings action = some record) {id : TaskId}
    (hId : id < system.next) {records : List (Record M H B)}
    (hLater : Trail settings id ((system.step settings action).1.task? id)
      (system.step settings action).1.shared records) :
    (record.id = id → Trail settings id record.turn.task? record.turn.shared records) ∧
      (record.id ≠ id → Trail settings id (system.task? id) system.shared records) := by
  have hLeads : record.turn.shared.Leads (system.step settings action).1.shared := by
    rw [step_of_record hRecord]
    exact settle_leads _ _ _
  cases hTask : (system.step settings action).1.task? id with
  | none =>
      rw [hTask] at hLater
      rw [hLater.eq_nil]
      exact ⟨fun _ => .stops _ _, fun _ => .stops _ _⟩
  | some task =>
      rw [hTask] at hLater
      rcases task?_of_step h hRecord hId hTask with ⟨hOwn, hWait⟩ | ⟨hOther, hSame⟩
      · rw [hWait]
        exact ⟨fun _ => hLater.of_leads hLeads, fun hNe => absurd hOwn hNe⟩
      · rw [hSame]
        exact ⟨fun hEq => absurd hEq hOther,
          fun _ => hLater.of_leads (system.step_leads settings action)⟩

/-- From any moment on, the records of a task that has a number are its trail. -/
theorem trail_of_task (settings : Settings M) {system : System M H B} (h : system.WellFormed)
    {id : TaskId} (hId : id < system.next) (actions : List (Action M H B)) :
    Trail settings id (system.task? id) system.shared
      (own id (system.history settings actions)) := by
  induction actions generalizing system with
  | nil => exact .stops _ _
  | cons action actions ih =>
      have hNext := Nat.lt_of_lt_of_le hId (le_step_next system settings action)
      have hLater := ih (h.step settings action) hNext
      cases hRecord : system.record? settings action with
      | none =>
          rw [step_of_no_record hRecord] at hLater
          simpa [history, hRecord, step_of_no_record hRecord] using hLater
      | some record =>
          obtain ⟨hSelf, hOther⟩ := trail_of_step h hRecord hId hLater
          rw [history, hRecord, Option.toList_some, own_append]
          by_cases hOwn : record.id = id
          · obtain ⟨hBefore, ⟨_, _, hNew, _⟩ | ⟨task, reply, _, hTask, hOrigin, hTurn⟩⟩ :=
              record_cases hRecord
            · exact absurd (hOwn.symm.trans hNew) (Nat.ne_of_lt hId)
            · have hOnward := hSelf hOwn
              have hList : own id [record] = [record] := by simp [own, hOwn]
              rcases record with ⟨number, before, origin, turn⟩
              cases hBefore
              cases hOrigin
              cases hOwn
              rw [hList, hTask]
              exact .goesOn (.refl system.shared) hTurn hOnward
          · have hList : own id [record] = [] := own_eq_nil (by simpa using hOwn)
            rw [hList, List.nil_append]
            exact hOther hOwn

end System

end RpcTransport.Transport
