import RpcTransport.Proofs.Tasks

/-! The records of a call in a run, taken by themselves, are a run of that call alone. -/
namespace RpcTransport.Transport

variable {M H B : Type}

/-- A call alone, with its last turn apart from the ones before. -/
inductive Life (settings : Settings M) (id : TaskId) (call : Call M H) (begun : Shared H) :
    List (Record M H B) → Record M H B → Prop where
  | start : Life settings id call begun []
      ⟨id, begun, .began call, call.start settings begun⟩
  | resume {past : List (Record M H B)} {last : Record M H B} {task : Task M H B}
      {shared : Shared H} {reply : Reply B} {turn : Turn M H B}
      (prior : Life settings id call begun past last) (waits : last.turn.step = .wait task)
      (leads : last.turn.shared.Leads shared)
      (resumes : task.resume settings shared reply = some turn) :
      Life settings id call begun (past ++ [last]) ⟨id, shared, .resumed task reply, turn⟩

namespace Life

variable {settings : Settings M} {id : TaskId} {call : Call M H} {begun : Shared H}
  {past : List (Record M H B)} {last : Record M H B}

/-- No call streams. -/
theorem not_streaming (life : Life settings id call begun past last) {task : Task M H B}
    (hTask : last.turn.step = .wait task) : task.isStreaming = false := by
  induction life generalizing task with
  | start => exact Call.not_streaming_of_start hTask
  | resume prior waits leads resumes ih =>
      rw [Task.isStreaming_of_resume resumes hTask]
      exact ih waits

/-- A call returns in its last turn. -/
theorem not_returned (life : Life settings id call begun past last) {record : Record M H B}
    (hMem : record ∈ past) : record.turn.result? = none := by
  induction life with
  | start => cases hMem
  | resume prior waits leads resumes ih =>
      rcases List.mem_append.mp hMem with hPast | hLast
      · exact ih hPast
      · rw [List.mem_singleton.mp hLast, Turn.result?, waits]

end Life

namespace System

/-- The records of one task. -/
def own (id : TaskId) (history : List (Record M H B)) : List (Record M H B) :=
  history.filter fun record => record.id = id

@[simp] theorem own_append (id : TaskId) (history more : List (Record M H B)) :
    own id (history ++ more) = own id history ++ own id more :=
  List.filter_append history more

theorem own_eq_nil {id : TaskId} {history : List (Record M H B)}
    (h : ∀ record ∈ history, record.id ≠ id) : own id history = [] :=
  List.filter_eq_nil_iff.mpr fun record hMem => by simpa using h record hMem

/-- A call that has started is the life that its own records show, and it waits
where the last of them stopped. -/
def Lives (settings : Settings M) (system : System M H B) (history : List (Record M H B))
    (id : TaskId) (call : Call M H) (begun : Shared H) : Prop :=
  ∃ past last, own id history = past ++ [last] ∧ Life settings id call begun past last ∧
    last.turn.shared.Leads system.shared ∧
    ∀ task, (id, task) ∈ system.tasks ↔ last.turn.step = .wait task

/-- What a run and its history keep. -/
structure Chronicle (settings : Settings M) (system : System M H B)
    (history : List (Record M H B)) : Prop where
  wellFormed : system.WellFormed
  numbered : ∀ record ∈ history, record.id < system.next
  lives : ∀ record ∈ history, ∀ call, record.origin = .began call →
    system.Lives settings history record.id call record.before

namespace Chronicle

variable {settings : Settings M} {system : System M H B} {history : List (Record M H B)}

/-- A call is not touched by a turn of another task. -/
theorem lives_other (h : system.Chronicle settings history) {action : Action M H B}
    {record : Record M H B} (hRecord : system.record? settings action = some record)
    {id : TaskId} (hId : id < system.next) (hNe : record.id ≠ id) {call : Call M H}
    {begun : Shared H} (hLives : system.Lives settings history id call begun) :
    (system.step settings action).1.Lives settings (history ++ [record]) id call begun := by
  obtain ⟨past, last, hOwn, life, hLeads, hWaits⟩ := hLives
  have hRest : own id [record] = [] := own_eq_nil (by simpa using hNe)
  refine ⟨past, last, by simp [hOwn, hRest], life,
    hLeads.trans (system.step_leads settings action), ?_⟩
  intro task
  rw [h.wellFormed.mem_step_other hRecord hId hNe, hWaits]
  intro next hNext
  exact life.not_streaming ((hWaits next).mp hNext)

/-- A reply makes the life of its call one turn longer. -/
theorem lives_self (h : system.Chronicle settings history) {action : Action M H B}
    {record : Record M H B} (hRecord : system.record? settings action = some record)
    (hId : record.id < system.next) {call : Call M H} {begun : Shared H}
    (hLives : system.Lives settings history record.id call begun) :
    (system.step settings action).1.Lives settings (history ++ [record]) record.id call
      begun := by
  obtain ⟨past, last, hOwn, life, hLeads, hWaits⟩ := hLives
  obtain ⟨hBefore, ⟨_, _, hNext, _, _⟩ | ⟨task, reply, _, hTask, hOrigin, hTurn⟩⟩ :=
    record_cases hRecord
  · exact absurd hNext (Nat.ne_of_lt hId)
  · have hLast := (hWaits task).mp (h.wellFormed.task?_eq_some.mp hTask)
    have longer : Life settings record.id call begun (past ++ [last]) record := by
      have hResumed := Life.resume life hLast hLeads hTurn
      rcases record with ⟨id, before, origin, turn⟩
      cases hBefore
      cases hOrigin
      exact hResumed
    have hSelf : own record.id [record] = [record] := by simp [own]
    refine ⟨past ++ [last], record, by rw [own_append, hOwn, hSelf], longer, ?_, ?_⟩
    · rw [step_of_record hRecord]
      exact settle_leads _ _ _
    · exact h.wellFormed.mem_step_self hRecord fun _ hNext => longer.not_streaming hNext

/-- The first turn of a call is its life so far. -/
theorem lives_start (h : system.Chronicle settings history) {action : Action M H B}
    {record : Record M H B} (hRecord : system.record? settings action = some record)
    {call : Call M H} (hBegan : record.origin = .began call) :
    (system.step settings action).1.Lives settings (history ++ [record]) record.id call
      record.before := by
  obtain ⟨hBefore, ⟨other, _, hId, hOrigin, hTurn⟩ | ⟨_, _, _, _, hOrigin, _⟩⟩ :=
    record_cases hRecord
  · have life : Life settings record.id call record.before [] record := by
      rcases record with ⟨id, before, origin, turn⟩
      cases hBefore
      cases hBegan
      cases hOrigin
      cases hTurn
      exact .start
    have hFresh : own record.id history = [] := by
      apply own_eq_nil
      intro old hOld
      rw [hId]
      exact Nat.ne_of_lt (h.numbered old hOld)
    have hSelf : own record.id [record] = [record] := by simp [own]
    refine ⟨[], record, by rw [own_append, hFresh, hSelf], life, ?_, ?_⟩
    · rw [step_of_record hRecord]
      exact settle_leads _ _ _
    · exact h.wellFormed.mem_step_self hRecord fun _ hNext => life.not_streaming hNext
  · rw [hBegan] at hOrigin
    cases hOrigin

theorem step (h : system.Chronicle settings history) (action : Action M H B) :
    (system.step settings action).1.Chronicle settings
      (history ++ (system.record? settings action).toList) := by
  cases hRecord : system.record? settings action with
  | none =>
      rw [step_of_no_record hRecord, Option.toList_none, List.append_nil]
      exact h
  | some record =>
      have hNext : system.next ≤ (system.step settings action).1.next :=
        le_step_next system settings action
      have hOwnId : record.id < (system.step settings action).1.next := by
        rw [step_of_record hRecord]
        exact Nat.lt_of_lt_of_le (h.wellFormed.numbered_of_record hRecord)
          (le_settle_next _ _ _)
      refine ⟨h.wellFormed.step settings action, ?_, ?_⟩
      · intro other hOther
        rcases List.mem_append.mp hOther with hOld | hNew
        · exact Nat.lt_of_lt_of_le (h.numbered other hOld) hNext
        · rw [List.mem_singleton.mp hNew]
          exact hOwnId
      · intro other hOther call hBegan
        rcases List.mem_append.mp hOther with hOld | hNew
        · have hLives := h.lives other hOld call hBegan
          have hId := h.numbered other hOld
          by_cases hEq : record.id = other.id
          · rw [← hEq] at hLives hId ⊢
            exact h.lives_self hRecord hId hLives
          · exact h.lives_other hRecord hId hEq hLives
        · rw [List.mem_singleton.mp hNew] at hBegan ⊢
          exact h.lives_start hRecord hBegan

end Chronicle

theorem chronicle_run (settings : Settings M) (actions : List (Action M H B)) :
    (run settings {} actions).1.Chronicle settings (history settings {} actions) :=
  run_induction settings (motive := fun system past => system.Chronicle settings past)
    ⟨wellFormed_start, by simp, by simp⟩ (fun _ _ action h => h.step action) actions

/-- In every run the records of a call are a life of that call alone. -/
theorem life_of_began {settings : Settings M} {actions : List (Action M H B)}
    {record : Record M H B} {call : Call M H} (hMem : record ∈ history settings {} actions)
    (hBegan : record.origin = .began call) :
    ∃ past last, own record.id (history settings {} actions) = past ++ [last] ∧
      Life settings record.id call record.before past last ∧
      last.turn.shared.Leads (run settings {} actions).1.shared := by
  obtain ⟨past, last, hOwn, life, hLeads, _⟩ :=
    (chronicle_run settings actions).lives record hMem call hBegan
  exact ⟨past, last, hOwn, life, hLeads⟩

end System

end RpcTransport.Transport
