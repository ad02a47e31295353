import RpcTransport.Proofs.Turn

/-! The tasks that wait. Their numbers are distinct and have been given out. -/
namespace RpcTransport.Transport

variable {M H B : Type}

namespace Task

def isStreaming : Task M H B → Bool
  | .streaming _ _ => true
  | _ => false

/-- A stream task stays one, and no other task becomes one. -/
theorem isStreaming_of_resume {settings : Settings M} {shared : Shared H}
    {task next : Task M H B} {reply : Reply B} {turn : Turn M H B}
    (h : task.resume settings shared reply = some turn) (hNext : turn.step = .wait next) :
    next.isStreaming = task.isStreaming := by
  cases resumes h with
  | connecting resumed =>
      obtain ⟨point, _, rfl⟩ := Turn.ofConnecting_eq_wait.mp hNext
      rfl
  | legacyConnecting handler result => cases hNext
  | sending resumed =>
      obtain ⟨point, _, rfl⟩ := Turn.ofSending_eq_wait.mp hNext
      rfl
  | closing result => cases hNext
  | streaming resumed =>
      obtain ⟨point, _, rfl⟩ := Turn.ofStreaming_eq_wait.mp hNext
      rfl

end Task

theorem Call.not_streaming_of_start {settings : Settings M} {shared : Shared H}
    {call : Call M H} {next : Task M H B}
    (hNext : (call.start settings shared : Turn M H B).step = .wait next) :
    next.isStreaming = false := by
  have hStarts := call.starts (B := B) settings shared
  generalize call.start settings shared = turn at hStarts hNext
  cases hStarts with
  | legacyConnecting handler tripped =>
      cases hNext
      rfl
  | refused handler error => cases hNext
  | connecting handler untripped idle =>
      obtain ⟨point, _, rfl⟩ := Turn.ofConnecting_eq_wait.mp hNext
      rfl
  | sending sends =>
      obtain ⟨point, _, rfl⟩ := Turn.ofSending_eq_wait.mp hNext
      rfl
  | closing =>
      cases hNext
      rfl
  | closed => cases hNext

namespace Turn

/-- The task that reads a stream which the turn opened. -/
def spawned? (turn : Turn M H B) : Option (Task M H B) :=
  turn.stream.map fun (handler, decoder, body) =>
    .streaming handler (.receiving (.start decoder body))

theorem mem_entries {turn : Turn M H B} {id : TaskId} {entry : TaskId × Task M H B} :
    entry ∈ turn.entries id ↔ entry.1 = id ∧ turn.step = .wait entry.2 := by
  rcases entry with ⟨i, task⟩
  unfold entries task?
  cases turn.step <;> simp [eq_comm]

theorem task?_eq_some {turn : Turn M H B} {task : Task M H B} :
    turn.task? = some task ↔ turn.step = .wait task := by
  unfold task?
  cases turn.step <;> simp

end Turn

namespace System

/-- The tasks besides the one of a turn, with what the turn leaves of it. -/
def replace (system : System M H B) (id : TaskId) (turn : Turn M H B) :
    List (TaskId × Task M H B) :=
  system.tasks.filter (fun entry => entry.1 ≠ id) ++ turn.entries id

theorem settle_of_no_stream {system : System M H B} {id : TaskId} {turn : Turn M H B}
    (h : turn.stream = none) :
    system.settle id turn =
      ({ system with shared := turn.shared, tasks := system.replace id turn },
        [turn.event id]) := by
  rcases turn with ⟨shared, step, stream⟩
  cases h
  rcases step with task | (_ | result) <;>
    simp [settle, cancel, add, replace, Turn.entries, Turn.task?, Turn.event]

theorem abandon_eq (system : System M H B) :
    system.abandon = { system with
      tasks := system.tasks.filter fun entry => some entry.1 ≠ system.shared.streamTask } := by
  unfold abandon cancel
  cases h : system.shared.streamTask with
  | none =>
      have hAll : system.tasks.filter (fun _ => true) = system.tasks :=
        List.filter_eq_self.mpr fun _ _ => rfl
      simp [hAll]
  | some id => simp

theorem settle_of_stream {system : System M H B} {id : TaskId} {turn : Turn M H B}
    {handler : Option H} {decoder : Decoder} {body : B}
    (h : turn.stream = some (handler, decoder, body)) :
    system.settle id turn =
      ({ shared := { turn.shared with streamTask := some system.next }
         next := system.next + 1
         tasks := ((system.replace id turn).filter
            fun entry => some entry.1 ≠ turn.shared.streamTask) ++
          [(system.next, .streaming handler (.receiving (.start decoder body)))] },
        [turn.event id, .waits system.next (.item body)]) := by
  rcases turn with ⟨shared, step, stream⟩
  cases h
  rcases step with task | (_ | result) <;>
    simp [settle, spawn, abandon_eq, cancel, add, replace, Turn.entries, Turn.task?, Turn.event,
      Task.wait, Streaming.wait, Intake.wait, Intake.start]

/-- Which tasks may wait. -/
structure WellFormed (system : System M H B) : Prop where
  distinct : (system.tasks.map Prod.fst).Nodup
  numbered : ∀ entry ∈ system.tasks, entry.1 < system.next
  streamNumbered : ∀ id, system.shared.streamTask = some id → id < system.next
  lastStreams : ∀ entry ∈ system.tasks, system.shared.streamTask = some entry.1 →
    entry.2.isStreaming = true

theorem wellFormed_start : ({} : System M H B).WellFormed :=
  ⟨List.nodup_nil, by simp, by simp, by simp⟩

namespace WellFormed

variable {system : System M H B}

/-- Looking up a number finds the one task that has it. -/
theorem task?_eq_some (h : system.WellFormed) {id : TaskId} {task : Task M H B} :
    system.task? id = some task ↔ (id, task) ∈ system.tasks := by
  unfold task?
  constructor
  · intro hLookup
    obtain ⟨before, after, hTasks, _⟩ := List.lookup_eq_some_iff.mp hLookup
    simp [hTasks]
  · intro hMem
    obtain ⟨before, after, hTasks⟩ := List.append_of_mem hMem
    refine List.lookup_eq_some_iff.mpr ⟨before, after, hTasks, ?_⟩
    intro entry hEntry
    have hDistinct := h.distinct
    rw [hTasks, List.map_append, List.nodup_append] at hDistinct
    have hNe := hDistinct.2.2 entry.1 (List.mem_map_of_mem hEntry) id (by simp)
    simpa using Ne.symm hNe

theorem mem_replace {id : TaskId} {turn : Turn M H B} {entry : TaskId × Task M H B} :
    entry ∈ system.replace id turn ↔
      (entry ∈ system.tasks ∧ entry.1 ≠ id) ∨ (entry.1 = id ∧ turn.step = .wait entry.2) := by
  simp [replace, Turn.mem_entries]

theorem distinct_replace (h : system.WellFormed) (id : TaskId) (turn : Turn M H B) :
    ((system.replace id turn).map Prod.fst).Nodup := by
  rw [replace, List.map_append, List.nodup_append]
  refine ⟨(List.filter_sublist.map Prod.fst).nodup h.distinct, ?_, ?_⟩
  · unfold Turn.entries
    cases turn.task? <;> simp
  · intro i hi j hj
    obtain ⟨entry, hEntry, rfl⟩ := List.mem_map.mp hi
    obtain ⟨other, hOther, rfl⟩ := List.mem_map.mp hj
    rw [(Turn.mem_entries.mp hOther).1]
    simpa using (List.mem_filter.mp hEntry).2

/-- A turn of a task that has its number keeps the tasks well formed. -/
theorem settle (h : system.WellFormed) {id : TaskId} {turn : Turn M H B}
    (hId : id < system.next) (hKeeps : system.shared.Keeps turn.shared)
    (hKind : ∀ task, turn.step = .wait task → system.shared.streamTask = some id →
      task.isStreaming = true) : (system.settle id turn).1.WellFormed := by
  have hNumbered : ∀ entry ∈ system.replace id turn, entry.1 < system.next := by
    intro entry hEntry
    rcases mem_replace.mp hEntry with ⟨hMem, _⟩ | ⟨rfl, _⟩
    · exact h.numbered entry hMem
    · exact hId
  cases hStream : turn.stream with
  | none =>
      rw [settle_of_no_stream hStream]
      refine ⟨h.distinct_replace id turn, hNumbered, ?_, ?_⟩
      · intro i hi
        exact h.streamNumbered i (hKeeps.streamTask ▸ hi)
      · intro entry hEntry hLast
        rw [hKeeps.streamTask] at hLast
        rcases mem_replace.mp hEntry with ⟨hMem, _⟩ | ⟨hEq, hStep⟩
        · exact h.lastStreams entry hMem hLast
        · exact hKind entry.2 hStep (hEq ▸ hLast)
  | some stream =>
      obtain ⟨handler, decoder, body⟩ := stream
      rw [settle_of_stream hStream]
      refine ⟨?_, ?_, ?_, ?_⟩
      · rw [List.map_append, List.nodup_append]
        refine ⟨(List.filter_sublist.map Prod.fst).nodup (h.distinct_replace id turn),
          by simp, ?_⟩
        intro i hi j hj
        obtain ⟨entry, hEntry, rfl⟩ := List.mem_map.mp hi
        have hLt := hNumbered entry (List.mem_filter.mp hEntry).1
        simp only [List.map_cons, List.map_nil, List.mem_singleton] at hj
        exact hj ▸ Nat.ne_of_lt hLt
      · intro entry hEntry
        rcases List.mem_append.mp hEntry with hOld | hNew
        · exact Nat.lt_succ_of_lt (hNumbered entry (List.mem_filter.mp hOld).1)
        · rw [List.mem_singleton.mp hNew]
          exact Nat.lt_succ_self system.next
      · intro i hi
        cases hi
        exact Nat.lt_succ_self system.next
      · intro entry hEntry hLast
        have hNext : entry.1 = system.next := (Option.some.inj hLast).symm
        rcases List.mem_append.mp hEntry with hOld | hNew
        · exact absurd hNext (Nat.ne_of_lt (hNumbered entry (List.mem_filter.mp hOld).1))
        · rw [List.mem_singleton.mp hNew]
          rfl

/-- A turn leaves every task alone that is neither its own nor a stream task. -/
theorem mem_settle (h : system.WellFormed) {id : TaskId} {turn : Turn M H B}
    (hKeeps : system.shared.Keeps turn.shared)
    (hKind : ∀ task, turn.step = .wait task → system.shared.streamTask = some id →
      task.isStreaming = true) {entry : TaskId × Task M H B}
    (hEntry : entry.2.isStreaming = false) (hMem : entry ∈ system.replace id turn) :
    entry ∈ (system.settle id turn).1.tasks := by
  cases hStream : turn.stream with
  | none => rwa [settle_of_no_stream hStream]
  | some stream =>
      obtain ⟨handler, decoder, body⟩ := stream
      rw [settle_of_stream hStream]
      refine List.mem_append_left _ (List.mem_filter.mpr ⟨hMem, ?_⟩)
      simp only [hKeeps.streamTask, ne_eq, decide_eq_true_eq]
      intro hLast
      have hStreaming : entry.2.isStreaming = true := by
        rcases mem_replace.mp hMem with ⟨hOld, _⟩ | ⟨hEq, hStep⟩
        · exact h.lastStreams entry hOld hLast.symm
        · exact hKind entry.2 hStep (hEq ▸ hLast.symm)
      simp [hStreaming] at hEntry

/-- After a turn only the tasks of before wait, the one of the turn, and one for a
stream that it opened. -/
theorem mem_of_mem_settle {id : TaskId} {turn : Turn M H B} {entry : TaskId × Task M H B}
    (hMem : entry ∈ (system.settle id turn).1.tasks) :
    entry ∈ system.replace id turn ∨
      (entry.1 = system.next ∧ turn.spawned? = some entry.2) := by
  cases hStream : turn.stream with
  | none =>
      rw [settle_of_no_stream hStream] at hMem
      exact Or.inl hMem
  | some stream =>
      obtain ⟨handler, decoder, body⟩ := stream
      rw [settle_of_stream hStream] at hMem
      rcases List.mem_append.mp hMem with hOld | hNew
      · exact Or.inl (List.mem_filter.mp hOld).1
      · rw [List.mem_singleton.mp hNew]
        exact Or.inr ⟨rfl, by simp [Turn.spawned?, hStream]⟩

theorem enroll (h : system.WellFormed) (action : Action M H B) :
    (system.enroll action).WellFormed := by
  cases action with
  | call call =>
      refine ⟨h.distinct, ?_, ?_, h.lastStreams⟩
      · intro entry hEntry
        exact Nat.lt_succ_of_lt (h.numbered entry hEntry)
      · intro id hId
        exact Nat.lt_succ_of_lt (h.streamNumbered id hId)
  | reply id reply => exact h

theorem numbered_of_record (h : system.WellFormed) {settings : Settings M}
    {action : Action M H B} {record : Record M H B}
    (hRecord : system.record? settings action = some record) :
    record.id < (system.enroll action).next := by
  obtain ⟨_, ⟨call, rfl, hId, _, _⟩ | ⟨task, reply, rfl, hTask, _, _⟩⟩ := record_cases hRecord
  · rw [hId]
    exact Nat.lt_succ_self system.next
  · exact h.numbered _ (h.task?_eq_some.mp hTask)

theorem streaming_of_record (h : system.WellFormed) {settings : Settings M}
    {action : Action M H B} {record : Record M H B}
    (hRecord : system.record? settings action = some record) {next : Task M H B}
    (hNext : record.turn.step = .wait next)
    (hLast : system.shared.streamTask = some record.id) : next.isStreaming = true := by
  obtain ⟨_, ⟨call, _, hId, _, _⟩ | ⟨task, reply, _, hTask, _, hTurn⟩⟩ := record_cases hRecord
  · exact absurd hId (Nat.ne_of_lt (h.streamNumbered record.id hLast))
  · rw [Task.isStreaming_of_resume hTurn hNext]
    exact h.lastStreams _ (h.task?_eq_some.mp hTask) hLast

/-- After a turn its task waits where the turn stopped. -/
theorem mem_step_self (h : system.WellFormed) {settings : Settings M}
    {action : Action M H B} {record : Record M H B}
    (hRecord : system.record? settings action = some record)
    (hKind : ∀ task, record.turn.step = .wait task → task.isStreaming = false)
    (task : Task M H B) :
    (record.id, task) ∈ (system.step settings action).1.tasks ↔
      record.turn.step = .wait task := by
  rw [step_of_record hRecord]
  constructor
  · intro hMem
    rcases mem_of_mem_settle hMem with hOld | ⟨hNew, _⟩
    · rcases mem_replace.mp hOld with ⟨_, hNe⟩ | ⟨_, hStep⟩
      · exact absurd rfl hNe
      · exact hStep
    · exact absurd hNew (Nat.ne_of_lt (h.numbered_of_record hRecord))
  · intro hStep
    refine (h.enroll action).mem_settle ?_ ?_ (hKind task hStep)
      (mem_replace.mpr (Or.inr ⟨rfl, hStep⟩))
    · rw [enroll_shared]
      exact keeps_record hRecord
    · intro next hNext hLast
      rw [enroll_shared] at hLast
      exact h.streaming_of_record hRecord hNext hLast

/-- A turn of another task neither ends a call nor moves it. -/
theorem mem_step_other (h : system.WellFormed) {settings : Settings M}
    {action : Action M H B} {record : Record M H B}
    (hRecord : system.record? settings action = some record) {id : TaskId}
    (hId : id < system.next) (hNe : record.id ≠ id)
    (hKind : ∀ task, (id, task) ∈ system.tasks → task.isStreaming = false)
    (task : Task M H B) :
    (id, task) ∈ (system.step settings action).1.tasks ↔ (id, task) ∈ system.tasks := by
  rw [step_of_record hRecord]
  constructor
  · intro hMem
    rcases mem_of_mem_settle hMem with hOld | ⟨hNew, _⟩
    · rcases mem_replace.mp hOld with ⟨hTasks, _⟩ | ⟨hEq, _⟩
      · rwa [enroll_tasks] at hTasks
      · exact absurd hEq.symm hNe
    · exact absurd hNew (Nat.ne_of_lt (Nat.lt_of_lt_of_le hId (le_enroll_next system action)))
  · intro hMem
    refine (h.enroll action).mem_settle ?_ ?_ (hKind task hMem)
      (mem_replace.mpr (Or.inl ⟨by rwa [enroll_tasks], hNe.symm⟩))
    · rw [enroll_shared]
      exact keeps_record hRecord
    · intro next hNext hLast
      rw [enroll_shared] at hLast
      exact h.streaming_of_record hRecord hNext hLast

/-- Every action keeps the tasks well formed. -/
theorem step (h : system.WellFormed) (settings : Settings M) (action : Action M H B) :
    (system.step settings action).1.WellFormed := by
  cases hRecord : system.record? settings action with
  | none => rwa [step_of_no_record hRecord]
  | some record =>
      rw [step_of_record hRecord]
      refine (h.enroll action).settle (h.numbered_of_record hRecord) ?_ ?_
      · rw [enroll_shared]
        exact keeps_record hRecord
      · intro next hNext hLast
        rw [enroll_shared] at hLast
        exact h.streaming_of_record hRecord hNext hLast

theorem run (settings : Settings M) (actions : List (Action M H B)) :
    (System.run settings {} actions).1.WellFormed :=
  run_induction settings (motive := fun system _ => system.WellFormed) wellFormed_start
    (fun _ _ action h => h.step settings action) actions

end WellFormed

theorem le_settle_next (system : System M H B) (id : TaskId) (turn : Turn M H B) :
    system.next ≤ (system.settle id turn).1.next := by
  cases hStream : turn.stream with
  | none => simp [settle_of_no_stream hStream]
  | some stream =>
      obtain ⟨handler, decoder, body⟩ := stream
      simp [settle_of_stream hStream]

theorem le_step_next (system : System M H B) (settings : Settings M) (action : Action M H B) :
    system.next ≤ (system.step settings action).1.next := by
  cases hRecord : system.record? settings action with
  | none => simp [step_of_no_record hRecord]
  | some record =>
      rw [step_of_record hRecord]
      exact Nat.le_trans (le_enroll_next system action) (le_settle_next _ _ _)

/-- Opening a stream changes which stream task is the last, and nothing else that
is shared. -/
theorem settle_shared (system : System M H B) (id : TaskId) (turn : Turn M H B) :
    ∃ streamTask, (system.settle id turn).1.shared = { turn.shared with streamTask } := by
  cases hStream : turn.stream with
  | none => exact ⟨turn.shared.streamTask, by rw [settle_of_no_stream hStream]⟩
  | some stream =>
      obtain ⟨handler, decoder, body⟩ := stream
      exact ⟨some system.next, by rw [settle_of_stream hStream]⟩

theorem settle_leads (system : System M H B) (id : TaskId) (turn : Turn M H B) :
    turn.shared.Leads (system.settle id turn).1.shared := by
  obtain ⟨streamTask, hShared⟩ := settle_shared system id turn
  rw [hShared]
  exact ⟨fun h => h, fun h => h⟩

/-- A tripped latch and the closed state outlast every action. -/
theorem step_leads (system : System M H B) (settings : Settings M) (action : Action M H B) :
    system.shared.Leads (system.step settings action).1.shared := by
  cases hRecord : system.record? settings action with
  | none =>
      rw [step_of_no_record hRecord]
      exact .refl system.shared
  | some record =>
      rw [step_of_record hRecord]
      exact (keeps_record hRecord).toLeads.trans (settle_leads _ _ _)

theorem run_leads (system : System M H B) (settings : Settings M)
    (actions : List (Action M H B)) :
    system.shared.Leads (system.run settings actions).1.shared := by
  induction actions generalizing system with
  | nil => exact .refl system.shared
  | cons action actions ih => exact (system.step_leads settings action).trans (ih _)

/-- What was shared before a turn outlasted all that came before it. -/
theorem leads_of_mem_history {settings : Settings M} {system : System M H B}
    {actions : List (Action M H B)} {record : Record M H B}
    (h : record ∈ system.history settings actions) : system.shared.Leads record.before := by
  obtain ⟨before, action, after, _, hRecord⟩ := record_of_mem_history h
  rw [(record_cases hRecord).1]
  exact system.run_leads settings before

end System

end RpcTransport.Transport
