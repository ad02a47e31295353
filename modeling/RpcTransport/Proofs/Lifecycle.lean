import RpcTransport.Proofs.Change

/-! The state tells how many connect sequences are under way and whether a stream task runs. -/
namespace RpcTransport

/-- The moves of the connection state. Nothing leaves the closed state. -/
inductive ConnectionState.Follows : ConnectionState → ConnectionState → Prop where
  | stays (state : ConnectionState) : Follows state state
  | begins : Follows .disconnected .connecting
  | succeeds : Follows .connecting .connected
  | fails : Follows .connecting .disconnected
  | breaks : Follows .connected .disconnected
  | closes (state : ConnectionState) : Follows state .closed

namespace Transport

variable {M H B : Type}

/-- The turn is the last one of a connect sequence. -/
def Record.endsConnect (record : Record M H B) : Bool :=
  record.origin.phase = .connecting ∧ record.turn.phase ≠ .connecting

namespace System

/-- One if a task is in the phase, and zero otherwise. -/
def tally (phase current : Phase) : Nat :=
  if current = phase then 1 else 0

/-- The number of tasks in a phase. -/
def count (phase : Phase) (system : System M H B) : Nat :=
  system.tasks.countP fun entry => entry.2.phase = phase

/-- The turn with which the last connect sequence so far ended. -/
def lastConnect (history : List (Record M H B)) : Option (Record M H B) :=
  (history.filter (·.endsConnect)).getLast?

theorem countP_cons (phase : Phase) (entry : TaskId × Task M H B)
    (tasks : List (TaskId × Task M H B)) :
    (entry :: tasks).countP (fun entry => entry.2.phase = phase) =
      tasks.countP (fun entry => entry.2.phase = phase) + tally phase entry.2.phase := by
  by_cases h : entry.2.phase = phase <;> simp [tally, h]

theorem countP_entries {phase : Phase} (hPhase : phase ≠ .other) (id : TaskId)
    (turn : Turn M H B) :
    (turn.entries id).countP (fun entry => entry.2.phase = phase) = tally phase turn.phase := by
  rcases turn with ⟨shared, task | result, stream⟩
  · exact (countP_cons phase (id, task) []).trans (Nat.zero_add _)
  · simp [Turn.entries, Turn.task?, Turn.phase, tally, Ne.symm hPhase]

/-- A task that waits under a number of its own is counted once. -/
theorem WellFormed.count_eq {system : System M H B} (h : system.WellFormed) {id : TaskId}
    {task : Task M H B} (hMem : (id, task) ∈ system.tasks) (phase : Phase) :
    system.count phase =
      (system.tasks.filter (fun entry => entry.1 ≠ id)).countP
          (fun entry => entry.2.phase = phase) + tally phase task.phase := by
  obtain ⟨before, after, hTasks⟩ := List.append_of_mem hMem
  have hDistinct := h.distinct
  rw [hTasks, List.map_append, List.nodup_append] at hDistinct
  have hBefore : before.filter (fun entry => entry.1 ≠ id) = before := by
    apply List.filter_eq_self.mpr
    intro entry hEntry
    simpa using hDistinct.2.2 entry.1 (List.mem_map_of_mem hEntry) id (by simp)
  have hAfter : after.filter (fun entry => entry.1 ≠ id) = after := by
    apply List.filter_eq_self.mpr
    intro entry hEntry
    have hNotMem := (List.nodup_cons.mp hDistinct.2.1).1
    simp only [ne_eq, decide_eq_true_eq]
    intro hEq
    exact hNotMem (List.mem_map.mpr ⟨entry, hEntry, hEq⟩)
  unfold count
  rw [hTasks, List.filter_append, List.filter_cons]
  simp only [hBefore, hAfter, List.countP_append, countP_cons, ne_eq, not_true_eq_false,
    decide_false, Bool.false_eq_true, ite_false]
  omega

/-- A turn takes its task from the phase that it was in to the one that it reaches. -/
theorem countP_replace {settings : Settings M} {system : System M H B}
    {action : Action M H B} {record : Record M H B} (h : system.WellFormed)
    (hRecord : system.record? settings action = some record) (phase : Phase)
    (hPhase : phase ≠ .other) :
    (system.replace record.id record.turn).countP (fun entry => entry.2.phase = phase) +
        tally phase record.origin.phase =
      system.count phase + tally phase record.turn.phase := by
  rw [replace, List.countP_append, countP_entries hPhase]
  obtain ⟨_, ⟨call, _, hId, hOrigin, _⟩ | ⟨task, reply, _, hTask, hOrigin, _⟩⟩ :=
    record_cases hRecord
  · have hAll : system.tasks.filter (fun entry => entry.1 ≠ record.id) = system.tasks := by
      apply List.filter_eq_self.mpr
      intro entry hEntry
      have hLt := h.numbered entry hEntry
      simpa [hId] using Nat.ne_of_lt hLt
    rw [hAll, hOrigin]
    simp [Origin.phase, Ne.symm hPhase, count, tally]
  · rw [h.count_eq (h.task?_eq_some.mp hTask) phase, hOrigin]
    simp only [Origin.phase]
    omega

/-- How state and tasks belong together. -/
def Accounted (system : System M H B) (history : List (Record M H B)) : Prop :=
  match system.shared.state with
  | .disconnected => system.count .connecting = 0 ∧ system.count .streaming = 0
  | .connecting => system.count .connecting = 1 ∧ system.count .streaming = 0
  | .connected => system.count .connecting = 0 ∧ (system.count .streaming = 1 ∨
      system.count .streaming = 0 ∧ ∃ record, lastConnect history = some record ∧
        record.origin.Accepts)
  | .closed => system.count .connecting + system.count .streaming ≤ 1

/-- Without a stream task a new one takes no place but its own. -/
theorem WellFormed.settle_of_stream_of_idle {system : System M H B} (h : system.WellFormed)
    {id : TaskId} {turn : Turn M H B} (hKeeps : system.shared.Keeps turn.shared)
    (hKind : ∀ task, turn.step = .wait task → system.shared.streamTask = some id →
      task.isStreaming = true)
    (hIdle : (system.replace id turn).countP (fun entry => entry.2.phase = .streaming) = 0)
    {task : Task M H B} (hSpawned : turn.spawned? = some task) :
    (system.settle id turn).1.tasks = system.replace id turn ++ [(system.next, task)] := by
  obtain ⟨⟨handler, decoder, body⟩, hStream, rfl⟩ := Option.map_eq_some_iff.mp hSpawned
  rw [settle_of_stream hStream]
  refine congrArg (· ++ _) (List.filter_eq_self.mpr ?_)
  intro entry hEntry
  have hPhase := List.countP_eq_zero.mp hIdle entry hEntry
  simp only [hKeeps.streamTask, ne_eq, decide_eq_true_eq] at hPhase ⊢
  intro hLast
  apply hPhase
  apply Task.isStreaming_iff.mp
  rcases WellFormed.mem_replace.mp hEntry with ⟨hOld, _⟩ | ⟨hEq, hStep⟩
  · exact h.lastStreams entry hOld hLast.symm
  · exact hKind entry.2 hStep (hEq ▸ hLast.symm)

/-- A turn that opens no stream moves its own task between the phases. -/
theorem count_step {settings : Settings M} {system : System M H B} {action : Action M H B}
    {record : Record M H B} (h : system.WellFormed)
    (hRecord : system.record? settings action = some record)
    (hStream : record.turn.stream = none) (phase : Phase) (hPhase : phase ≠ .other) :
    (system.step settings action).1.count phase + tally phase record.origin.phase =
      system.count phase + tally phase record.turn.phase := by
  rw [step_of_record hRecord, settle_of_no_stream hStream, count, replace, enroll_tasks]
  exact countP_replace h hRecord phase hPhase

/-- A turn that ends a connect sequence with a stream puts a stream task in its place. -/
theorem count_step_of_stream {settings : Settings M} {system : System M H B}
    {action : Action M H B} {record : Record M H B} (h : system.WellFormed)
    (hRecord : system.record? settings action = some record)
    (hStream : record.turn.stream.isSome) (hSource : record.origin.phase = .connecting)
    (hTarget : record.turn.phase = .other) (hIdle : system.count .streaming = 0) :
    (system.step settings action).1.count .connecting + 1 = system.count .connecting ∧
      (system.step settings action).1.count .streaming = 1 := by
  have hReplace : (system.enroll action).replace record.id record.turn =
      system.replace record.id record.turn := by simp [replace]
  have hConnecting := countP_replace h hRecord .connecting (by decide)
  have hStreaming := countP_replace h hRecord .streaming (by decide)
  rw [hSource, hTarget] at hConnecting hStreaming
  simp only [tally, reduceCtorEq, ite_true, ite_false, Nat.add_zero] at hConnecting hStreaming
  rw [hIdle] at hStreaming
  obtain ⟨stream, hSome⟩ := Option.isSome_iff_exists.mp hStream
  have hKeeps : (system.enroll action).shared.Keeps record.turn.shared := by
    rw [enroll_shared]
    exact keeps_record hRecord
  have hTasks := (h.enroll action).settle_of_stream_of_idle hKeeps
    (fun next hNext hLast => h.streaming_of_record hRecord hNext (by rwa [enroll_shared] at hLast))
    (by rw [hReplace]; exact hStreaming) (congrArg (Option.map _) hSome)
  have hCount : ∀ phase, (system.step settings action).1.count phase =
      (system.replace record.id record.turn).countP (fun entry => entry.2.phase = phase) +
        tally phase .streaming := by
    intro phase
    rw [step_of_record hRecord, count, hTasks, hReplace, List.countP_append, countP_cons]
    exact congrArg _ (Nat.zero_add _)
  rw [hCount, hCount, hStreaming]
  exact ⟨hConnecting, rfl⟩

theorem lastConnect_of_ends {record : Record M H B} (history : List (Record M H B))
    (h : record.endsConnect = true) : lastConnect (history ++ [record]) = some record := by
  simp [lastConnect, h]

theorem lastConnect_of_not_ends {record : Record M H B} (history : List (Record M H B))
    (h : record.endsConnect = false) :
    lastConnect (history ++ [record]) = lastConnect history := by
  simp [lastConnect, h]

theorem Accounted.le_one {system : System M H B} {history : List (Record M H B)}
    (h : system.Accounted history) :
    system.count .connecting + system.count .streaming ≤ 1 := by
  unfold Accounted at h
  split at h
  · omega
  · omega
  · omega
  · exact h

theorem Accounted.state_of_connecting {system : System M H B} {history : List (Record M H B)}
    (h : system.Accounted history) (hCount : 0 < system.count .connecting) :
    system.shared.state = .connecting ∨ system.shared.state = .closed := by
  unfold Accounted at h
  split at h
  · omega
  · exact Or.inl ‹_›
  · omega
  · exact Or.inr ‹_›

theorem Accounted.state_of_streaming {system : System M H B} {history : List (Record M H B)}
    (h : system.Accounted history) (hCount : 0 < system.count .streaming) :
    system.shared.state = .connected ∨ system.shared.state = .closed := by
  unfold Accounted at h
  split at h
  · omega
  · omega
  · exact Or.inl ‹_›
  · exact Or.inr ‹_›

/-- A turn that changes neither the state nor the phase of its task. -/
theorem Accounted.of_same {system next : System M H B} {history : List (Record M H B)}
    {record : Record M H B} (h : system.Accounted history)
    (hState : next.shared.state = system.shared.state)
    (hConnecting : next.count .connecting = system.count .connecting)
    (hStreaming : next.count .streaming = system.count .streaming)
    (hLast : record.endsConnect = false) : next.Accounted (history ++ [record]) := by
  unfold Accounted at h ⊢
  rwa [hState, hConnecting, hStreaming, lastConnect_of_not_ends history hLast]

/-- The lifecycle of one turn: state and tasks keep belonging together, and the state
makes one of its moves. -/
theorem accounted_of_record {settings : Settings M} {system : System M H B}
    {history : List (Record M H B)} {action : Action M H B} {record : Record M H B}
    (h : system.WellFormed) (hAccounted : system.Accounted history)
    (hRecord : system.record? settings action = some record) :
    (system.step settings action).1.Accounted (history ++ [record]) ∧
      system.shared.state.Follows (system.step settings action).1.shared.state := by
  obtain ⟨streamTask, hShared⟩ := settle_shared (system.enroll action) record.id record.turn
  have hState : (system.step settings action).1.shared.state = record.turn.shared.state := by
    rw [step_of_record hRecord, hShared]
  have hMoves (hStream : record.turn.stream = none) :=
    And.intro (count_step h hRecord hStream .connecting (by decide))
      (count_step h hRecord hStream .streaming (by decide))
  have hOne := hAccounted.le_one
  rw [hState]
  cases change_of_record hRecord with
  | stays phase after stream =>
      obtain ⟨hConnecting, hStreaming⟩ := hMoves stream
      rw [phase] at hConnecting hStreaming
      refine ⟨hAccounted.of_same (hState.trans after) ?_ ?_ ?_, after ▸ .stays _⟩
      · omega
      · omega
      · simp [Record.endsConnect, phase]
  | begins source before phase after stream =>
      obtain ⟨hConnecting, hStreaming⟩ := hMoves stream
      simp only [Accounted, hState, after, before, source, phase, tally, reduceCtorEq,
        ite_true, ite_false] at hAccounted hConnecting hStreaming ⊢
      exact ⟨by omega, .begins⟩
  | opens source before phase after stream =>
      simp only [Accounted, before] at hAccounted
      obtain ⟨hConnecting, hStreaming⟩ :=
        count_step_of_stream h hRecord stream source phase hAccounted.2
      simp only [Accounted, hState, after, before]
      exact ⟨⟨by omega, Or.inl hStreaming⟩, .succeeds⟩
  | accepts source before phase after stream cause =>
      obtain ⟨hConnecting, hStreaming⟩ := hMoves stream
      have hEnds : record.endsConnect = true := by simp [Record.endsConnect, source, phase]
      simp only [Accounted, hState, after, before, source, phase, tally, reduceCtorEq,
        ite_true, ite_false, lastConnect_of_ends history hEnds]
        at hAccounted hConnecting hStreaming ⊢
      exact ⟨⟨by omega, Or.inr ⟨by omega, record, rfl, cause⟩⟩, .succeeds⟩
  | fails source before phase after stream =>
      obtain ⟨hConnecting, hStreaming⟩ := hMoves stream
      simp only [Accounted, hState, after, before, source, phase, tally, reduceCtorEq,
        ite_true, ite_false] at hAccounted hConnecting hStreaming ⊢
      exact ⟨by omega, .fails⟩
  | ends source before phase after stream =>
      obtain ⟨hConnecting, hStreaming⟩ := hMoves stream
      simp only [Accounted, hState, before, source, phase, tally, reduceCtorEq,
        ite_true, ite_false] at hAccounted hConnecting hStreaming ⊢
      rcases after with after | after
      · rw [after]
        exact ⟨by omega, .breaks⟩
      · rw [after]
        exact ⟨by omega, .closes _⟩
  | drops source phase after stream =>
      obtain ⟨hConnecting, hStreaming⟩ := hMoves stream
      -- Only the closed state has a task whose phase does not belong to it.
      have hClosed : system.shared.state = .closed := by
        rcases source with ⟨hSource, hNe⟩ | ⟨hSource, hNe⟩
        · apply (hAccounted.state_of_connecting ?_).resolve_left hNe
          simp only [hSource, phase, tally, reduceCtorEq, ite_true, ite_false] at hConnecting
          omega
        · apply (hAccounted.state_of_streaming ?_).resolve_left hNe
          simp only [hSource, phase, tally, reduceCtorEq, ite_true, ite_false] at hStreaming
          omega
      simp only [Accounted, hState, after, hClosed, phase, tally, reduceCtorEq,
        ite_false] at hConnecting hStreaming ⊢
      exact ⟨by omega, .stays _⟩
  | closes source phase after stream =>
      obtain ⟨hConnecting, hStreaming⟩ := hMoves stream
      simp only [Accounted, hState, after, source, phase, tally, reduceCtorEq,
        ite_false] at hConnecting hStreaming ⊢
      exact ⟨by omega, .closes _⟩

theorem accounted_step {settings : Settings M} {system : System M H B}
    {history : List (Record M H B)} (h : system.WellFormed)
    (hAccounted : system.Accounted history) (action : Action M H B) :
    (system.step settings action).1.Accounted
        (history ++ (system.record? settings action).toList) ∧
      system.shared.state.Follows (system.step settings action).1.shared.state := by
  cases hRecord : system.record? settings action with
  | none =>
      rw [step_of_no_record hRecord, Option.toList_none, List.append_nil]
      exact ⟨hAccounted, .stays _⟩
  | some record =>
      rw [Option.toList_some]
      exact accounted_of_record h hAccounted hRecord

theorem accounted_run (settings : Settings M) (actions : List (Action M H B)) :
    (run settings {} actions).1.WellFormed ∧
      (run settings {} actions).1.Accounted (history settings {} actions) :=
  run_induction settings
    (motive := fun system past => system.WellFormed ∧ system.Accounted past)
    ⟨wellFormed_start, rfl, rfl⟩
    (fun _ _ action h => ⟨h.1.step settings action, (accounted_step h.1 h.2 action).1⟩) actions

/-- What the state of a transport tells about the tasks that wait. -/
structure Lifecycle (system : System M H B) (history : List (Record M H B)) : Prop where
  oneConnect : system.count .connecting ≤ 1
  oneStream : system.count .streaming ≤ 1
  connecting : system.shared.state = .connecting →
    system.count .connecting = 1 ∧ system.count .streaming = 0
  disconnected : system.shared.state = .disconnected →
    system.count .connecting = 0 ∧ system.count .streaming = 0
  streaming : 0 < system.count .streaming →
    system.shared.state = .connected ∨ system.shared.state = .closed
  /-- Without a stream the last connect sequence has ended with status 202 or with
  a legacy transport that connected. -/
  connected : system.shared.state = .connected → system.count .streaming = 1 ∨
    ∃ record, lastConnect history = some record ∧ record.origin.Accepts

theorem Accounted.lifecycle {system : System M H B} {history : List (Record M H B)}
    (hAccounted : system.Accounted history) : system.Lifecycle history := by
  have hOne := hAccounted.le_one
  have h := hAccounted
  unfold Accounted at h
  refine ⟨by omega, by omega, ?_, ?_, ?_, ?_⟩
  · intro hState
    simpa [hState] using h
  · intro hState
    simpa [hState] using h
  · exact hAccounted.state_of_streaming
  · intro hState
    simp only [hState] at h
    exact h.2.imp_right And.right

/-- In every reachable state the lifecycle holds, and every action moves the state
along one of its edges. -/
theorem lifecycle_run (settings : Settings M) (actions : List (Action M H B)) :
    (run settings {} actions).1.Lifecycle (history settings {} actions) ∧
      ∀ action, (run settings {} actions).1.shared.state.Follows
        ((run settings {} actions).1.step settings action).1.shared.state := by
  obtain ⟨hWellFormed, hAccounted⟩ := accounted_run settings actions
  exact ⟨hAccounted.lifecycle, fun action => (accounted_step hWellFormed hAccounted action).2⟩

end System

end Transport

end RpcTransport
