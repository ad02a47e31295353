import RpcTransport.Proofs.Life
import RpcTransport.Proofs.Lifecycle

namespace RpcTransport.Transport

variable {M H B : Type}

/-- The turn changes nothing that is shared. -/
def Record.Untouched (record : Record M H B) : Prop :=
  record.turn.shared = record.before

/-- The first turn of a connect. It returns an error, or the connect waits: for the legacy
transport with a tripped latch, and within the connect sequence otherwise. -/
theorem Call.Starts.connect_cases {settings : Settings M} {shared : Shared H} {handler : H}
    {turn : Turn M H B} (h : Starts settings shared (.connect handler) turn) :
    (∃ error, turn = .returned shared (.error error)) ∨
      (shared.latch.tripped = true ∧
        turn = ⟨shared, .wait (.legacyConnecting handler), none⟩) ∨
      (shared.latch.tripped = false ∧
        ∃ later point, turn = ⟨later, .wait (.connecting handler point), none⟩) := by
  cases h with
  | legacyConnecting handler tripped => exact .inr (.inl ⟨tripped, rfl⟩)
  | refused handler error => exact .inl ⟨error, rfl⟩
  | connecting handler untripped idle =>
      rw [Connecting.start_eq { shared with state := .connecting } (some handler) rfl untripped]
      exact .inr (.inr ⟨untripped, _, _, rfl⟩)
  | sending sends => cases sends

/-- A connect sequence that succeeds connects the transport, or finds it closed. -/
theorem Connecting.Change.state_of_ok {accepted : Prop} {state : ConnectionState}
    {turn : Shared H × Step Connecting (Connected B)} (h : Change accepted state turn)
    (hState : state = .connecting ∨ state = .closed) {handler : H}
    (hOk : (Turn.ofConnecting handler turn : Turn M H B).result? = some (.ok ())) :
    state = .connecting ∧ turn.1.state = .connected ∨
      state = .closed ∧ turn.1.state = .closed := by
  cases h with
  | stays after => cases hOk
  | opens before after => exact .inl ⟨before, after⟩
  | accepts before after cause => exact .inl ⟨before, after⟩
  | fails before after => cases hOk
  | drops before after =>
      have hClosed := hState.resolve_left before
      exact .inr ⟨hClosed, after.trans hClosed⟩

namespace Life

variable {settings : Settings M} {id : TaskId} {handler : H} {begun : Shared H}
  {past : List (Record M H B)} {last : Record M H B}

/-- With an untripped latch a connect waits within its connect sequence. -/
theorem connecting_of_untripped (life : Life settings id (.connect handler) begun past last)
    (hUntripped : begun.latch.tripped = false) {task : Task M H B}
    (hTask : last.turn.step = .wait task) : ∃ point, task = .connecting handler point := by
  induction life generalizing task with
  | start =>
      rcases (Call.starts (B := B) settings begun (.connect handler)).connect_cases with
        ⟨error, hTurn⟩ | ⟨hTripped, _⟩ | ⟨_, later, point, hTurn⟩
      · rw [hTurn] at hTask
        cases hTask
      · simp [hUntripped] at hTripped
      · rw [hTurn] at hTask
        cases hTask
        exact ⟨point, rfl⟩
  | resume prior waits leads resumes ih =>
      obtain ⟨point, rfl⟩ := ih waits
      cases Task.resumes resumes with
      | connecting resumed =>
          obtain ⟨next, _, rfl⟩ := Turn.ofConnecting_eq_wait.mp hTask
          exact ⟨next, rfl⟩

/-- With a tripped latch a connect waits for the legacy transport and changes nothing. -/
theorem untouched_of_tripped (life : Life settings id (.connect handler) begun past last)
    (hTripped : begun.latch.tripped = true) :
    (∀ task, last.turn.step = .wait task → task = .legacyConnecting handler) ∧
      ∀ record ∈ past ++ [last], record.Untouched := by
  induction life with
  | start =>
      rcases (Call.starts (B := B) settings begun (.connect handler)).connect_cases with
        ⟨error, hTurn⟩ | ⟨_, hTurn⟩ | ⟨hUntripped, _⟩
      · rw [hTurn]
        refine ⟨fun task hTask => ?_, fun record hMem => ?_⟩
        · cases hTask
        · rw [List.mem_singleton.mp hMem]
          rfl
      · rw [hTurn]
        refine ⟨fun task hTask => ?_, fun record hMem => ?_⟩
        · cases hTask
          rfl
        · rw [List.mem_singleton.mp hMem]
          rfl
      · simp [hTripped] at hUntripped
  | resume prior waits leads resumes ih =>
      obtain ⟨hWaits, hUntouched⟩ := ih
      obtain rfl := hWaits _ waits
      cases Task.resumes resumes with
      | legacyConnecting handler result =>
          refine ⟨fun task hTask => ?_, fun record hMem => ?_⟩
          · cases hTask
          · rcases List.mem_append.mp hMem with hPast | hLast
            · exact hUntouched record hPast
            · rw [List.mem_singleton.mp hLast]
              rfl

end Life

namespace System

/-- While a connect sequence waits the transport is connecting, unless it was closed. -/
theorem state_of_connecting {settings : Settings M} {actions : List (Action M H B)}
    {record : Record M H B} (hMem : record ∈ history settings {} actions)
    (hPhase : record.origin.phase = .connecting) :
    record.before.state = .connecting ∨ record.before.state = .closed := by
  obtain ⟨earlier, action, later, _, hRecord⟩ := record_of_mem_history hMem
  obtain ⟨hWellFormed, hAccounted⟩ := accounted_run settings earlier
  obtain ⟨hBefore, ⟨call, _, _, hOrigin, _⟩ | ⟨task, reply, _, hTask, hOrigin, _⟩⟩ :=
    record_cases hRecord
  · rw [hOrigin] at hPhase
    cases hPhase
  · rw [hOrigin] at hPhase
    rw [hBefore]
    refine hAccounted.state_of_connecting ?_
    have hPhase : task.phase = .connecting := hPhase
    rw [hWellFormed.count_eq (hWellFormed.task?_eq_some.mp hTask), tally, if_pos hPhase]
    exact Nat.succ_pos _

/-- The state in which a connect returns with success. If the latch was not tripped when it
began, the transport was connecting and is connected now, or it had been closed. Otherwise no
turn of the connect changes anything, and so the state is whatever it was. -/
theorem connected_of_ok {settings : Settings M} {actions : List (Action M H B)}
    {record returning : Record M H B} {handler : H}
    (hMem : record ∈ history settings {} actions)
    (hBegan : record.origin = .began (.connect handler))
    (hReturning : returning ∈ own record.id (history settings {} actions))
    (hOk : returning.turn.result? = some (.ok ())) :
    (record.before.latch.tripped = false →
      returning.before.state = .connecting ∧ returning.turn.shared.state = .connected ∨
        returning.before.state = .closed ∧ returning.turn.shared.state = .closed) ∧
    (record.before.latch.tripped = true →
      ∀ turn ∈ own record.id (history settings {} actions), turn.Untouched) := by
  obtain ⟨past, last, hOwn, life, _⟩ := life_of_began hMem hBegan
  have hFound : returning ∈ history settings {} actions := (List.mem_filter.mp hReturning).1
  rw [hOwn] at hReturning ⊢
  refine ⟨fun hUntripped => ?_, fun hTripped => (life.untouched_of_tripped hTripped).2⟩
  -- A call returns in its last turn, and this one cannot be its first.
  have hLast : returning = last := by
    rcases List.mem_append.mp hReturning with hPast | hLast
    · simp [life.not_returned hPast] at hOk
    · exact List.mem_singleton.mp hLast
  subst hLast
  cases life with
  | start =>
      rcases (Call.starts (B := B) settings record.before (.connect handler)).connect_cases with
        ⟨error, hTurn⟩ | ⟨hTripped, _⟩ | ⟨_, later, point, hTurn⟩
      · rw [hTurn] at hOk
        cases hOk
      · simp [hUntripped] at hTripped
      · rw [hTurn] at hOk
        cases hOk
  | resume prior waits leads resumes =>
      obtain ⟨point, rfl⟩ := prior.connecting_of_untripped hUntripped waits
      have hState := state_of_connecting hFound rfl
      cases Task.resumes resumes with
      | connecting resumed =>
          rw [Turn.ofConnecting_shared]
          exact (Connecting.change_resume resumed).state_of_ok hState hOk

namespace Sample

/-- A connect that finds no endpoint and goes over to the legacy transport. -/
def fallingBack : List (Action String String Unit) :=
  [.call (.connect "first"), .reply 0 (.answer (.ok ⟨404, [], ()⟩))]

/-- The legacy transport connects for the first connect, and then for a second one. -/
def reconnecting : List (Action String String Unit) :=
  fallingBack ++ [.reply 0 (.legacy (.ok ())), .call (.connect "second"),
    .reply 1 (.legacy (.ok ()))]

end Sample

theorem connected_of_ok_twice :
    let all := history (Settings.plain true) {} Sample.reconnecting
    (∃ record ∈ own 0 all, record.turn.result? = some (.ok ()) ∧
      (record.before.state = .connecting ∧ record.turn.shared.state = .connected ∨
        record.before.state = .closed ∧ record.turn.shared.state = .closed)) ∧
    (∃ record ∈ own 1 all, record.turn.result? = some (.ok ())) ∧
      ∀ record ∈ own 1 all, record.Untouched := by
  intro all
  have hFirst : all[0] ∈ all := List.getElem_mem _
  have hSecond : all[3] ∈ all := List.getElem_mem _
  have hReturning : all[2] ∈ own 0 all := .tail _ (.tail _ (.head _))
  have hReturned : all[4] ∈ own 1 all := .tail _ (.head _)
  exact ⟨⟨_, hReturning, rfl, (connected_of_ok hFirst rfl hReturning rfl).1 rfl⟩,
    ⟨_, hReturned, rfl⟩, (connected_of_ok hSecond rfl hReturned rfl).2 rfl⟩

/-- A connect with a tripped latch succeeds on a transport that is disconnected, because the
legacy transport had failed before, and on one that is connecting, because another connect
still waits for the legacy transport. -/
theorem ok_of_unconnected :
    (∃ record ∈ own 1 (history (Settings.plain true) {} (Sample.fallingBack ++
        [.reply 0 (.legacy (.error (.legacy "down"))), .call (.connect "second"),
          .reply 1 (.legacy (.ok ()))])),
      record.turn.result? = some (.ok ()) ∧ record.turn.shared.state = .disconnected) ∧
    ∃ record ∈ own 1 (history (Settings.plain true) {} (Sample.fallingBack ++
        [.call (.connect "second"), .reply 1 (.legacy (.ok ()))])),
      record.turn.result? = some (.ok ()) ∧ record.turn.shared.state = .connecting := by
  decide +kernel

end System

end RpcTransport.Transport
