import RpcTransport.Proofs.Tasks

/-! What a turn does to the connection state, part by part. -/
namespace RpcTransport

/-- Only status 202 needs no decoder. -/
theorem Decoder.status_of_select {β : Type} {response : Http.Response β}
    (h : select response = .ok none) : response.status = 202 := by
  unfold select at h
  split at h
  · assumption
  · split at h
    · cases h
    · simp only at h
      split at h <;> cases h

namespace Transport

variable {M H B : Type}

/-- What a task has to do with the stream of the server. -/
inductive Phase where
  /-- A connect sequence is under way. -/
  | connecting
  /-- The stream is read or opened again. -/
  | streaming
  | other
  deriving DecidableEq

def Task.phase : Task M H B → Phase
  | .connecting _ _ => .connecting
  | .sending _ (.connecting _ _) => .connecting
  | .streaming _ _ => .streaming
  | _ => .other

theorem Task.isStreaming_iff {task : Task M H B} :
    task.isStreaming = true ↔ task.phase = .streaming := by
  rcases task with ⟨_, _⟩ | _ | ⟨_, _ | _ | _ | _⟩ | _ | ⟨_, _⟩ <;> simp [isStreaming, phase]

theorem Task.streaming_of_phase {task : Task M H B} (h : task.phase = .streaming) :
    ∃ owner point, task = .streaming owner point := by
  have hStreaming := isStreaming_iff.mpr h
  cases task with
  | streaming owner point => exact ⟨owner, point, rfl⟩
  | _ => cases hStreaming

def Turn.phase (turn : Turn M H B) : Phase :=
  match turn.step with
  | .wait task => task.phase
  | .done _ => .other

namespace Origin

def phase : Origin M H B → Phase
  | .began _ => .other
  | .resumed task _ => task.phase

/-- The server has accepted without a stream, or the legacy transport is connected. -/
def Accepts : Origin M H B → Prop
  | .resumed _ (.answer (.ok response)) => response.status = 202
  | .resumed task (.legacy (.ok ())) => ∃ handler, task.wait = .legacyConnect handler
  | _ => False

end Origin

/-- All that a turn can do to the state, with what it does to its task. -/
inductive Change (origin : Origin M H B) (state : ConnectionState) (turn : Turn M H B) : Prop
  | stays (phase : turn.phase = origin.phase) (after : turn.shared.state = state)
      (stream : turn.stream = none)
  | begins (source : origin.phase = .other) (before : state = .disconnected)
      (phase : turn.phase = .connecting) (after : turn.shared.state = .connecting)
      (stream : turn.stream = none)
  | opens (source : origin.phase = .connecting) (before : state = .connecting)
      (phase : turn.phase = .other) (after : turn.shared.state = .connected)
      (stream : turn.stream.isSome)
  | accepts (source : origin.phase = .connecting) (before : state = .connecting)
      (phase : turn.phase = .other) (after : turn.shared.state = .connected)
      (stream : turn.stream = none) (cause : origin.Accepts)
  | fails (source : origin.phase = .connecting) (before : state = .connecting)
      (phase : turn.phase = .other) (after : turn.shared.state = .disconnected)
      (stream : turn.stream = none)
  | ends (source : origin.phase = .streaming) (before : state = .connected)
      (phase : turn.phase = .other)
      (after : turn.shared.state = .disconnected ∨ turn.shared.state = .closed)
      (stream : turn.stream = none)
  /-- The transport was closed meanwhile. -/
  | drops (source : origin.phase = .connecting ∧ state ≠ .connecting ∨
        origin.phase = .streaming ∧ state ≠ .connected)
      (phase : turn.phase = .other) (after : turn.shared.state = state)
      (stream : turn.stream = none)
  | closes (source : origin.phase = .other) (phase : turn.phase = .other)
      (after : turn.shared.state = .closed) (stream : turn.stream = none)

/-- What a turn of a connect sequence can do to the state. -/
inductive Connecting.Change (accepted : Prop) (state : ConnectionState) :
    Shared H × Step Connecting (Connected B) → Prop
  | stays {shared : Shared H} {point : Connecting} (after : shared.state = state) :
      Change accepted state (shared, .wait point)
  | opens {shared : Shared H} {stream : Decoder × B} (before : state = .connecting)
      (after : shared.state = .connected) :
      Change accepted state (shared, .done ⟨.ok (), some stream⟩)
  | accepts {shared : Shared H} (before : state = .connecting)
      (after : shared.state = .connected) (cause : accepted) :
      Change accepted state (shared, .done ⟨.ok (), none⟩)
  | fails {shared : Shared H} {error : Error} (before : state = .connecting)
      (after : shared.state = .disconnected) :
      Change accepted state (shared, .done ⟨.error error, none⟩)
  | drops {shared : Shared H} {result : Except Error Unit} (before : state ≠ .connecting)
      (after : shared.state = state) : Change accepted state (shared, .done ⟨result, none⟩)

namespace Connecting

theorem change_leave (accepted : Prop) (shared : Shared H) (result : Except Error Unit)
    (h : result = .ok () → accepted) :
    Change (B := B) accepted shared.state
      (shared.leaveConnecting result.isOk, .done ⟨result, none⟩) := by
  by_cases hState : shared.state = .connecting
  · rcases result with error | _
    · exact .fails hState (by simp [Shared.leaveConnecting, Shared.moveIf,
        ConnectionState.moveIf, hState, Except.isOk, Except.toBool])
    · exact .accepts hState (by simp [Shared.leaveConnecting, Shared.moveIf,
        ConnectionState.moveIf, hState, Except.isOk, Except.toBool]) (h rfl)
  · exact .drops hState (by simp [Shared.leaveConnecting, Shared.moveIf,
      ConnectionState.moveIf, hState])

theorem change_afterOpening {settings : Settings M} {shared : Shared H}
    {step : Step Opening (Except Error (Opened B))} {accepted : Prop}
    (h : step = .done (.ok .accepted) → accepted) :
    Change accepted shared.state (afterOpening settings shared step) := by
  rcases step with point | (error | (⟨decoder, body⟩ | _ | reason))
  · exact .stays rfl
  · exact change_leave accepted shared (.error error) (by simp)
  · by_cases hState : shared.state = .connecting
    · simp only [afterOpening, ConnectionState.move, hState, ite_true]
      exact .opens rfl rfl
    · simp only [afterOpening, ConnectionState.move, hState, ite_false]
      exact .drops hState rfl
  · exact change_leave accepted shared (.ok ()) fun _ => h rfl
  · simp only [afterOpening]
    split
    · exact .stays rfl
    · exact change_leave accepted shared.trip (.error .noLegacy) (by simp)

end Connecting

namespace Opening

theorem result_of_settle {settings : Settings M} {retry : Nat}
    {result : Except Error (Opened B)} {opened : Opened B}
    (h : settle settings retry result = .done (.ok opened)) : result = .ok opened := by
  unfold settle at h
  split at h
  · cases h
    rfl
  · split at h <;> cases h

/-- No attempt is accepted before it was answered. -/
theorem done_of_attempt {settings : Settings M} {shared : Shared H} {retry : Nat}
    {opened : Opened B} (h : attempt settings shared retry = .done (.ok opened)) :
    opened = .fallback .noLegacy := by
  unfold attempt at h
  split at h
  · cases result_of_settle h
  · split at h
    · cases h
      rfl
    · cases h

theorem status_of_judge {answer : Except Error (Http.Response B)}
    (h : judge answer = .ok .accepted) :
    ∃ response, answer = .ok response ∧ response.status = 202 := by
  rcases answer with error | response
  · cases h
  · refine ⟨response, rfl, ?_⟩
    simp only [judge] at h
    split at h
    · cases h
    · rename_i hSelect
      exact Decoder.status_of_select hSelect
    · split at h <;> cases h

theorem accepted_of_resume {settings : Settings M} {shared : Shared H} {point : Opening}
    {reply : Reply B} (h : point.resume settings shared reply = some (.done (.ok .accepted))) :
    ∃ response, reply = .answer (.ok response) ∧ response.status = 202 := by
  generalize hStep : (Step.done (.ok .accepted) : Step Opening (Except Error (Opened B))) =
    step at h
  cases resumes h with
  | answered retry request answer =>
      obtain ⟨response, hAnswer, hStatus⟩ := status_of_judge (result_of_settle hStep.symm)
      exact ⟨response, by rw [hAnswer], hStatus⟩
  | elapsed retry delay => cases done_of_attempt hStep.symm

end Opening

theorem Connecting.change_resume {settings : Settings M} {shared : Shared H}
    {point : Connecting} {reply : Reply B} {turn : Shared H × Step Connecting (Connected B)}
    (h : point.resume settings shared reply = some turn) :
    Change ((∃ response, reply = .answer (.ok response) ∧ response.status = 202) ∨
      point = .legacy ∧ reply = .legacy (.ok ())) shared.state turn := by
  cases resumes h with
  | opening resumed =>
      apply change_afterOpening
      intro hAccepted
      left
      subst hAccepted
      exact Opening.accepted_of_resume resumed
  | legacy result =>
      apply change_leave
      intro hOk
      right
      exact ⟨rfl, by rw [hOk]⟩

/-- A connect sequence starts by sending its request. -/
theorem Connecting.start_eq {settings : Settings M} (shared : Shared H) (handler : Option H)
    (hState : shared.state = .connecting) (hLatch : shared.latch.tripped = false) :
    (start settings shared handler : Shared H × Step Connecting (Connected B)) =
      ({ shared with handler },
        .wait (.opening (.requesting 0 (settings.openRequest shared.token)))) := by
  simp [start, Opening.attempt, Shared.isClosed, hState, hLatch, afterOpening]

/-- A connect sequence that is a whole call. -/
theorem Turn.change_ofConnecting {origin : Origin M H B} {state : ConnectionState}
    {handler : H} {turn : Shared H × Step Connecting (Connected B)} {accepted : Prop}
    (hOrigin : origin.phase = .connecting) (hAccepted : accepted → origin.Accepts)
    (h : Connecting.Change accepted state turn) :
    Change origin state (.ofConnecting handler turn) := by
  cases h with
  | stays after => exact .stays hOrigin.symm after rfl
  | opens before after => exact .opens hOrigin before rfl after rfl
  | accepts before after cause => exact .accepts hOrigin before rfl after rfl (hAccepted cause)
  | fails before after => exact .fails hOrigin before rfl after rfl
  | drops before after => exact .drops (Or.inl ⟨hOrigin, before⟩) rfl after rfl

namespace Sending

/-- What a send does behind its connect sequence is not part of it. -/
theorem phase_forward (settings : Settings M) (message : M) (shared : Shared H)
    (handler : Option H) (stream : Option (Decoder × B)) :
    (Turn.ofSending handler ⟨shared, forward settings message, stream⟩).phase = .other := by
  unfold forward
  cases Forwarding.start settings message <;> rfl

theorem phase_post (settings : Settings M) (message : M) (shared : Shared H)
    (handler : Option H) (stream : Option (Decoder × B)) :
    (Turn.ofSending handler ⟨shared, post settings message, stream⟩).phase = .other := by
  unfold post
  cases settings.codec.encode message <;> rfl

theorem phase_afterConnecting (settings : Settings M) (message : M) (shared : Shared H)
    (handler : Option H) (connected : Connected B) :
    (Turn.ofSending handler
      (afterConnecting settings message (shared, .done connected))).phase = .other := by
  simp only [afterConnecting]
  split
  · rfl
  · split
    · exact phase_forward ..
    · split
      · rfl
      · exact phase_post ..

theorem change_afterConnecting {settings : Settings M} {origin : Origin M H B}
    {state : ConnectionState} {handler : Option H} {message : M}
    {turn : Shared H × Step Connecting (Connected B)} {accepted : Prop}
    (hOrigin : origin.phase = .connecting) (hAccepted : accepted → origin.Accepts)
    (h : Connecting.Change accepted state turn) :
    Change origin state (.ofSending handler (afterConnecting settings message turn)) := by
  have hPhase := phase_afterConnecting (H := H) (B := B) settings message
  cases h with
  | stays after => exact .stays hOrigin.symm after rfl
  | opens before after => exact .opens hOrigin before (hPhase ..) after rfl
  | accepts before after cause =>
      exact .accepts hOrigin before (hPhase ..) after rfl (hAccepted cause)
  | fails before after => exact .fails hOrigin before (hPhase ..) after rfl
  | drops before after => exact .drops (Or.inl ⟨hOrigin, before⟩) (hPhase ..) after rfl

theorem change_start {settings : Settings M} {shared : Shared H} {handler : Option H}
    {message : M} {origin : Origin M H B} (hOrigin : origin.phase = .other) :
    Change origin shared.state
      (.ofSending handler (start settings shared handler message)) := by
  have hPost : Change origin shared.state
      (.ofSending handler ⟨shared, post settings message, none⟩) :=
    .stays ((phase_post ..).trans hOrigin.symm) rfl rfl
  cases hLatch : shared.latch.tripped with
  | true =>
      simp only [start, hLatch, ite_true]
      exact .stays ((phase_forward ..).trans hOrigin.symm) rfl rfl
  | false =>
      cases hState : shared.state with
      | closed =>
          simp only [start, hLatch, hState, Bool.false_eq_true, ite_false]
          exact .stays hOrigin.symm hState rfl
      | disconnected =>
          cases hConnect : settings.config.connectOnSend with
          | true =>
              simp only [start, hLatch, hState, hConnect, Bool.false_eq_true, ite_false,
                ite_true]
              rw [Connecting.start_eq { shared with state := .connecting } handler rfl hLatch]
              exact .begins hOrigin rfl rfl rfl rfl
          | false => simpa [start, hLatch, hState, hConnect] using hPost
      | connecting => simpa [start, hLatch, hState] using hPost
      | connected => simpa [start, hLatch, hState] using hPost

/-- A reply that is taken in leaves the state alone. -/
theorem change_afterIntake {settings : Settings M} (shared : Shared H) {handler : Option H}
    {message : M} {step : Step (Intake M H B) (Except Error Nat)} {origin : Origin M H B}
    (hOrigin : origin.phase = .other) :
    Change origin shared.state
      (.ofSending handler (afterIntake settings shared message step)) := by
  rcases step with point | (error | count)
  · exact .stays hOrigin.symm rfl rfl
  · simp only [afterIntake]
    split
    · exact .stays ((phase_forward ..).trans hOrigin.symm) rfl rfl
    · exact .stays hOrigin.symm rfl rfl
  · exact .stays hOrigin.symm rfl rfl

theorem change_resume {settings : Settings M} {shared : Shared H} {handler : Option H}
    {point : Sending M H B} {reply : Reply B} {turn : Turn M H B}
    (h : point.resume settings shared handler reply = some turn) :
    Change (.resumed (.sending handler point) reply) shared.state (.ofSending handler turn) := by
  cases resumes h with
  | connecting resumed =>
      refine change_afterConnecting rfl ?_ (Connecting.change_resume resumed)
      rintro (⟨response, rfl, hStatus⟩ | ⟨rfl, rfl⟩)
      · exact hStatus
      · exact ⟨handler, rfl⟩
  | failed message request error => exact .stays rfl rfl rfl
  | answered message request response => exact change_afterIntake shared rfl
  | @receiving _ _ _ token _ resumed => exact change_afterIntake { shared with token } rfl
  | forwarding inner result =>
      refine .stays ?_ rfl rfl
      cases inner.resume result <;> rfl

end Sending

namespace Streaming

theorem change_finish {origin : Origin M H B} {handler : Option H} (shared : Shared H)
    {target : ConnectionState} (hOrigin : origin.phase = .streaming)
    (hTarget : target = .disconnected ∨ target = .closed) :
    Change origin shared.state (.ofStreaming handler (finish shared target)) := by
  by_cases hState : shared.state = .connected
  · have hAfter : (shared.moveIf .connected target).state = target := by
      simp [Shared.moveIf, ConnectionState.moveIf, hState]
    exact .ends hOrigin hState rfl (by simpa [Turn.ofStreaming, finish, hAfter] using hTarget) rfl
  · have hAfter : (shared.moveIf .connected target).state = shared.state := by
      simp [Shared.moveIf, ConnectionState.moveIf, hState]
    exact .drops (Or.inr ⟨hOrigin, hState⟩) rfl hAfter rfl

theorem change_afterOpening {origin : Origin M H B} {handler : Option H} {shared : Shared H}
    {step : Step Opening (Except Error (Opened B))} (hOrigin : origin.phase = .streaming) :
    Change origin shared.state (.ofStreaming handler (afterOpening shared step)) := by
  rcases step with point | (error | (⟨decoder, body⟩ | _ | reason))
  · exact .stays hOrigin.symm rfl rfl
  · exact change_finish shared hOrigin (Or.inl rfl)
  · exact .stays hOrigin.symm rfl rfl
  · exact change_finish shared hOrigin (Or.inr rfl)
  · exact change_finish shared.trip hOrigin (Or.inl rfl)

theorem change_afterIntake {settings : Settings M} {origin : Origin M H B}
    {handler : Option H} (shared : Shared H) {step : Step (Intake M H B) (Except Error Nat)}
    (hOrigin : origin.phase = .streaming) :
    Change origin shared.state (.ofStreaming handler (afterIntake settings shared step)) := by
  unfold afterIntake
  split
  · exact .stays hOrigin.symm rfl rfl
  · split
    · rename_i hClosed
      have hState : shared.state ≠ .connected := by
        intro hConnected
        simp [Shared.isClosed, hConnected] at hClosed
      exact .drops (Or.inr ⟨hOrigin, hState⟩) rfl rfl rfl
    · split
      · exact change_finish shared hOrigin (Or.inr rfl)
      · split
        · exact change_afterOpening hOrigin
        · exact change_finish shared hOrigin (Or.inl rfl)

theorem change_resume {settings : Settings M} {shared : Shared H} {handler : Option H}
    {point : Streaming M H B} {reply : Reply B}
    {turn : Shared H × Step (Streaming M H B) Unit}
    (h : point.resume settings shared handler reply = some turn) :
    Change (.resumed (.streaming handler point) reply) shared.state
      (.ofStreaming handler turn) := by
  cases resumes h with
  | @receiving _ _ token _ resumed => exact change_afterIntake { shared with token } rfl
  | reopening resumed => exact change_afterOpening rfl

end Streaming

theorem Call.change_start {settings : Settings M} {shared : Shared H} (call : Call M H) :
    Change (.began call : Origin M H B) shared.state (call.start settings shared) := by
  have hStarts := call.starts (B := B) settings shared
  generalize call.start settings shared = turn at hStarts
  cases hStarts with
  | legacyConnecting handler tripped => exact .stays rfl rfl rfl
  | refused handler error => exact .stays rfl rfl rfl
  | connecting handler untripped idle =>
      rw [Connecting.start_eq { shared with state := .connecting } (some handler) rfl untripped]
      exact .begins rfl idle rfl rfl rfl
  | sending sends => exact Sending.change_start rfl
  | closing => exact .closes rfl rfl rfl rfl
  | closed => exact .closes rfl rfl rfl rfl

theorem Task.change_resume {settings : Settings M} {shared : Shared H} {task : Task M H B}
    {reply : Reply B} {turn : Turn M H B}
    (h : task.resume settings shared reply = some turn) :
    Change (.resumed task reply) shared.state turn := by
  cases resumes h with
  | connecting resumed =>
      refine Turn.change_ofConnecting rfl ?_ (Connecting.change_resume resumed)
      rintro (⟨response, rfl, hStatus⟩ | ⟨rfl, rfl⟩)
      · exact hStatus
      · exact ⟨_, rfl⟩
  | legacyConnecting handler result => exact .stays rfl rfl rfl
  | sending resumed => exact Sending.change_resume resumed
  | closing result => exact .stays rfl rfl rfl
  | streaming resumed => exact Streaming.change_resume resumed

/-- Every turn of a run is such a change. -/
theorem System.change_of_record {settings : Settings M} {system : System M H B}
    {action : Action M H B} {record : Record M H B}
    (h : system.record? settings action = some record) :
    Change record.origin system.shared.state record.turn := by
  obtain ⟨_, ⟨call, _, _, hOrigin, hTurn⟩ | ⟨task, reply, _, _, hOrigin, hTurn⟩⟩ :=
    record_cases h
  · rw [hOrigin, hTurn]
    exact call.change_start
  · rw [hOrigin]
    exact Task.change_resume hTurn

end Transport

end RpcTransport
