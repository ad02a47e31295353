import RpcTransport.Proofs.History
import RpcTransport.Proofs.Steps

/-! What a turn keeps. A tripped latch stays tripped, and the closed state stays closed. -/
namespace RpcTransport.Transport

variable {M H B : Type}

namespace Step

variable {P Q R S : Type}

@[simp] theorem mapPoint_eq_wait {f : P → Q} {step : Step P R} {point : Q} :
    step.mapPoint f = .wait point ↔ ∃ inner, step = .wait inner ∧ f inner = point := by
  cases step <;> simp [mapPoint]

@[simp] theorem mapResult_eq_wait {f : R → S} {step : Step P R} {point : P} :
    step.mapResult f = .wait point ↔ step = .wait point := by
  cases step <;> simp [mapResult]

end Step

namespace Shared

/-- What a later moment keeps of an earlier one. -/
structure Leads (before after : Shared H) : Prop where
  latch : before.latch.tripped = true → after.latch.tripped = true
  closed : before.state = .closed → after.state = .closed

/-- What one turn keeps. -/
structure Keeps (before after : Shared H) : Prop extends Leads before after where
  streamTask : after.streamTask = before.streamTask

/-- What a turn keeps that takes in no body. -/
structure Holds (before after : Shared H) : Prop extends Keeps before after where
  token : after.token = before.token

theorem Leads.refl (shared : Shared H) : shared.Leads shared :=
  ⟨id, id⟩

theorem Leads.trans {first second third : Shared H} (h : first.Leads second)
    (h' : second.Leads third) : first.Leads third :=
  ⟨h'.latch ∘ h.latch, h'.closed ∘ h.closed⟩

theorem Keeps.refl (shared : Shared H) : shared.Keeps shared :=
  ⟨.refl shared, rfl⟩

theorem Keeps.trans {first second third : Shared H} (h : first.Keeps second)
    (h' : second.Keeps third) : first.Keeps third :=
  ⟨h.toLeads.trans h'.toLeads, h'.streamTask.trans h.streamTask⟩

theorem Holds.refl (shared : Shared H) : shared.Holds shared :=
  ⟨.refl shared, rfl⟩

theorem Holds.trans {first second third : Shared H} (h : first.Holds second)
    (h' : second.Holds third) : first.Holds third :=
  ⟨h.toKeeps.trans h'.toKeeps, h'.token.trans h.token⟩

theorem holds_trip (shared : Shared H) : shared.Holds shared.trip :=
  ⟨⟨⟨fun _ => rfl, id⟩, rfl⟩, rfl⟩

theorem holds_moveIf (shared : Shared H) {source : ConnectionState} (target : ConnectionState)
    (h : source ≠ .closed) : shared.Holds (shared.moveIf source target) := by
  refine ⟨⟨⟨id, ?_⟩, rfl⟩, rfl⟩
  intro hClosed
  simp [moveIf, ConnectionState.moveIf, hClosed, Ne.symm h]

theorem holds_leaveConnecting (shared : Shared H) (connected : Bool) :
    shared.Holds (shared.leaveConnecting connected) :=
  shared.holds_moveIf _ (by decide)

end Shared

namespace Connecting

theorem holds_afterOpening (settings : Settings M) (shared : Shared H)
    (step : Step Opening (Except Error (Opened B))) :
    shared.Holds (afterOpening settings shared step).1 := by
  unfold afterOpening
  split
  · exact .refl shared
  · unfold ConnectionState.move
    split
    · rename_i h
      split at h
      · rename_i hState
        cases h
        exact ⟨⟨⟨id, fun hClosed => by simp [hState] at hClosed⟩, rfl⟩, rfl⟩
      · cases h
    · exact .refl shared
  · exact shared.holds_leaveConnecting true
  · split
    · exact shared.holds_trip
    · exact shared.holds_trip.trans (shared.trip.holds_leaveConnecting false)
  · exact shared.holds_leaveConnecting false

theorem holds_start (settings : Settings M) (shared : Shared H) (handler : Option H) :
    shared.Holds (start settings shared handler : Shared H × Step Connecting (Connected B)).1 :=
  (⟨⟨⟨id, id⟩, rfl⟩, rfl⟩ : shared.Holds { shared with handler }).trans
    (holds_afterOpening settings _ _)

theorem holds_resume {settings : Settings M} {shared : Shared H} {point : Connecting}
    {reply : Reply B} {turn : Shared H × Step Connecting (Connected B)}
    (h : point.resume settings shared reply = some turn) : shared.Holds turn.1 := by
  cases resumes h with
  | opening resumed => exact holds_afterOpening settings shared _
  | legacy result => exact shared.holds_leaveConnecting _

end Connecting

namespace Sending

theorem afterConnecting_shared (settings : Settings M) (message : M)
    (turn : Shared H × Step Connecting (Connected B)) :
    (afterConnecting settings message turn).shared = turn.1 := by
  rcases turn with ⟨shared, point | connected⟩ <;> rfl

theorem holds_start (settings : Settings M) (shared : Shared H) (handler : Option H)
    (message : M) :
    shared.Holds (start settings shared handler message : Turn M H B).shared := by
  unfold start
  split
  · exact .refl shared
  · split
    · exact .refl shared
    · rename_i hState
      split
      · have hMoved : shared.Holds { shared with state := .connecting } :=
          ⟨⟨⟨id, fun hClosed => by simp [hState] at hClosed⟩, rfl⟩, rfl⟩
        rw [afterConnecting_shared]
        exact hMoved.trans (Connecting.holds_start settings _ handler)
      · exact .refl shared
    · exact .refl shared

theorem holds_afterIntake (settings : Settings M) (shared : Shared H) (message : M)
    (step : Step (Intake M H B) (Except Error Nat)) :
    shared.Holds (afterIntake settings shared message step).shared := by
  unfold afterIntake
  split
  · exact .refl shared
  · exact .refl shared
  · split
    · exact shared.holds_trip
    · exact .refl shared

theorem keeps_resume {settings : Settings M} {shared : Shared H} {handler : Option H}
    {point : Sending M H B} {reply : Reply B} {turn : Turn M H B}
    (h : point.resume settings shared handler reply = some turn) :
    shared.Keeps turn.shared := by
  cases resumes h with
  | connecting resumed =>
      rw [afterConnecting_shared]
      exact (Connecting.holds_resume resumed).toKeeps
  | failed message request error => exact .refl shared
  | answered message request response => exact (holds_afterIntake settings shared _ _).toKeeps
  | @receiving _ _ _ token _ resumed =>
      exact (⟨⟨id, id⟩, rfl⟩ : shared.Keeps { shared with token }).trans
        (holds_afterIntake settings _ _ _).toKeeps
  | forwarding inner result => exact .refl shared

end Sending

namespace Streaming

theorem holds_finish (shared : Shared H) (target : ConnectionState) :
    shared.Holds (finish shared target : Shared H × Step (Streaming M H B) Unit).1 :=
  shared.holds_moveIf target (by decide)

theorem holds_afterOpening (shared : Shared H)
    (step : Step Opening (Except Error (Opened B))) :
    shared.Holds (afterOpening shared step : Shared H × Step (Streaming M H B) Unit).1 := by
  unfold afterOpening
  split
  · exact .refl shared
  · exact .refl shared
  · exact holds_finish shared .closed
  · exact shared.holds_trip.trans (holds_finish shared.trip .disconnected)
  · exact holds_finish shared .disconnected

theorem holds_afterIntake (settings : Settings M) (shared : Shared H)
    (step : Step (Intake M H B) (Except Error Nat)) :
    shared.Holds (afterIntake settings shared step).1 := by
  unfold afterIntake
  split
  · exact .refl shared
  · split
    · exact .refl shared
    · split
      · exact holds_finish shared .closed
      · split
        · exact holds_afterOpening shared _
        · exact holds_finish shared .disconnected

theorem keeps_resume {settings : Settings M} {shared : Shared H} {handler : Option H}
    {point : Streaming M H B} {reply : Reply B} {turn : Shared H × Step (Streaming M H B) Unit}
    (h : point.resume settings shared handler reply = some turn) : shared.Keeps turn.1 := by
  cases resumes h with
  | @receiving _ _ token _ resumed =>
      exact (⟨⟨id, id⟩, rfl⟩ : shared.Keeps { shared with token }).trans
        (holds_afterIntake settings _ _).toKeeps
  | reopening resumed => exact (holds_afterOpening shared _).toKeeps

end Streaming

namespace Turn

theorem wait?_eq_some {turn : Turn M H B} {wait : Wait M H B} :
    turn.wait? = some wait ↔ ∃ task, turn.step = .wait task ∧ task.wait = wait := by
  unfold wait? task?
  cases turn.step <;> simp

theorem ofConnecting_eq_wait {handler : H} {turn : Shared H × Step Connecting (Connected B)}
    {task : Task M H B} :
    (ofConnecting handler turn : Turn M H B).step = .wait task ↔
      ∃ point, turn.2 = .wait point ∧ .connecting handler point = task := by
  rcases turn with ⟨shared, point | connected⟩ <;> simp [ofConnecting]

theorem ofSending_eq_wait {handler : Option H} {turn : Sending.Turn M H B} {task : Task M H B} :
    (ofSending handler turn).step = .wait task ↔
      ∃ point, turn.step = .wait point ∧ .sending handler point = task := by
  simp only [ofSending, Step.mapResult_eq_wait, Step.mapPoint_eq_wait]

theorem ofStreaming_eq_wait {handler : Option H}
    {turn : Shared H × Step (Streaming M H B) Unit} {task : Task M H B} :
    (ofStreaming handler turn).step = .wait task ↔
      ∃ point, turn.2 = .wait point ∧ .streaming handler point = task := by
  simp only [ofStreaming, Step.mapResult_eq_wait, Step.mapPoint_eq_wait]

theorem ofConnecting_shared (handler : H) (turn : Shared H × Step Connecting (Connected B)) :
    (ofConnecting handler turn : Turn M H B).shared = turn.1 := by
  rcases turn with ⟨shared, point | connected⟩ <;> rfl

end Turn

/-- What a turn of a call keeps, whatever is called. -/
theorem Call.holds_start (settings : Settings M) (shared : Shared H) (call : Call M H) :
    shared.Holds (call.start settings shared : Turn M H B).shared := by
  have hStarts := call.starts (B := B) settings shared
  generalize call.start settings shared = turn at hStarts
  cases hStarts with
  | legacyConnecting handler tripped => exact .refl shared
  | refused handler error => exact .refl shared
  | connecting handler untripped idle =>
      have hMoved : shared.Holds { shared with state := .connecting } :=
        ⟨⟨⟨id, fun hClosed => by simp [idle] at hClosed⟩, rfl⟩, rfl⟩
      rw [Turn.ofConnecting_shared]
      exact hMoved.trans (Connecting.holds_start settings _ _)
  | sending sends => exact Sending.holds_start settings shared _ _
  | closing => exact ⟨⟨⟨id, fun _ => rfl⟩, rfl⟩, rfl⟩
  | closed => exact ⟨⟨⟨id, fun _ => rfl⟩, rfl⟩, rfl⟩

theorem Task.keeps_resume {settings : Settings M} {shared : Shared H} {task : Task M H B}
    {reply : Reply B} {turn : Turn M H B}
    (h : task.resume settings shared reply = some turn) : shared.Keeps turn.shared := by
  cases resumes h with
  | connecting resumed =>
      rw [Turn.ofConnecting_shared]
      exact (Connecting.holds_resume resumed).toKeeps
  | legacyConnecting handler result => exact .refl shared
  | sending resumed => exact Sending.keeps_resume resumed
  | closing result => exact .refl shared
  | streaming resumed => exact Streaming.keeps_resume resumed

theorem System.keeps_record {settings : Settings M} {system : System M H B}
    {action : Action M H B} {record : Record M H B}
    (h : system.record? settings action = some record) :
    system.shared.Keeps record.turn.shared := by
  obtain ⟨_, ⟨call, _, _, _, hTurn⟩ | ⟨task, reply, _, _, _, hTurn⟩⟩ := record_cases h
  · rw [hTurn]
    exact (Call.holds_start settings system.shared call).toKeeps
  · exact Task.keeps_resume hTurn

end RpcTransport.Transport
