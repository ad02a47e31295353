import RpcTransport.Proofs.Forwarding
import RpcTransport.Proofs.Requests

namespace RpcTransport.Transport

variable {M H B : Type}

namespace System

/-- The events of an action: that of its turn, and the first wait of a task that
reads a newly opened stream. -/
theorem mem_step_events {settings : Settings M} {system : System M H B}
    {action : Action M H B} {event : Event M H B}
    (h : event ∈ (system.step settings action).2) :
    ∃ record, system.record? settings action = some record ∧
      (event = record.turn.event record.id ∨
        ∃ body, event = .waits (system.enroll action).next (.item body)) := by
  cases hRecord : system.record? settings action with
  | none =>
      rw [step_of_no_record hRecord] at h
      cases h
  | some record =>
      refine ⟨record, rfl, ?_⟩
      rw [step_of_record hRecord] at h
      cases hStream : record.turn.stream with
      | none =>
          rw [settle_of_no_stream hStream] at h
          exact Or.inl (List.mem_singleton.mp h)
      | some stream =>
          obtain ⟨handler, decoder, body⟩ := stream
          rw [settle_of_stream hStream] at h
          rcases List.mem_cons.mp h with hTurn | hNew
          · exact Or.inl hTurn
          · exact Or.inr ⟨body, List.mem_singleton.mp hNew⟩

/-- A request that begins shows that the latch is not tripped and the transport is
not closed. -/
theorem open_of_request {settings : Settings M} {system : System M H B}
    {action : Action M H B} {id : TaskId} {request : Http.Request}
    (h : .waits id (.answer request) ∈ (system.step settings action).2) :
    (system.step settings action).1.shared.IsOpen := by
  obtain ⟨record, hRecord, hEvent | ⟨body, hEvent⟩⟩ := mem_step_events h
  · have hRequest : record.turn.wait? = some (.answer request) := by
      rcases record with ⟨i, before, origin, shared, task | (_ | result), stream⟩ <;>
        simp_all [Turn.event, Turn.wait?, Turn.task?]
    obtain ⟨streamTask, hShared⟩ := settle_shared (system.enroll action) record.id record.turn
    rw [step_of_record hRecord, hShared]
    exact (permits_of_record hRecord hRequest).isOpen
  · cases hEvent

/-- Where no request may be sent, none begins any more. -/
theorem no_request_of_not_open {settings : Settings M} {system : System M H B}
    (hBarred : ¬system.shared.IsOpen) (actions : List (Action M H B)) (id : TaskId)
    (request : Http.Request) : .waits id (.answer request) ∉ (system.run settings actions).2 := by
  induction actions generalizing system with
  | nil => exact List.not_mem_nil
  | cons action actions ih =>
      have hStep : ¬(system.step settings action).1.shared.IsOpen :=
        fun hOpen => hBarred ((system.step_leads settings action).isOpen hOpen)
      intro hMem
      rcases List.mem_append.mp hMem with hFirst | hLater
      · exact hStep (open_of_request hFirst)
      · exact ih hStep hLater

theorem no_request_of_tripped {settings : Settings M} {system : System M H B}
    (hTripped : system.shared.latch.tripped = true) (actions : List (Action M H B)) (id : TaskId)
    (request : Http.Request) : .waits id (.answer request) ∉ (system.run settings actions).2 :=
  no_request_of_not_open (fun hOpen => by simp [hOpen.1] at hTripped) actions id request

/-- What was shared before the turns of a run that starts with a tripped latch. -/
theorem before_of_mem_history {settings : Settings M} {system : System M H B}
    (hTripped : system.shared.latch.tripped = true) {actions : List (Action M H B)}
    {record : Record M H B} (h : record ∈ system.history settings actions) :
    record.before.latch.tripped = true :=
  (leads_of_mem_history h).latch hTripped

/-- A send that begins with a tripped latch waits for the legacy transport alone,
and it returns behind the last item. -/
theorem forwards_of_tripped {settings : Settings M} {id : TaskId} {call : Call M H}
    {begun : Shared H} {message : M} {past : List (Record M H B)} {last : Record M H B}
    (hMessage : call.message? = some message) (hTripped : begun.latch.tripped = true)
    (hLegacy : settings.hasLegacy = true) (life : Life settings id call begun past last) :
    ∃ given, Record.waits (past ++ [last]) = given.map .legacySend ∧
      given <+: settings.codec.itemsOf message ∧
      (Record.results (past ++ [last]) = [] ∨ given = settings.codec.itemsOf message) := by
  obtain ⟨turn, _, given, replies, hWaits, hResults, hReaches⟩ := life.send_induction hMessage rfl
    (motive := fun records step _ => ∃ given replies,
      Record.waits records = given.map .legacySend ∧
      Record.results records = Sending.answers step ∧
      Forwarding.Reaches (settings.codec.itemsOf message) given replies step)
    (by
      intro turn hTurn
      obtain ⟨given, hAsks, hReaches⟩ := Forwarding.reaches_start (B := B) (H := H)
        (call.replyHandler begun) message hLegacy
      have hStep : turn.step = Sending.forward settings message := by
        simp [hTurn, Sending.start, hTripped]
      exact ⟨given, [], by simp [hStep, hAsks], by simp, hStep ▸ hReaches⟩)
    (by
      rintro records point before shared reply turn ⟨given, replies, hWaits, hResults, hReaches⟩
        _ hResume
      cases hReaches with
      | @waits earlier _ inner split answered failure =>
          obtain ⟨result, rfl, rfl⟩ := Sending.legacy_of_resume hResume
          obtain ⟨more, hAsks, hMore⟩ := Forwarding.reaches_resume result
            (call.replyHandler begun) (.waits (B := B) (H := H) inner split answered failure)
          exact ⟨_, _, by simp [hWaits, hAsks], by simp [hResults, Sending.answers], hMore⟩)
  generalize turn.step = step at hResults hReaches
  refine ⟨given, hWaits, ?_⟩
  cases hReaches with
  | @waits earlier _ point split _ _ =>
      exact ⟨⟨point.rest, by simp [split]⟩, Or.inl hResults⟩
  | ends _ _ => exact ⟨List.prefix_refl _, Or.inr rfl⟩

/-- A send that begins with a tripped latch and no legacy transport fails at once. -/
theorem fails_of_tripped {settings : Settings M} {id : TaskId} {call : Call M H}
    {begun : Shared H} {message : M} {past : List (Record M H B)} {last : Record M H B}
    (hMessage : call.message? = some message) (hTripped : begun.latch.tripped = true)
    (hLegacy : settings.hasLegacy = false) (life : Life settings id call begun past last) :
    Record.waits (past ++ [last]) = [] ∧
      Record.results (past ++ [last]) = [.error .noLegacy] := by
  obtain ⟨turn, _, hStep, hRecords⟩ := life.send_induction hMessage rfl
    (motive := fun records step _ => step = .done (.error .noLegacy) ∧
      Record.waits records = [] ∧ Record.results records = [.error .noLegacy])
    (by
      intro turn hTurn
      have hStep : turn.step = .done (.error .noLegacy) := by
        simp [hTurn, Sending.start, hTripped, Sending.forward, Forwarding.start, hLegacy,
          Step.mapPoint]
      simp [hStep, Sending.asks, Sending.answers])
    (by
      rintro records point before shared reply turn ⟨hWait, _⟩ _ _
      cases hWait)
  exact hRecords

/-- Once the latch is tripped it stays tripped and no request begins any more. A send
that begins afterwards gives its items to the legacy transport alone, in order and
all of them before it returns, or fails when there is no legacy transport. -/
theorem fallback_is_permanent (settings : Settings M) (before after : List (Action M H B))
    (hTripped : (run settings {} before).1.shared.latch.tripped = true) :
    (run settings {} (before ++ after)).1.shared.latch.tripped = true ∧
    (∀ id request, .waits id (.answer request) ∉
      ((run settings {} before).1.run settings after).2) ∧
    ∀ record ∈ (run settings {} before).1.history settings after, ∀ call message,
      record.origin = .began call → call.message? = some message →
      let records := own record.id (history settings {} (before ++ after))
      (settings.hasLegacy = true → ∃ given,
        Record.waits records = given.map .legacySend ∧
        given <+: settings.codec.itemsOf message ∧
        (Record.results records = [] ∨ given = settings.codec.itemsOf message)) ∧
      (settings.hasLegacy = false →
        Record.waits records = [] ∧ Record.results records = [.error .noLegacy]) := by
  refine ⟨?_, fun id request => no_request_of_tripped hTripped after id request, ?_⟩
  · rw [run_append]
    exact (run_leads _ settings after).latch hTripped
  · intro record hRecord call message hBegan hMessage
    have hMem : record ∈ history settings {} (before ++ after) := by
      rw [history_append]
      exact List.mem_append_right _ hRecord
    obtain ⟨past, last, hOwn, life, _⟩ := life_of_began hMem hBegan
    have hBegun : record.before.latch.tripped = true := before_of_mem_history hTripped hRecord
    simp only [hOwn]
    exact ⟨fun hLegacy => forwards_of_tripped hMessage hBegun hLegacy life,
      fun hLegacy => fails_of_tripped hMessage hBegun hLegacy life⟩

/-- A connect finds no endpoint, and the next message goes to the legacy transport. -/
theorem fallback_is_permanent_after_missing_endpoint :
    let settings := Settings.plain true
    let before : List (Action String String Unit) :=
      [.call (.connect "handler"), .reply 0 (.answer (.ok ⟨404, [], ()⟩))]
    let after : List (Action String String Unit) :=
      [.reply 0 (.legacy (.ok ())), .call (.send "message"), .reply 1 (.legacy (.ok ()))]
    (run settings {} before).1.shared.latch.tripped = true ∧
      (run settings {} (before ++ after)).1.shared.latch.tripped = true ∧
      ∀ id request, .waits id (.answer request) ∉
        ((run settings {} before).1.run settings after).2 :=
  have hTripped := rfl
  have hPermanent := fallback_is_permanent (Settings.plain true) _ _ hTripped
  ⟨hTripped, hPermanent.1, hPermanent.2.1⟩

end System

end RpcTransport.Transport
