import RpcTransport.Proofs.Attempts

namespace RpcTransport.Transport

variable {M H B : Type}

/-- What a connect leaves behind. -/
structure Ending (B : Type) where
  result : Except Error Unit
  state : ConnectionState
  tripped : Bool := false
  /-- Whether the legacy transport was asked. -/
  asksLegacy : Bool := false
  /-- The stream that is to be read. -/
  stream : Option (Decoder × B) := none

/-- What the deciding answer of a connect leads to. -/
inductive Settings.Ends (settings : Settings M) (legacy : Except Error Unit) :
    Except Error (Http.Response B) → Ending B → Prop where
  | accepted {response : Http.Response B} (status : response.status = 202) :
      settings.Ends legacy (.ok response) { result := .ok (), state := .connected }
  | streams {response : Http.Response B} {decoder : Decoder} (success : response.isSuccess = true)
      (status : response.status ≠ 202)
      (form : Decoder.ofContentType? (response.contentType?.getD "") = some decoder) :
      settings.Ends legacy (.ok response)
        { result := .ok (), state := .connected, stream := some (decoder, response.body) }
  | replaced {response : Http.Response B} (denies : response.Denies)
      (hasLegacy : settings.hasLegacy = true) :
      settings.Ends legacy (.ok response)
        { result := legacy, state := if legacy.isOk then .connected else .disconnected,
          tripped := true, asksLegacy := true }
  | unavailable {response : Http.Response B} (denies : response.Denies)
      (noLegacy : settings.hasLegacy = false) :
      settings.Ends legacy (.ok response)
        { result := .error .noLegacy, state := .disconnected, tripped := true }
  | failed {answer : Except Error (Http.Response B)} {error : Error} (fails : Fails answer error) :
      settings.Ends legacy answer { result := .error error, state := .disconnected }

namespace Ending

def legacyWaits (ending : Ending B) (handler : H) : List (Wait M H B) :=
  if ending.asksLegacy then [.legacyConnect (some handler)] else []

/-- The task that reads the stream. -/
def streamTask? (ending : Ending B) (handler : H) : Option (Task M H B) :=
  ending.stream.map fun (decoder, body) =>
    .streaming (some handler) (.receiving (.start decoder body))

/-- The last turn of a connect that leaves this behind. -/
def turn (ending : Ending B) (shared : Shared H) (handler : H) : Turn M H B :=
  ⟨{ shared with state := ending.state, latch := ⟨ending.tripped⟩ }, .done (some ending.result),
    ending.stream.map (some handler, ·)⟩

end Ending

namespace Connecting

/-- A connect that is a whole call waits for its opening. -/
theorem hosted (settings : Settings M) (handler : H) :
    Opening.Hosted settings (B := B) (fun point => .connecting handler (.opening point))
      (fun shared step => .ofConnecting handler (afterOpening settings shared step)) where
  wait_eq _ := rfl
  resume_eq shared point reply := by
    simp only [Task.resume, resume, Option.map_map, Function.comp_def]
  after_wait _ _ := rfl

/-- The legacy transport takes the place of the endpoint, if it can be connected. -/
theorem converses_legacy (settings : Settings M) (around : Surroundings M B) {shared : Shared H}
    (hState : shared.state = .connecting) (handler : H) (before : List (Wait M H B)) :
    Converses settings around.reply before
      ⟨shared.trip, .wait (.connecting handler .legacy), none⟩ [.legacyConnect (some handler)]
      ⟨{ shared with
          state := if around.legacy.isOk then .connected else .disconnected
          latch := ⟨true⟩ }, .done (some around.legacy), none⟩ := by
  obtain ⟨state, latch, token, registered, streamTask⟩ := shared
  cases hState
  change Converses settings around.reply before _ [Task.wait (.connecting handler .legacy)] _
  exact .single rfl rfl rfl

/-- What the deciding answer leads to, with the call of the legacy transport that a denial
may take. -/
theorem converses_judged (settings : Settings M) (around : Surroundings M B) {shared : Shared H}
    (hState : shared.state = .connecting) (hLatch : shared.latch.tripped = false) (handler : H)
    (answer : Except Error (Http.Response B)) (before : List (Wait M H B)) :
    ∃ ending, settings.Ends around.legacy answer ending ∧
      Converses settings around.reply before
        (.ofConnecting handler (afterOpening settings shared (.done (Opening.judge answer))))
        (ending.legacyWaits handler) (ending.turn shared handler) := by
  obtain ⟨state, ⟨tripped⟩, token, registered, streamTask⟩ := shared
  cases hState
  cases hLatch
  have hJudges := Opening.judges answer
  generalize Opening.judge answer = opened at hJudges
  cases hJudges with
  | failed fails => exact ⟨_, .failed fails, .stays _ _⟩
  | denied denies reason =>
      cases hLegacy : settings.hasLegacy with
      | false =>
          refine ⟨_, .unavailable denies hLegacy, ?_⟩
          simp only [afterOpening, hLegacy]
          exact .stays _ _
      | true =>
          refine ⟨_, .replaced denies hLegacy, ?_⟩
          simp only [afterOpening, hLegacy]
          exact converses_legacy settings around rfl handler before
  | accepted status => exact ⟨_, .accepted status, .stays _ _⟩
  | streams success status form => exact ⟨_, .streams success status form, .stays _ _⟩

/-- A connect on a disconnected transport, from its first turn to its last one. -/
theorem converses_start (settings : Settings M) (around : Surroundings M B) {shared : Shared H}
    (hState : shared.state = .disconnected) (hLatch : shared.latch.tripped = false)
    (handler : H) :
    ∃ retries ending, Decides settings.policy around.answers retries ∧
      settings.Ends around.legacy (around.answers retries) ending ∧
      Converses settings around.reply [] (Call.start settings shared (.connect handler))
        (settings.attempts shared.token 0 retries ++ ending.legacyWaits handler)
        (ending.turn { shared with handler := some handler } handler) := by
  have hStart : (Call.start settings shared (.connect handler) : Turn M H B) =
      .ofConnecting handler (Connecting.start settings { shared with state := .connecting }
        (some handler)) := by
    simp [Call.start, Call.startConnect, hLatch, ConnectionState.move, hState]
  let begun : Shared H := { shared with state := .connecting, handler := some handler }
  have hOpen : begun.IsOpen := ⟨hLatch, rfl⟩
  obtain ⟨retries, hDecides, hOpening⟩ :=
    (hosted settings handler).converses_opening around hOpen []
  have hState : begun.state = .connecting := rfl
  obtain ⟨ending, hEnds, hJudged⟩ := converses_judged settings around hState hLatch handler
    (around.answers retries) (settings.attempts shared.token 0 retries)
  simp only [Wait.asked, List.countP_nil, Nat.zero_add] at hDecides hOpening
  refine ⟨retries, ending, hDecides, hEnds, ?_⟩
  rw [hStart]
  exact hOpening.trans hJudged

end Connecting

namespace System

/-- What the last turn of a connect leaves behind. -/
theorem settle_ending {system : System M H B} (h : system.WellFormed) (id : TaskId)
    (ending : Ending B) (shared : Shared H) (handler : H) :
    let settled := system.settle id (ending.turn shared handler)
    settled.2 = .returned id ending.result ::
      ((ending.streamTask? handler).map fun task : Task M H B =>
        .waits system.next task.wait).toList ∧
    settled.1.shared = { shared with
      state := ending.state
      latch := ⟨ending.tripped⟩
      streamTask := if ending.stream.isSome then some system.next else shared.streamTask } ∧
    settled.1.task? system.next = ending.streamTask? handler := by
  intro settled
  have hOver : ∀ entry ∈ system.replace id (ending.turn shared handler),
      entry.1 < system.next := by
    intro entry hEntry
    rcases WellFormed.mem_replace.mp hEntry with ⟨hMem, _⟩ | ⟨_, hWait⟩
    · exact h.numbered entry hMem
    · cases hWait
  have hFresh : ∀ entries : List (TaskId × Task M H B),
      entries.Sublist (system.replace id (ending.turn shared handler)) →
      entries.lookup system.next = none := by
    intro entries hEntries
    refine List.lookup_eq_none_iff.mpr fun entry hEntry => ?_
    simpa using Nat.ne_of_gt (hOver entry (hEntries.subset hEntry))
  cases hStream : ending.stream with
  | none =>
      have hQuiet : (ending.turn shared handler : Turn M H B).stream = none := by
        simp [Ending.turn, hStream]
      have hSettled : settled = _ := settle_of_no_stream hQuiet
      rw [hSettled]
      refine ⟨by simp [Ending.streamTask?, hStream, Turn.event, Ending.turn],
        by simp [Ending.turn], ?_⟩
      rw [task?, hFresh _ (List.Sublist.refl _), Ending.streamTask?, hStream, Option.map_none]
  | some stream =>
      obtain ⟨decoder, body⟩ := stream
      have hOpens : (ending.turn shared handler : Turn M H B).stream =
          some (some handler, decoder, body) := by
        simp [Ending.turn, hStream]
      have hSettled : settled = _ := settle_of_stream hOpens
      rw [hSettled]
      refine ⟨?_, by simp [Ending.turn], ?_⟩
      · simp [Ending.streamTask?, hStream, Turn.event, Ending.turn, Task.wait, Streaming.wait,
          Intake.wait, Intake.start]
      · rw [task?, List.lookup_append, hFresh _ List.filter_sublist]
        simp [Ending.streamTask?, hStream]

end System

end RpcTransport.Transport
