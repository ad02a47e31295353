import RpcTransport.Proofs.Closing
import RpcTransport.Proofs.Denial

/-! Sessions of the legacy transport behind a close. -/
namespace RpcTransport.Transport

variable {M H B : Type}

theorem Connecting.legacy_of_wait {point : Connecting} {handler owner : Option H}
    (h : (point.wait handler : Wait M H B) = .legacyConnect owner) : point = .legacy := by
  rcases point with (_ | _) | _
  · cases h
  · cases h
  · rfl

theorem Sending.connecting_of_wait {point : Sending M H B} {handler owner : Option H}
    (h : point.wait handler = .legacyConnect owner) :
    ∃ message, point = .connecting message .legacy := by
  cases point with
  | connecting message inner => exact ⟨message, by rw [Connecting.legacy_of_wait h]⟩
  | posting message request => cases h
  | receiving message inner => cases inner <;> cases h
  | forwarding inner => cases h

namespace Connecting

/-- On a closed transport a connect sequence turns to the legacy transport only for an
answer that denies the endpoint. -/
theorem denies_of_legacy {settings : Settings M} {shared : Shared H} {point : Connecting}
    {reply : Reply B} {turn : Shared H × Step Connecting (Connected B)}
    (hClosed : shared.isClosed = true)
    (h : point.resume settings shared reply = some turn) (hNext : turn.2 = .wait .legacy) :
    reply.Denies := by
  cases resumes h with
  | @opening inner _ step resumed =>
      have hBarred : shared.isClosed = false → shared.latch.tripped = false := by
        simp [hClosed]
      refine (Opening.fallback_iff resumed hBarred).mp ?_
      rcases step with next | (error | (⟨decoder, body⟩ | _ | reason))
      · cases hNext
      · cases hNext
      · simp only [afterOpening] at hNext
        split at hNext <;> cases hNext
      · cases hNext
      · exact ⟨reason, rfl⟩
  | legacy result => cases hNext

end Connecting

namespace Sending

/-- Only a send that still connects can go on connecting. -/
theorem connecting_of_resume {settings : Settings M} {shared : Shared H} {handler : Option H}
    {point : Sending M H B} {reply : Reply B} {turn : Turn M H B} {message : M}
    {next : Connecting} (h : point.resume settings shared handler reply = some turn)
    (hNext : turn.step = .wait (.connecting message next)) :
    ∃ earlier inner, point = .connecting message earlier ∧
      earlier.resume settings shared reply = some inner ∧ inner.2 = .wait next := by
  cases resumes h with
  | @connecting _ earlier _ inner resumed =>
      rcases wait_of_afterConnecting hNext with ⟨_, hWait, hPoint⟩ | ⟨_, hPoint⟩ | ⟨_, hPost⟩
      · cases hPoint
        exact ⟨earlier, inner, rfl, resumed, hWait⟩
      · cases hPoint
      · obtain ⟨_, _, hPoint⟩ := posting_of_post hPost
        cases hPoint
  | failed => cases hNext
  | answered => rcases wait_of_afterIntake hNext with ⟨_, hPoint⟩ | ⟨_, hPoint⟩ <;> cases hPoint
  | receiving => rcases wait_of_afterIntake hNext with ⟨_, hPoint⟩ | ⟨_, hPoint⟩ <;> cases hPoint
  | forwarding =>
      obtain ⟨_, _, hPoint⟩ := Step.mapPoint_eq_wait.mp hNext
      cases hPoint

end Sending

/-- On a closed transport a call begins a session only if it is a connect that finds the
latch tripped. -/
theorem Call.connect_of_legacyConnect {settings : Settings M} {shared : Shared H}
    {call : Call M H} {owner : Option H} (hClosed : shared.state = .closed)
    (h : (call.start settings shared : Turn M H B).wait? = some (.legacyConnect owner)) :
    (∃ handler, call = .connect handler) ∧ shared.latch.tripped = true := by
  obtain ⟨next, hNext, hWait⟩ := Turn.wait?_eq_some.mp h
  have hStarts := call.starts (B := B) settings shared
  generalize call.start settings shared = turn at hStarts hNext
  cases hStarts with
  | legacyConnecting handler tripped => exact ⟨⟨handler, rfl⟩, tripped⟩
  | refused handler error => cases hNext
  | connecting handler untripped idle =>
      rw [hClosed] at idle
      cases idle
  | sending sends =>
      obtain ⟨point, hPoint, rfl⟩ := Turn.ofSending_eq_wait.mp hNext
      obtain ⟨message, rfl⟩ := Sending.connecting_of_wait hWait
      simp only [Sending.start, hClosed] at hPoint
      split at hPoint
      · obtain ⟨inner, hForwarding⟩ := Sending.forwarding_of_forward hPoint
        cases hForwarding
      · cases hPoint
  | closing =>
      cases hNext
      cases hWait
  | closed => cases hNext

theorem Task.denies_of_legacyConnect {settings : Settings M} {shared : Shared H}
    {task : Task M H B} {reply : Reply B} {turn : Turn M H B} {owner : Option H}
    (hClosed : shared.state = .closed) (h : task.resume settings shared reply = some turn)
    (hWait : turn.wait? = some (.legacyConnect owner)) :
    task.phase = .connecting ∧ reply.Denies := by
  have hIsClosed := Shared.isClosed_eq_true.mpr hClosed
  obtain ⟨next, hNext, hWait⟩ := Turn.wait?_eq_some.mp hWait
  cases resumes h with
  | connecting inner =>
      obtain ⟨point, hPoint, rfl⟩ := Turn.ofConnecting_eq_wait.mp hNext
      cases Connecting.legacy_of_wait hWait
      exact ⟨rfl, Connecting.denies_of_legacy hIsClosed inner hPoint⟩
  | legacyConnecting handler result => cases hNext
  | sending inner =>
      obtain ⟨point, hPoint, rfl⟩ := Turn.ofSending_eq_wait.mp hNext
      obtain ⟨message, rfl⟩ := Sending.connecting_of_wait hWait
      obtain ⟨earlier, _, rfl, hInner, hLegacy⟩ := Sending.connecting_of_resume inner hPoint
      exact ⟨rfl, Connecting.denies_of_legacy hIsClosed hInner hLegacy⟩
  | closing result => cases hNext
  | streaming inner =>
      obtain ⟨point, hPoint, rfl⟩ := Turn.ofStreaming_eq_wait.mp hNext
      rcases point with (_ | _) | (_ | _) <;> cases hWait

namespace System

/-- Behind a close a session of the legacy transport begins only with a connect that finds
the latch tripped, or with a connect sequence that has waited since before the close for
the answer to its request and is now given one that denies the endpoint. A connect behind
the close fails as long as the latch is not tripped; from then on it goes straight to the
legacy transport, and it fails when there is none. -/
theorem legacyConnect_after_close (settings : Settings M) (before after : List (Action M H B)) :
    let closed := (run settings {} before).1.close settings
    (∀ record ∈ closed.history settings after, ∀ owner,
      record.turn.wait? = some (.legacyConnect owner) →
      ((∃ handler, record.origin = .began (.connect handler)) ∧
          record.before.latch.tripped = true) ∨
        ∃ task response, record.origin = .resumed task (.answer (.ok response)) ∧
          response.Denies ∧ task.phase = .connecting ∧ (record.id, task) ∈ closed.tasks) ∧
    (∀ record ∈ closed.history settings after, ∀ handler,
      record.origin = .began (.connect handler) →
      (record.before.latch.tripped = false →
        record.turn.result? = some (.error (.alreadyConnected .closed))) ∧
      (record.before.latch.tripped = true →
        (settings.hasLegacy = true → record.turn.wait? = some (.legacyConnect (some handler))) ∧
        (settings.hasLegacy = false → record.turn.result? = some (.error .noLegacy)))) := by
  intro closed
  have hFormed : closed.WellFormed := (WellFormed.run settings before).close settings
  have hBarred : ¬closed.shared.IsOpen := not_isOpen_close settings _
  refine ⟨?_, ?_⟩
  · intro record hMem owner hWait
    cases hOrigin : record.origin with
    | began call =>
        rw [start_of_mem_history hMem hOrigin] at hWait
        obtain ⟨⟨handler, rfl⟩, hTripped⟩ := Call.connect_of_legacyConnect (closed_of_mem_close hMem) hWait
        exact Or.inl ⟨⟨handler, rfl⟩, hTripped⟩
    | resumed task reply =>
        have hTurn := resume_of_mem_history hMem hOrigin
        obtain ⟨hPhase, hDenies⟩ := Task.denies_of_legacyConnect (closed_of_mem_close hMem) hTurn hWait
        obtain ⟨response, rfl, hResponse⟩ := hDenies.answer
        obtain ⟨request, hAsks⟩ := Task.asks_of_answered hTurn
        exact Or.inr ⟨task, response, rfl, hResponse, hPhase,
          asked_before hFormed hBarred hMem hOrigin hAsks⟩
  · intro record hMem handler hOrigin
    rw [start_of_mem_history hMem hOrigin]
    refine ⟨?_, fun hTripped => ⟨?_, ?_⟩⟩
    · intro hLatch
      simp [Call.start, Call.startConnect, hLatch, closed_of_mem_close hMem, ConnectionState.move,
        Turn.returned, Turn.result?]
    · intro hLegacy
      simp [Call.start, Call.startConnect, hTripped, hLegacy, Turn.wait?, Turn.task?, Task.wait]
    · intro hLegacy
      simp [Call.start, Call.startConnect, hTripped, hLegacy, Turn.returned, Turn.result?]

/-- A session begins on the closed transport and nobody closes it. In the first run a connect
has waited for its answer since before the close and is then told that there is no endpoint.
In the second run the session of the first connect is closed, and another connect begins
one more. -/
theorem session_begins_after_close :
    let settings := Settings.plain true
    let denied : Reply Unit := .answer (.ok ⟨404, [], ()⟩)
    let waits (actions : List (Action String String Unit)) :=
      (history settings {} actions).map fun record => (record.before.state, record.turn.wait?)
    waits [.call (.connect "first"), .call .close, .reply 0 denied, .reply 0 (.legacy (.ok ()))] =
      [(.disconnected, some (.answer (settings.openRequest none))), (.connecting, none),
        (.closed, some (.legacyConnect (some "first"))), (.closed, none)] ∧
    waits [.call (.connect "first"), .reply 0 denied, .reply 0 (.legacy (.ok ())), .call .close,
        .reply 1 (.legacy (.ok ())), .call (.connect "second")] =
      [(.disconnected, some (.answer (settings.openRequest none))),
        (.connecting, some (.legacyConnect (some "first"))), (.connecting, none),
        (.connected, some .legacyClose), (.closed, none),
        (.closed, some (.legacyConnect (some "second")))] := by
  decide +kernel

end System

end RpcTransport.Transport
