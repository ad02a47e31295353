import RpcTransport.Proofs.Denial
import RpcTransport.Proofs.Requests

/-! A handler that refuses a message. Its error is told by its variant alone, so it can pass for
what only the server is to say. -/
namespace RpcTransport.Transport

variable {M H B : Type}

namespace Intake

theorem turn_of_refusal {codec : Codec M} {stopped : Bool} {handler : Option H}
    {token : ResumptionToken} {point : Intake M H B} {error : Error}
    {turn : ResumptionToken × Step (Intake M H B) (Except Error Nat)}
    (h : point.resume codec stopped handler token (.verdict (.error error)) = some turn) :
    turn = (token, .done (.error error)) := by
  cases resumes h
  rfl

end Intake

theorem Turn.result?_ofSending {handler : Option H} {turn : Sending.Turn M H B}
    {result : Except Error Unit} :
    (ofSending handler turn).result? = some result ↔ turn.step = .done result := by
  rcases turn with ⟨shared, point | own, stream⟩ <;>
    simp [result?, ofSending, Step.mapPoint, Step.mapResult]

namespace Sending

/-- Forwarding fails at once only for want of a legacy transport. -/
theorem noLegacy_of_forward {settings : Settings M} {message : M} {error : Error}
    (h : (forward settings message : Step (Sending M H B) (Except Error Unit)) =
      .done (.error error)) : error = .noLegacy := by
  unfold forward Forwarding.start at h
  split at h
  · cases hItems : settings.codec.itemsOf message <;>
      simp [hItems, Forwarding.next, Step.mapPoint] at h
  · cases h
    rfl

theorem wait_of_forward {settings : Settings M} (hLegacy : settings.hasLegacy = true)
    (message : M) (handler : Option H) (shared : Shared H) :
    (Turn.ofSending handler ⟨shared, forward settings message, none⟩ :
        Transport.Turn M H B).wait? =
      (settings.codec.itemsOf message).head?.map .legacySend := by
  cases hItems : settings.codec.itemsOf message <;>
    simp [forward, Forwarding.start, hLegacy, hItems, Forwarding.next, Turn.ofSending,
      Step.mapPoint, Step.mapResult, Transport.Turn.wait?, Transport.Turn.task?, Task.wait, wait,
      Forwarding.wait]

/-- The send returns the error of its handler, and nothing else happens, unless the error
denies the endpoint. -/
theorem refusal_returned_iff (settings : Settings M) (shared : Shared H) (message : M)
    (error : Error) :
    ((afterIntake settings shared message (.done (.error error)) : Turn M H B).step =
          .done (.error error) ∧
        (afterIntake settings shared message (.done (.error error)) : Turn M H B).shared =
          shared) ↔
      error.deniesEndpoint = false := by
  cases hDenies : error.deniesEndpoint with
  | false => simp [afterIntake, hDenies]
  | true =>
      simp only [afterIntake, hDenies, ite_true, Bool.true_eq_false, iff_false]
      rintro ⟨hForward, _⟩
      cases noLegacy_of_forward hForward
      cases hDenies

end Sending

namespace Streaming

/-- An error that the policy retries opens the stream again. -/
theorem afterIntake_retried {settings : Settings M} {shared : Shared H} {error : Error}
    (hRetry : settings.policy.worthRetrying error = true) (hOpen : shared.IsOpen) :
    afterIntake settings shared (.done (.error error) : Step (Intake M H B) _) =
      (shared, .wait (.reopening (.requesting 0 (settings.openRequest shared.token)))) := by
  simp [afterIntake, hRetry, hOpen.1, hOpen.2, Opening.attempt, afterOpening]

/-- Otherwise the task ends, and a connected transport is disconnected. -/
theorem afterIntake_final {settings : Settings M} {shared : Shared H} {error : Error}
    (h : ¬(settings.policy.worthRetrying error = true ∧ shared.IsOpen)) :
    let turn := afterIntake settings shared (.done (.error error) : Step (Intake M H B) _)
    turn.2 = .done () ∧ turn.1.state = shared.state.moveIf .connected .disconnected := by
  cases hClosed : shared.isClosed with
  | true =>
      have hState : shared.state = .closed := Shared.isClosed_eq_true.mp hClosed
      simp [afterIntake, hClosed, hState, ConnectionState.moveIf]
  | false =>
      cases hRetry : settings.policy.worthRetrying error with
      | false => simp [afterIntake, hClosed, hRetry, finish, Shared.moveIf]
      | true =>
          have hTripped : shared.latch.tripped = true :=
            Bool.of_not_eq_false fun hLatch => h ⟨hRetry, hLatch, hClosed⟩
          simp [afterIntake, hClosed, hRetry, Opening.attempt, hTripped, afterOpening, finish,
            Shared.trip, Shared.moveIf]

end Streaming

namespace Task

variable {settings : Settings M} {shared : Shared H} {owner : Option H} {point : Intake M H B}
  {error : Error} {turn : Turn M H B}

theorem turn_of_refused_reply {message : M}
    (h : (sending owner (.receiving message point)).resume settings shared
      (.verdict (.error error)) = some turn) :
    turn = .ofSending owner
      (Sending.afterIntake settings shared message (.done (.error error))) := by
  cases resumes h with
  | sending inner =>
      cases Sending.resumes inner with
      | receiving intake =>
          cases Intake.turn_of_refusal intake
          rfl

theorem turn_of_refused_stream
    (h : (streaming owner (.receiving point)).resume settings shared (.verdict (.error error)) =
      some turn) :
    turn = .ofStreaming owner (Streaming.afterIntake settings shared (.done (.error error))) := by
  cases resumes h with
  | streaming inner =>
      cases Streaming.resumes inner with
      | receiving intake =>
          cases Intake.turn_of_refusal intake
          rfl

end Task

namespace System

/-- The handler of a send refuses a message of the reply. -/
def RefusesReply (record : Record M H B) (message : M) (error : Error) : Prop :=
  ∃ owner point, record.origin =
    .resumed (.sending owner (.receiving message point)) (.verdict (.error error))

/-- The handler of the stream of the server refuses a message. -/
def RefusesStream (record : Record M H B) (error : Error) : Prop :=
  ∃ owner point, record.origin =
    .resumed (.streaming owner (.receiving point)) (.verdict (.error error))

/-- What becomes of the error with which a handler refuses a message depends on its
variant alone. A send returns it and leaves the transport as it was unless it denies the
endpoint; then the latch trips and the message is forwarded. A stream task ends and
disconnects unless the policy retries the error while requests may be sent; then the
stream is requested again. So the latch of a run is tripped by an answer that denies the
endpoint, or by an error in the reply to a message that passes for one. -/
theorem refusal_told_by_variant (settings : Settings M) (actions : List (Action M H B)) :
    (∀ record ∈ history settings {} actions, ∀ message error,
      RefusesReply record message error →
      (record.turn.result? = some (.error error) ∧ record.turn.shared = record.before ↔
        error.deniesEndpoint = false) ∧
      (error.deniesEndpoint = true → record.turn.shared = record.before.trip ∧
        (settings.hasLegacy = true →
          record.turn.wait? = (settings.codec.itemsOf message).head?.map .legacySend))) ∧
    (∀ record ∈ history settings {} actions, ∀ error, RefusesStream record error →
      (record.turn.wait? = none ∧
          record.turn.shared.state = record.before.state.moveIf .connected .disconnected ↔
        ¬(settings.policy.worthRetrying error = true ∧ record.before.IsOpen)) ∧
      (settings.policy.worthRetrying error = true → record.before.IsOpen →
        record.turn.wait? = some (.answer (settings.openRequest record.before.token)))) ∧
    ((run settings {} actions).1.shared.latch.tripped = true ↔
      ∃ record ∈ history settings {} actions,
        record.origin.Denies ∨ record.origin.Misleads settings.codec) := by
  refine ⟨?_, ?_, tripped_iff settings actions⟩
  · rintro record hMem message error ⟨owner, point, hOrigin⟩
    rw [Task.turn_of_refused_reply (resume_of_mem_history hMem hOrigin)]
    refine ⟨?_, ?_⟩
    · rw [Turn.result?_ofSending]
      exact Sending.refusal_returned_iff settings record.before message error
    · intro hDenies
      simp only [Sending.afterIntake, hDenies, ite_true]
      exact ⟨rfl, fun hLegacy => Sending.wait_of_forward hLegacy message owner _⟩
  · rintro record hMem error ⟨owner, point, hOrigin⟩
    rw [Task.turn_of_refused_stream (resume_of_mem_history hMem hOrigin)]
    by_cases hAgain : settings.policy.worthRetrying error = true ∧ record.before.IsOpen
    · rw [Streaming.afterIntake_retried hAgain.1 hAgain.2]
      refine ⟨iff_of_false ?_ (not_not_intro hAgain), fun _ _ => rfl⟩
      rintro ⟨⟨⟩, _⟩
    · obtain ⟨hDone, hState⟩ := Streaming.afterIntake_final (M := M) (B := B) hAgain
      generalize Streaming.afterIntake settings record.before (.done (.error error)) = turn
        at hDone hState ⊢
      rcases turn with ⟨later, step⟩
      cases hDone
      exact ⟨iff_of_true ⟨rfl, hState⟩ hAgain,
        fun hRetry hOpen => absurd ⟨hRetry, hOpen⟩ hAgain⟩

namespace Sample

/-- The handler of a send refuses the reply with the error of a missing endpoint. -/
def refusedReply : List (Action String String Unit) :=
  [.call (.connect "handler"), .reply 0 (.answer (.ok ⟨202, [], ()⟩)),
    .call (.sendWith "own" "message"),
    .reply 1 (.answer (.ok ⟨200, [("Content-Type", "application/json")], ()⟩)),
    .reply 1 (.item (some (.ok "\x7b\x7d"))), .reply 1 (.item none),
    .reply 1 (.verdict (.error (.endpointMissing 404)))]

/-- The handler of the stream refuses a message with the error of a body that broke off. -/
def refusedStream : List (Action String String Unit) :=
  [.call (.connect "handler"),
    .reply 0 (.answer (.ok ⟨200, [("Content-Type", "text/event-stream")], ()⟩)),
    .reply 1 (.item (some (.ok "event: message"))),
    .reply 1 (.item (some (.ok "data: \x7b\x7d"))), .reply 1 (.item (some (.ok ""))),
    .reply 1 (.verdict (.error (.interrupted "mine")))]

end Sample

/-- No response denies the endpoint and no body breaks off. And yet the first refusal
trips the latch and the message leaves again, and the second one requests the stream
again. -/
theorem refusal_taken_for_signal :
    ((history (Settings.plain true) {} Sample.refusedReply).map fun record =>
        (record.turn.wait?, record.turn.shared.latch.tripped)).drop 5 =
      [(some (.verdict "own" "\x7b\x7d"), false), (some (.legacySend "message"), true)] ∧
    ((history (Settings.plain true) {} Sample.refusedStream).map fun record =>
        (record.turn.wait?, record.turn.shared.state)).drop 4 =
      [(some (.verdict "handler" "\x7b\x7d"), .connected),
        (some (.answer ((Settings.plain true).openRequest none)), .connected)] := by
  decide +kernel

end System

end RpcTransport.Transport
