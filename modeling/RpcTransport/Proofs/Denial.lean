import RpcTransport.Proofs.Change
import RpcTransport.Proofs.Intake

/-! What trips the latch: an answer that denies the endpoint, or an error of that kind in the reply
to a post. -/
namespace RpcTransport

/-- The server does not offer the endpoint, or answers in no form that can be read. -/
def Http.Response.Denies {β : Type} (response : Http.Response β) : Prop :=
  response.status = 404 ∨ response.status = 405 ∨
    (response.isSuccess = true ∧ response.status ≠ 202 ∧
      Decoder.ofContentType? (response.contentType?.getD "") = none)

theorem Error.deniesEndpoint_ofStatus (status : Nat) :
    (ofStatus status).deniesEndpoint = true ↔ status = 404 ∨ status = 405 := by
  unfold ofStatus
  split
  · rename_i hMissing
    simp [deniesEndpoint, hMissing]
  · rename_i hOther
    simp only [hOther, iff_false]
    split
    · exact Bool.false_ne_true
    · split <;> exact Bool.false_ne_true

/-- A response denies the endpoint if the choice of its decoder fails in that way. -/
theorem Decoder.select_denies_iff {β : Type} (response : Http.Response β) :
    (∃ error, select response = .error error ∧ error.deniesEndpoint = true) ↔
      response.Denies := by
  by_cases hAccepted : response.status = 202
  · simp [select, Http.Response.Denies, hAccepted]
  · cases hSuccess : response.isSuccess with
    | false =>
        simp [select, Http.Response.Denies, hAccepted, hSuccess, Error.deniesEndpoint_ofStatus]
    | true =>
        have hStatus : response.status ≠ 404 ∧ response.status ≠ 405 := by
          simp only [Http.Response.isSuccess, Bool.and_eq_true, decide_eq_true_eq] at hSuccess
          omega
        cases hType : ofContentType? (response.contentType?.getD "") <;>
          simp [select, Http.Response.Denies, hAccepted, hSuccess, hStatus, hType,
            Error.deniesEndpoint]

namespace Transport

variable {M H B : Type}

/-- The answer to a request denies the endpoint. -/
def Reply.Denies : Reply B → Prop
  | .answer (.ok response) => response.Denies
  | _ => False

theorem Reply.Denies.answer {reply : Reply B} (h : reply.Denies) :
    ∃ response, reply = .answer (.ok response) ∧ response.Denies := by
  unfold Reply.Denies at h
  split at h
  · exact ⟨_, rfl, h⟩
  · cases h

namespace Opening

theorem judge_eq_fallback_iff (response : Http.Response B) :
    (∃ reason, judge (.ok response) = .ok (.fallback reason)) ↔ response.Denies := by
  rw [← Decoder.select_denies_iff]
  simp only [judge]
  split
  · rename_i hSelect
    simp [hSelect]
  · rename_i hSelect
    simp [hSelect]
  · rename_i error hSelect
    cases hDenies : error.deniesEndpoint <;> simp [hSelect, hDenies]

/-- An attempt asks for the legacy transport only if it finds the latch tripped, and not
on a closed transport. -/
theorem attempt_ne_fallback {settings : Settings M} {shared : Shared H} {retry : Nat}
    {reason : Error} (h : shared.isClosed = false → shared.latch.tripped = false) :
    (attempt settings shared retry : Step Opening (Except Error (Opened B))) ≠
      .done (.ok (.fallback reason)) := by
  intro hStep
  unfold attempt at hStep
  split at hStep
  · cases result_of_settle hStep
  · rename_i hClosed
    rw [if_neg (Bool.eq_false_iff.mp (h (Bool.eq_false_iff.mpr hClosed)))] at hStep
    cases hStep

/-- Where no attempt asks for the legacy transport, only an answer does. -/
theorem fallback_iff {settings : Settings M} {shared : Shared H} {point : Opening}
    {reply : Reply B} {step : Step Opening (Except Error (Opened B))}
    (h : point.resume settings shared reply = some step)
    (hLatch : shared.isClosed = false → shared.latch.tripped = false) :
    (∃ reason, step = .done (.ok (.fallback reason))) ↔ reply.Denies := by
  cases resumes h with
  | answered retry request answer =>
      rcases answer with error | response
      · simp only [Reply.Denies, iff_false]
        rintro ⟨reason, hStep⟩
        cases result_of_settle hStep
      · rw [Reply.Denies, ← judge_eq_fallback_iff]
        constructor
        · rintro ⟨reason, hStep⟩
          exact ⟨reason, result_of_settle hStep⟩
        · rintro ⟨reason, hJudge⟩
          exact ⟨reason, by rw [hJudge, settle]⟩
  | elapsed retry delay =>
      simp only [Reply.Denies, iff_false]
      rintro ⟨reason, hStep⟩
      exact attempt_ne_fallback hLatch hStep

end Opening

namespace Connecting

theorem tripped_afterOpening (settings : Settings M) (shared : Shared H)
    (step : Step Opening (Except Error (Opened B))) :
    (afterOpening settings shared step).1.latch.tripped = true ↔
      shared.latch.tripped = true ∨ ∃ reason, step = .done (.ok (.fallback reason)) := by
  rcases step with point | (error | (⟨decoder, body⟩ | _ | reason))
  · simp [afterOpening]
  · simp [afterOpening, Shared.leaveConnecting, Shared.moveIf]
  · simp only [afterOpening]
    split <;> simp
  · simp [afterOpening, Shared.leaveConnecting, Shared.moveIf]
  · simp only [afterOpening]
    split <;> simp [Shared.trip, Latch.trip, Shared.leaveConnecting, Shared.moveIf]

theorem tripped_resume {settings : Settings M} {shared : Shared H} {point : Connecting}
    {reply : Reply B} {turn : Shared H × Step Connecting (Connected B)}
    (h : point.resume settings shared reply = some turn)
    (hLatch : shared.latch.tripped = false) :
    turn.1.latch.tripped = true ↔ reply.Denies := by
  cases resumes h with
  | opening resumed =>
      rw [tripped_afterOpening, Opening.fallback_iff resumed fun _ => hLatch]
      simp [hLatch]
  | legacy result => simp [Shared.leaveConnecting, Shared.moveIf, hLatch, Reply.Denies]

end Connecting

namespace Intake

/-- The error with which a reply ends the intake of a body. -/
def fault? (codec : Codec M) (stopped : Bool) : Intake M H B → Reply B → Option Error
  | .reading _ reader _, .item item =>
    match reader.accept codec stopped item with
    | .finished (.error error) => some error
    | _ => none
  | .handing _ _ _ _ _ _ _, .verdict (.error error) => some error
  | _, _ => none

theorem offer_ne_error (handler : Option H) (token : ResumptionToken) (messages : List M)
    (id : Option String) (body : B) (next : Option Decoder.Reader) (handled : Nat)
    (error : Error) :
    (offer handler token messages id body next handled).2 ≠ .done (.error error) := by
  rcases handler with _ | handler <;> rcases messages with _ | ⟨message, rest⟩ <;>
    cases next <;> exact nofun

theorem fault?_eq_some_iff {codec : Codec M} {stopped : Bool} {handler : Option H}
    {token later : ResumptionToken} {point : Intake M H B} {reply : Reply B}
    {step : Step (Intake M H B) (Except Error Nat)}
    (h : point.resume codec stopped handler token reply = some (later, step)) (error : Error) :
    point.fault? codec stopped reply = some error ↔ step = .done (.error error) := by
  generalize hTurn : (later, step) = turn at h
  obtain rfl : step = turn.2 := congrArg Prod.snd hTurn
  cases resumes h with
  | more accepts => simp [fault?, accepts]
  | messages accepts => simp [fault?, accepts, offer_ne_error]
  | @finished _ _ _ _ result accepts =>
      cases result <;> simp [fault?, accepts, Except.map]
  | accepted => simp [fault?, offer_ne_error]
  | refused => simp [fault?]

/-- What a body takes in is no answer. -/
theorem not_denies_of_resume {codec : Codec M} {stopped : Bool} {handler : Option H}
    {token : ResumptionToken} {point : Intake M H B} {reply : Reply B}
    {turn : ResumptionToken × Step (Intake M H B) (Except Error Nat)}
    (h : point.resume codec stopped handler token reply = some turn) : ¬reply.Denies := by
  cases resumes h <;> exact id

end Intake

namespace Sending

theorem tripped_afterIntake (settings : Settings M) (shared : Shared H) (message : M)
    (step : Step (Intake M H B) (Except Error Nat)) :
    (afterIntake settings shared message step).shared.latch.tripped = true ↔
      shared.latch.tripped = true ∨
        ∃ error, step = .done (.error error) ∧ error.deniesEndpoint = true := by
  rcases step with point | (error | count)
  · simp [afterIntake]
  · simp only [afterIntake]
    split <;> simp_all [Shared.trip, Latch.trip]
  · simp [afterIntake]

theorem ofResponse_denies_iff (response : Http.Response B) :
    (∃ error, (Intake.ofResponse response : Step (Intake M H B) (Except Error Nat)) =
        .done (.error error) ∧ error.deniesEndpoint = true) ↔ response.Denies := by
  rw [← Decoder.select_denies_iff]
  rcases hSelect : Decoder.select response with error | (_ | decoder) <;>
    simp [Intake.ofResponse, hSelect]

/-- The reply to the message ends in an error that passes for a denial. -/
def Misled (codec : Codec M) : Sending M H B → Reply B → Prop
  | .receiving _ point, reply =>
    ∃ error, point.fault? codec false reply = some error ∧ error.deniesEndpoint = true
  | _, _ => False

theorem tripped_resume {settings : Settings M} {shared : Shared H} {handler : Option H}
    {point : Sending M H B} {reply : Reply B} {turn : Turn M H B}
    (h : point.resume settings shared handler reply = some turn)
    (hLatch : shared.latch.tripped = false) :
    turn.shared.latch.tripped = true ↔ reply.Denies ∨ point.Misled settings.codec reply := by
  cases resumes h with
  | connecting resumed =>
      rw [afterConnecting_shared, Connecting.tripped_resume resumed hLatch]
      simp [Misled]
  | failed message request error => simp [Reply.Denies, Misled, hLatch]
  | answered message request response =>
      rw [tripped_afterIntake, ofResponse_denies_iff]
      simp [Reply.Denies, Misled, hLatch]
  | @receiving message point reply token step resumed =>
      rw [tripped_afterIntake]
      simp [Misled, Intake.fault?_eq_some_iff resumed, hLatch,
        Intake.not_denies_of_resume resumed]
  | forwarding inner result => simp [Reply.Denies, Misled, hLatch]

end Sending

namespace Streaming

theorem tripped_afterOpening (shared : Shared H)
    (step : Step Opening (Except Error (Opened B))) :
    (afterOpening shared step : Shared H × Step (Streaming M H B) Unit).1.latch.tripped = true ↔
      shared.latch.tripped = true ∨ ∃ reason, step = .done (.ok (.fallback reason)) := by
  rcases step with point | (error | (⟨decoder, body⟩ | _ | reason)) <;>
    simp [afterOpening, finish, Shared.moveIf, Shared.trip, Latch.trip]

/-- The body of the stream does not trip the latch, whatever it ends with. -/
theorem untripped_afterIntake {settings : Settings M} {shared : Shared H}
    (hLatch : shared.latch.tripped = false)
    (step : Step (Intake M H B) (Except Error Nat)) :
    (afterIntake settings shared step).1.latch.tripped = false := by
  unfold afterIntake
  split
  · exact hLatch
  · split
    · exact hLatch
    · split
      · exact hLatch
      · split
        · refine Bool.eq_false_iff.mpr ?_
          rw [ne_eq, tripped_afterOpening, hLatch]
          rintro (hTripped | ⟨reason, hStep⟩)
          · cases hTripped
          · exact Opening.attempt_ne_fallback (fun _ => hLatch) hStep
        · exact hLatch

theorem tripped_resume {settings : Settings M} {shared : Shared H} {handler : Option H}
    {point : Streaming M H B} {reply : Reply B}
    {turn : Shared H × Step (Streaming M H B) Unit}
    (h : point.resume settings shared handler reply = some turn)
    (hLatch : shared.latch.tripped = false) :
    turn.1.latch.tripped = true ↔ reply.Denies := by
  cases resumes h with
  | @receiving point reply token step resumed =>
      have hLater : ({ shared with token } : Shared H).latch.tripped = false := hLatch
      rw [untripped_afterIntake hLater]
      simp [Intake.not_denies_of_resume resumed]
  | reopening resumed =>
      rw [tripped_afterOpening, Opening.fallback_iff resumed fun _ => hLatch]
      simp [hLatch]

end Streaming

namespace Origin

/-- The turn takes an answer that denies the endpoint. -/
def Denies : Origin M H B → Prop
  | .resumed _ reply => reply.Denies
  | .began _ => False

/-- The turn ends the reply to a posted message in an error that passes for a denial. -/
def Misleads (codec : Codec M) : Origin M H B → Prop
  | .resumed (.sending _ point) reply => point.Misled codec reply
  | _ => False

end Origin

/-- A send starts with no answer and no reply, so it cannot trip the latch yet. -/
theorem Sending.latch_start (settings : Settings M) (shared : Shared H) (handler : Option H)
    (message : M) :
    (start settings shared handler message : Turn M H B).shared.latch = shared.latch := by
  cases hLatch : shared.latch.tripped with
  | true => simp [start, hLatch]
  | false =>
      cases hState : shared.state with
      | disconnected =>
          cases hConnect : settings.config.connectOnSend with
          | true =>
              simp only [start, hLatch, hState, hConnect, Bool.false_eq_true, ite_false, ite_true,
                afterConnecting_shared]
              rw [Connecting.start_eq { shared with state := .connecting } handler rfl hLatch]
          | false => simp [start, hLatch, hState, hConnect]
      | _ => simp [start, hLatch, hState]

theorem Call.latch_start (settings : Settings M) (shared : Shared H) (call : Call M H) :
    (call.start settings shared : Turn M H B).shared.latch = shared.latch := by
  have hStarts := call.starts (B := B) settings shared
  generalize call.start settings shared = turn at hStarts
  cases hStarts with
  | legacyConnecting handler tripped => rfl
  | refused handler error => rfl
  | connecting handler untripped idle =>
      rw [Connecting.start_eq { shared with state := .connecting } (some handler) rfl untripped]
      rfl
  | sending sends => exact Sending.latch_start settings shared _ _
  | closing => rfl
  | closed => rfl

theorem Task.tripped_resume {settings : Settings M} {shared : Shared H} {task : Task M H B}
    {reply : Reply B} {turn : Turn M H B}
    (h : task.resume settings shared reply = some turn)
    (hLatch : shared.latch.tripped = false) :
    turn.shared.latch.tripped = true ↔
      (Origin.resumed task reply).Denies ∨ (Origin.resumed task reply).Misleads settings.codec := by
  cases resumes h with
  | connecting resumed =>
      rw [Turn.ofConnecting_shared, Connecting.tripped_resume resumed hLatch]
      exact (or_iff_left id).symm
  | legacyConnecting handler result =>
      simp [Turn.returned, hLatch, Origin.Denies, Origin.Misleads, Reply.Denies]
  | sending resumed => exact Sending.tripped_resume resumed hLatch
  | closing result =>
      simp [Turn.returned, hLatch, Origin.Denies, Origin.Misleads, Reply.Denies]
  | streaming resumed =>
      exact (Streaming.tripped_resume resumed hLatch).trans (or_iff_left id).symm

namespace System

/-- A turn trips the latch if it takes a denial, or an error that passes for one. -/
theorem trips_iff {settings : Settings M} {system : System M H B} {action : Action M H B}
    {record : Record M H B} (h : system.record? settings action = some record)
    (hLatch : system.shared.latch.tripped = false) :
    record.turn.shared.latch.tripped = true ↔
      record.origin.Denies ∨ record.origin.Misleads settings.codec := by
  obtain ⟨_, ⟨call, _, _, hOrigin, hTurn⟩ | ⟨task, reply, _, _, hOrigin, hTurn⟩⟩ :=
    record_cases h
  · rw [hTurn, Call.latch_start, hOrigin]
    simp [hLatch, Origin.Denies, Origin.Misleads]
  · rw [hOrigin]
    exact Task.tripped_resume hTurn hLatch

/-- The latch of a run is tripped if some turn of it took a denial, or an error that
passes for one. -/
theorem tripped_iff (settings : Settings M) (actions : List (Action M H B)) :
    (run settings {} actions).1.shared.latch.tripped = true ↔
      ∃ record ∈ history settings {} actions,
        record.origin.Denies ∨ record.origin.Misleads settings.codec := by
  refine run_induction settings (motive := fun system past =>
    system.shared.latch.tripped = true ↔
      ∃ record ∈ past, record.origin.Denies ∨ record.origin.Misleads settings.codec)
    (by simp) ?_ actions
  intro system past action ih
  cases hRecord : system.record? settings action with
  | none => simpa [step_of_no_record hRecord] using ih
  | some record =>
      obtain ⟨streamTask, hShared⟩ := settle_shared (system.enroll action) record.id record.turn
      rw [step_of_record hRecord, hShared]
      cases hLatch : system.shared.latch.tripped with
      | true =>
          obtain ⟨cause, hMem, hCause⟩ := ih.mp hLatch
          exact iff_of_true ((keeps_record hRecord).latch hLatch)
            ⟨cause, List.mem_append_left _ hMem, hCause⟩
      | false =>
          have hNone := mt ih.mpr (Bool.eq_false_iff.mp hLatch)
          rw [trips_iff hRecord hLatch]
          simp only [Option.toList_some, List.mem_append, List.mem_singleton]
          constructor
          · exact fun hCause => ⟨record, Or.inr rfl, hCause⟩
          · rintro ⟨cause, hPast | rfl, hCause⟩
            · exact absurd ⟨cause, hPast, hCause⟩ hNone
            · exact hCause

end System

end Transport

end RpcTransport
