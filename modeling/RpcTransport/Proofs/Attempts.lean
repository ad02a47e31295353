import RpcTransport.Proofs.Alone
import RpcTransport.Proofs.Delivery
import RpcTransport.Proofs.Denial
import RpcTransport.Proofs.Retrying

namespace RpcTransport.Transport

variable {M H B : Type}

/-- The answer to a request is a failure: there is no response, or one that neither succeeds
nor denies the endpoint. -/
inductive Fails : Except Error (Http.Response B) → Error → Prop where
  | unanswered (error : Error) : Fails (.error error) error
  | unsuccessful {response : Http.Response B} (failure : response.isSuccess = false)
      (offered : ¬response.Denies) : Fails (.ok response) (.ofStatus response.status)

/-- The answer is a failure that the policy retries. -/
def Retried (policy : RetryPolicy) (answer : Except Error (Http.Response B)) : Prop :=
  ∃ error, Fails answer error ∧ policy.worthRetrying error = true

/-- After so many retries comes the answer that decides: the first one that is not retried,
or the one that exhausts the retries. -/
structure Decides (policy : RetryPolicy) (answers : Nat → Except Error (Http.Response B))
    (retries : Nat) : Prop where
  bounded : retries ≤ policy.maxRetries.toNat
  earlier : ∀ i < retries, Retried policy (answers i)
  last : retries < policy.maxRetries.toNat → ¬Retried policy (answers retries)

theorem Decides.unique {policy : RetryPolicy} {answers : Nat → Except Error (Http.Response B)}
    {retries other : Nat} (h : Decides policy answers retries)
    (h' : Decides policy answers other) : retries = other := by
  rcases Nat.lt_trichotomy retries other with hLess | hEq | hMore
  · exact absurd (h'.earlier retries hLess) (h.last (Nat.lt_of_lt_of_le hLess h'.bounded))
  · exact hEq
  · exact absurd (h.earlier other hMore) (h'.last (Nat.lt_of_lt_of_le hMore h.bounded))

/-- The waits of an opening that makes `more` retries after the first `retry` ones. -/
def Settings.attempts (settings : Settings M) (token : ResumptionToken) (retry : Nat) :
    (more : Nat) → List (Wait M H B)
  | 0 => [.answer (settings.openRequest token)]
  | more + 1 => .answer (settings.openRequest token) ::
      .pause (settings.policy.pauseBefore retry) :: settings.attempts token (retry + 1) more

namespace Opening

/-- A response that is read is judged by the form of its body. -/
theorem judge_of_readable {response : Http.Response B} (h : Readable response) :
    (response.status = 202 ∧ judge (.ok response) = .ok .accepted) ∨
      ∃ decoder, response.status ≠ 202 ∧
        Decoder.ofContentType? (response.contentType?.getD "") = some decoder ∧
        judge (.ok response) = .ok (.stream decoder response.body) := by
  by_cases hAccepted : response.status = 202
  · exact .inl ⟨hAccepted, by simp [judge, Decoder.select, hAccepted]⟩
  · obtain h | ⟨hSuccess, decoder, hForm⟩ := h
    · exact absurd h hAccepted
    · exact .inr ⟨decoder, hAccepted, hForm, by
        simp [judge, Decoder.select, hAccepted, hSuccess, hForm]⟩

/-- A success that does not deny the endpoint is read. -/
theorem readable_of_success {response : Http.Response B} (hSuccess : response.isSuccess = true)
    (hOffered : ¬response.Denies) : Readable response := by
  by_cases hAccepted : response.status = 202
  · exact .inl hAccepted
  · refine .inr ⟨hSuccess, Option.ne_none_iff_exists'.mp fun hNone => hOffered ?_⟩
    exact .inr (.inr ⟨hSuccess, hAccepted, hNone⟩)

theorem judge_of_failure {response : Http.Response B} (hFailure : response.isSuccess = false)
    (hOffered : ¬response.Denies) : judge (.ok response) = .error (.ofStatus response.status) := by
  have hAccepted : response.status ≠ 202 := by
    intro hAccepted
    simp [Http.Response.isSuccess, hAccepted] at hFailure
  have hReason : (Error.ofStatus response.status).deniesEndpoint = false := by
    refine Bool.eq_false_iff.mpr fun hDenies => hOffered ?_
    exact ((Error.deniesEndpoint_ofStatus response.status).mp hDenies).imp id .inl
  simp [judge, Decoder.select, hAccepted, hFailure, hReason]

/-- What an answer can mean. -/
inductive Judges : Except Error (Http.Response B) → Except Error (Opened B) → Prop where
  | failed {answer : Except Error (Http.Response B)} {error : Error} (fails : Fails answer error) :
      Judges answer (.error error)
  | denied {response : Http.Response B} (denies : response.Denies) (reason : Error) :
      Judges (.ok response) (.ok (.fallback reason))
  | accepted {response : Http.Response B} (status : response.status = 202) :
      Judges (.ok response) (.ok .accepted)
  | streams {response : Http.Response B} {decoder : Decoder} (success : response.isSuccess = true)
      (status : response.status ≠ 202)
      (form : Decoder.ofContentType? (response.contentType?.getD "") = some decoder) :
      Judges (.ok response) (.ok (.stream decoder response.body))

theorem judges (answer : Except Error (Http.Response B)) : Judges answer (judge answer) := by
  obtain error | response := answer
  · exact .failed (.unanswered error)
  · by_cases hDenies : response.Denies
    · obtain ⟨reason, hFallback⟩ := (judge_eq_fallback_iff response).mpr hDenies
      rw [hFallback]
      exact .denied hDenies reason
    · cases hSuccess : response.isSuccess with
      | false =>
          rw [judge_of_failure hSuccess hDenies]
          exact .failed (.unsuccessful hSuccess hDenies)
      | true =>
          rcases judge_of_readable (readable_of_success hSuccess hDenies) with
            ⟨hStatus, hJudge⟩ | ⟨decoder, hStatus, hForm, hJudge⟩
          · rw [hJudge]
            exact .accepted hStatus
          · rw [hJudge]
            exact .streams hSuccess hStatus hForm

/-- An opening fails if the answer is a failure. -/
theorem judge_eq_error_iff {answer : Except Error (Http.Response B)} {error : Error} :
    judge answer = .error error ↔ Fails answer error := by
  constructor
  · intro h
    have hJudges := judges answer
    rw [h] at hJudges
    cases hJudges with
    | failed fails => exact fails
  · intro h
    cases h with
    | unanswered => rfl
    | unsuccessful failure offered => exact judge_of_failure failure offered

theorem ends_judge_iff {policy : RetryPolicy} {answers : Nat → Except Error (Http.Response B)}
    {i : Nat} : policy.Ends (fun i => judge (answers i)) i ↔
      (¬Retried policy (answers i) ∨ i = policy.maxRetries.toNat) := by
  rw [← not_iff_not, RetryPolicy.not_ends_iff]
  simp only [judge_eq_error_iff, ne_eq, not_or, not_not]
  rfl

/-- The answer that decides is the one with which a loop of attempts ends. -/
theorem decides_iff_isLeast {policy : RetryPolicy}
    {answers : Nat → Except Error (Http.Response B)} {retries : Nat} :
    Decides policy answers retries ↔
      IsLeast {i | policy.Ends (fun i => judge (answers i)) i} retries := by
  constructor
  · intro hDecides
    refine ⟨ends_judge_iff.mpr ?_, fun i hEnds => ?_⟩
    · rcases Nat.lt_or_eq_of_le hDecides.bounded with hLess | hEq
      · exact .inl (hDecides.last hLess)
      · exact .inr hEq
    · by_contra hBefore
      have hBelow : i < policy.maxRetries.toNat :=
        Nat.lt_of_lt_of_le (Nat.not_le.mp hBefore) hDecides.bounded
      exact (ends_judge_iff.mp hEnds).elim
        (fun hFinal => hFinal (hDecides.earlier i (Nat.not_le.mp hBefore))) hBelow.ne
  · rintro ⟨hEnds, hFirst⟩
    refine ⟨hFirst (ends_judge_iff.mpr (.inr rfl)), fun i hi => ?_, fun hLess => ?_⟩
    · by_contra hFinal
      exact Nat.not_lt.mpr (hFirst (ends_judge_iff.mpr (.inl hFinal))) hi
    · exact (ends_judge_iff.mp hEnds).resolve_right hLess.ne

theorem settle_of_decided {settings : Settings M} {retry : Nat}
    {answer : Except Error (Http.Response B)}
    (h : retry < settings.policy.maxRetries.toNat → ¬Retried settings.policy answer) :
    settle settings retry (judge answer) = .done (judge answer) := by
  cases hJudge : judge answer with
  | ok opened => rfl
  | error error =>
      have hFinal : settings.policy.afterFailure retry error = none := by
        refine if_neg ?_
        rintro ⟨hLeft, hWorth⟩
        exact h hLeft ⟨error, judge_eq_error_iff.mp hJudge, hWorth⟩
      simp [settle, hFinal]

theorem settle_of_retried {settings : Settings M} {retry : Nat}
    {answer : Except Error (Http.Response B)}
    (hLeft : retry < settings.policy.maxRetries.toNat) (h : Retried settings.policy answer) :
    settle settings retry (judge answer) =
      .wait (.pausing retry (settings.policy.pauseBefore retry)) := by
  obtain ⟨error, hFails, hWorth⟩ := h
  rw [judge_eq_error_iff.mpr hFails]
  simp [settle, RetryPolicy.afterFailure, hLeft, hWorth]

/-- A task that waits for an opening and goes on behind it. -/
structure Hosted (settings : Settings M) (host : Opening → Task M H B)
    (after : Shared H → Step Opening (Except Error (Opened B)) → Turn M H B) : Prop where
  wait_eq : ∀ point, (host point).wait = point.wait
  resume_eq : ∀ shared point reply, (host point).resume settings shared reply =
    (point.resume settings shared reply).map (after shared)
  after_wait : ∀ shared point, after shared (.wait point) = ⟨shared, .wait (host point), none⟩

theorem attempt_of_open {settings : Settings M} {shared : Shared H} (hOpen : shared.IsOpen)
    (retry : Nat) : (attempt settings shared retry : Step Opening (Except Error (Opened B))) =
      .wait (.requesting retry (settings.openRequest shared.token)) := by
  simp [attempt, hOpen.1, hOpen.2]

namespace Hosted

variable {settings : Settings M} {host : Opening → Task M H B}
  {after : Shared H → Step Opening (Except Error (Opened B)) → Turn M H B}
  (hosted : Hosted settings host after) {shared : Shared H} {around : Surroundings M B}
include hosted

theorem converses_resume {point : Opening} {step : Step Opening (Except Error (Opened B))}
    {before : List (Wait M H B)}
    (hResume : point.resume settings shared (around.reply before (point.wait : Wait M H B)) =
      some step) :
    Converses settings around.reply before (after shared (.wait point)) [point.wait]
      (after shared step) := by
  have hSingle : Converses settings around.reply before ⟨shared, .wait (host point), none⟩
      [(host point).wait] (after shared step) :=
    .single rfl rfl (by rw [hosted.wait_eq, hosted.resume_eq, hResume, Option.map_some])
  rwa [hosted.wait_eq, ← hosted.after_wait] at hSingle

/-- An answer that is not retried, or that comes when no retry is left, decides. -/
theorem converses_decided {retry : Nat} {before : List (Wait M H B)}
    (h : retry < settings.policy.maxRetries.toNat →
      ¬Retried settings.policy (around.answers (Wait.asked before))) :
    Converses settings around.reply before
      (after shared (.wait (.requesting retry (settings.openRequest shared.token))))
      (settings.attempts shared.token retry 0)
      (after shared (.done (judge (around.answers (Wait.asked before))))) := by
  rw [← settle_of_decided h]
  exact hosted.converses_resume rfl

/-- An answer that is retried leads to a pause and then to the next attempt. -/
theorem converses_retried (hOpen : shared.IsOpen) {retry : Nat} {before : List (Wait M H B)}
    (hLeft : retry < settings.policy.maxRetries.toNat)
    (h : Retried settings.policy (around.answers (Wait.asked before))) :
    Converses settings around.reply before
      (after shared (.wait (.requesting retry (settings.openRequest shared.token))))
      [.answer (settings.openRequest shared.token), .pause (settings.policy.pauseBefore retry)]
      (after shared (.wait (.requesting (retry + 1) (settings.openRequest shared.token)))) := by
  have hAnswer : Converses settings around.reply before
      (after shared (.wait (.requesting retry (settings.openRequest shared.token))))
      [.answer (settings.openRequest shared.token)]
      (after shared (settle settings retry (judge (around.answers (Wait.asked before))))) :=
    hosted.converses_resume rfl
  rw [settle_of_retried hLeft h] at hAnswer
  refine hAnswer.trans (hosted.converses_resume ?_)
  rw [← attempt_of_open hOpen]
  rfl

/-- The attempts from one of them on, when `left` more retries are allowed. -/
theorem converses_attempts (hOpen : shared.IsOpen) (left : Nat) {retry : Nat}
    (hLeft : retry + left = settings.policy.maxRetries.toNat) (before : List (Wait M H B)) :
    ∃ more ≤ left,
      (∀ i < more, Retried settings.policy (around.answers (Wait.asked before + i))) ∧
      (more < left → ¬Retried settings.policy (around.answers (Wait.asked before + more))) ∧
      Converses settings around.reply before
        (after shared (.wait (.requesting retry (settings.openRequest shared.token))))
        (settings.attempts shared.token retry more)
        (after shared (.done (judge (around.answers (Wait.asked before + more))))) := by
  induction left generalizing retry before with
  | zero =>
      exact ⟨0, Nat.le_refl 0, nofun, nofun, hosted.converses_decided fun hLess => by omega⟩
  | succ left ih =>
      by_cases hRetried : Retried settings.policy (around.answers (Wait.asked before))
      · have hBelow : retry < settings.policy.maxRetries.toNat := by omega
        have hFirst := hosted.converses_retried hOpen hBelow hRetried
        obtain ⟨more, hMore, hEarlier, hLast, hRest⟩ := @ih (retry + 1) (by omega)
          (before ++ [.answer (settings.openRequest shared.token),
            .pause (settings.policy.pauseBefore retry)])
        have hAsked : Wait.asked (before ++ [.answer (settings.openRequest shared.token),
            .pause (settings.policy.pauseBefore retry)]) = Wait.asked before + 1 := by
          rw [Wait.asked_append]
          rfl
        simp only [hAsked, Nat.add_assoc, Nat.add_comm 1] at hEarlier hLast hRest
        refine ⟨more + 1, Nat.succ_le_succ hMore, ?_, fun hLess => hLast (by omega),
          hFirst.trans hRest⟩
        intro i hi
        cases i with
        | zero => exact hRetried
        | succ i => exact hEarlier i (Nat.lt_of_succ_lt_succ hi)
      · exact ⟨0, Nat.zero_le _, nofun, fun _ => hRetried,
          hosted.converses_decided fun _ => hRetried⟩

variable (around) in
/-- An opening with all its retries comes to what the deciding answer means. -/
theorem converses_opening (hOpen : shared.IsOpen) (before : List (Wait M H B)) :
    ∃ retries,
      Decides settings.policy (fun i => around.answers (Wait.asked before + i)) retries ∧
      Converses settings around.reply before (after shared (attempt settings shared 0))
        (settings.attempts shared.token 0 retries)
        (after shared (.done (judge (around.answers (Wait.asked before + retries))))) := by
  obtain ⟨retries, hBounded, hEarlier, hLast, hConverses⟩ :=
    hosted.converses_attempts hOpen _ (Nat.zero_add _) before
  rw [attempt_of_open hOpen]
  exact ⟨retries, ⟨hBounded, hEarlier, hLast⟩, hConverses⟩

end Hosted

end Opening

end RpcTransport.Transport
