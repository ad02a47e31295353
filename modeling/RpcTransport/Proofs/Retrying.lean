import Mathlib.Order.Nat
import RpcTransport.Retry

namespace RpcTransport.RetryPolicy

variable {α : Type} {policy : RetryPolicy} {outcome : Nat → Except Error α} {retry : Nat}

/-- The loop ends with an attempt that succeeds, with one whose error is not worth another,
and with the one that makes the last retry. -/
def Ends (policy : RetryPolicy) (outcome : Nat → Except Error α) (attempt : Nat) : Prop :=
  (∃ value, outcome attempt = .ok value) ∨
    (∃ error, outcome attempt = .error error ∧ policy.worthRetrying error = false) ∨
    attempt = policy.maxRetries.toNat

/-- The attempts before one of them, each followed by its pause. -/
def rounds (policy : RetryPolicy) (outcome : Nat → Except Error α) (attempt : Nat) :
    List (Deed α) :=
  (List.range attempt).flatMap fun i =>
    [.attempted (outcome i), .slept (policy.pauseBefore i)]

theorem rounds_succ : policy.rounds outcome (retry + 1) =
    policy.rounds outcome retry ++
      [.attempted (outcome retry), .slept (policy.pauseBefore retry)] := by
  simp [rounds, List.range_succ]

theorem attempts_rounds : Deed.attempts (policy.rounds outcome retry) = retry := by
  induction retry with
  | zero => rfl
  | succ retry ih =>
      rw [rounds_succ, Deed.attempts, List.countP_append]
      exact congrArg (· + 1) ih

theorem afterFailure_of_ends {error : Error} (hEnds : policy.Ends outcome retry)
    (hError : outcome retry = .error error) : policy.afterFailure retry error = none := by
  refine if_neg ?_
  rintro ⟨hLeft, hWorth⟩
  obtain ⟨value, hValue⟩ | ⟨final, hFinal, hRejected⟩ | hLast := hEnds
  · simp [hError] at hValue
  · obtain rfl : error = final := by simpa [hError] using hFinal
    simp [hWorth] at hRejected
  · omega

theorem not_ends_iff : ¬policy.Ends outcome retry ↔
    (∃ error, outcome retry = .error error ∧ policy.worthRetrying error = true) ∧
      retry ≠ policy.maxRetries.toNat := by
  cases hOutcome : outcome retry <;> simp [Ends, hOutcome]

theorem afterFailure_of_not_ends (hGoesOn : ¬policy.Ends outcome retry)
    (hRetry : retry ≤ policy.maxRetries.toNat) :
    ∃ error, outcome retry = .error error ∧
      policy.afterFailure retry error = some (policy.pauseBefore retry) := by
  obtain ⟨⟨error, hError, hWorth⟩, hLast⟩ := not_ends_iff.mp hGoesOn
  exact ⟨error, hError, if_pos ⟨Nat.lt_of_le_of_ne hRetry hLast, hWorth⟩⟩

/-- With an attempt that ends the loop, nothing follows it. -/
theorem logged_of_ends (hEnds : policy.Ends outcome retry) :
    (policy.logged outcome retry).run (policy.rounds outcome retry) =
      (outcome retry, policy.rounds outcome retry ++ [.attempted (outcome retry)]) := by
  rw [logged, loop_eq]
  cases hOutcome : outcome retry with
  | ok value =>
      simp [Deed.attempt, attempts_rounds, hOutcome]
      rfl
  | error error =>
      simp [Deed.attempt, attempts_rounds, hOutcome, afterFailure_of_ends hEnds hOutcome]
      rfl

/-- Any other attempt is followed by its pause and the next attempt. -/
theorem logged_of_not_ends (hGoesOn : ¬policy.Ends outcome retry)
    (hRetry : retry ≤ policy.maxRetries.toNat) :
    (policy.logged outcome retry).run (policy.rounds outcome retry) =
      (policy.logged outcome (retry + 1)).run (policy.rounds outcome (retry + 1)) := by
  obtain ⟨error, hError, hAfter⟩ := afterFailure_of_not_ends hGoesOn hRetry
  rw [logged, loop_eq, rounds_succ]
  simp [Deed.attempt, Deed.sleep, attempts_rounds, hError, hAfter, logged]

/-- The last attempt allowed ends the loop. -/
theorem le_of_not_ends {attempt : Nat} (hGoesOn : ∀ i < attempt, ¬policy.Ends outcome i) :
    attempt ≤ policy.maxRetries.toNat := by
  by_contra hBeyond
  exact hGoesOn policy.maxRetries.toNat (by omega) (.inr (.inr rfl))

/-- What has been done when an attempt begins, if no earlier one ends the loop. -/
theorem logged_until {attempt : Nat} (hGoesOn : ∀ i < attempt, ¬policy.Ends outcome i) :
    (policy.logged outcome 0).run [] =
      (policy.logged outcome attempt).run (policy.rounds outcome attempt) := by
  induction attempt with
  | zero => rfl
  | succ attempt ih =>
      have hRetry : attempt + 1 ≤ policy.maxRetries.toNat := le_of_not_ends hGoesOn
      -- The attempts in the log so far are what numbers the next one.
      rw [ih fun i hi => hGoesOn i (by omega),
        logged_of_not_ends (hGoesOn attempt (by omega)) (by omega)]

theorem filterMap_rounds : (policy.rounds outcome retry).filterMap Deed.pause? =
    (List.range retry).map policy.pauseBefore := by
  induction retry with
  | zero => rfl
  | succ retry ih =>
      rw [rounds_succ, List.filterMap_append, ih, List.range_succ, List.map_append]
      rfl

theorem Attempts.length_times (attempts : Attempts α) :
    attempts.times.length = attempts.pauses.length + 1 := by
  obtain ⟨pauses, result⟩ := attempts
  suffices h : ∀ now, (Attempts.times.timesFrom now pauses).length = pauses.length + 1 from h 0
  induction pauses with
  | nil => exact fun _ => rfl
  | cons pause pauses ih => exact fun now => congrArg (· + 1) (ih _)

theorem exists_isLeast_ends (policy : RetryPolicy) (outcome : Nat → Except Error α) :
    ∃ last, IsLeast {attempt | policy.Ends outcome attempt} last := by
  classical
  exact ⟨_, Nat.isLeast_find ⟨policy.maxRetries.toNat, .inr (.inr rfl)⟩⟩

/-- The loop returns the result of the first attempt that ends it. It makes this attempt and
all attempts before it, each once, and it sleeps once between two attempts that follow each
other, for the pause that belongs to the first of the two. -/
theorem run_ends_first (policy : RetryPolicy) (outcome : Nat → Except Error α) :
    ∃ last, IsLeast {attempt | policy.Ends outcome attempt} last ∧
      policy.run outcome = ⟨(List.range last).map policy.pauseBefore, outcome last⟩ ∧
      (policy.run outcome).times.length = last + 1 ∧
      (policy.logged outcome 0).run [] =
        (outcome last, ((List.range last).flatMap fun i =>
          [.attempted (outcome i), .slept (policy.pauseBefore i)]) ++
            [.attempted (outcome last)]) := by
  obtain ⟨last, hEnds, hFirst⟩ := exists_isLeast_ends policy outcome
  have hGoesOn (i : Nat) (hi : i < last) : ¬policy.Ends outcome i :=
    fun hEarlier => Nat.not_lt.mpr (hFirst hEarlier) hi
  have hLogged : (policy.logged outcome 0).run [] =
      (outcome last, policy.rounds outcome last ++ [.attempted (outcome last)]) := by
    rw [logged_until hGoesOn, logged_of_ends hEnds]
  have hRun : policy.run outcome =
      ⟨(List.range last).map policy.pauseBefore, outcome last⟩ := by
    simp [run, hLogged, filterMap_rounds, Deed.pause?]
  refine ⟨last, ⟨hEnds, hFirst⟩, hRun, ?_, hLogged⟩
  simp [hRun, Attempts.length_times]

end RpcTransport.RetryPolicy
