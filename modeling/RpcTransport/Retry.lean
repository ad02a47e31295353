import RpcTransport.Duration
import RpcTransport.Error

namespace RpcTransport

structure RetryPolicy where
  /-- Retries after the first attempt. -/
  maxRetries : UInt32 := 3
  baseDelay : Duration := .ofSeconds 3
  maxDelay : Duration := .ofSeconds 60
  worthRetrying : Error → Bool := Error.isTransient

namespace RetryPolicy

/-- The greatest factor by which the base delay is multiplied. -/
def greatestFactor : Nat := UInt32.size - 1

/-- Doubles with each retry as long as it fits into 32 bits. -/
def factor (retry : Nat) : Nat :=
  if retry < 32 then Nat.pow 2 retry else greatestFactor

/-- No pause is longer. A bound below the base delay is raised to it. -/
def longestDelay (policy : RetryPolicy) : Duration :=
  policy.maxDelay.max policy.baseDelay

/-- The pause before a retry, counted from zero. -/
def pauseBefore (policy : RetryPolicy) (retry : Nat) : Duration :=
  let longest := policy.longestDelay
  ((policy.baseDelay.times? (factor retry)).getD longest).min longest

/-- The pause that follows an error when `retry` retries have been made, or
none if the error is final. -/
def afterFailure (policy : RetryPolicy) (retry : Nat) (error : Error) : Option Duration :=
  if retry < policy.maxRetries.toNat ∧ policy.worthRetrying error = true then
    some (policy.pauseBefore retry)
  else none

theorem lt_of_afterFailure {policy : RetryPolicy} {retry : Nat} {error : Error}
    {pause : Duration} (h : policy.afterFailure retry error = some pause) :
    retry < policy.maxRetries.toNat := by
  unfold afterFailure at h
  split at h
  · rename_i hAgain
    exact hAgain.1
  · cases h

/-- The loop of attempts, behind `retry` retries. It returns the result of the last one. -/
def loop {α : Type} {m : Type → Type} [Monad m] (policy : RetryPolicy)
    (attempt : m (Except Error α)) (sleep : Duration → m Unit) (retry : Nat) :
    m (Except Error α) := do
  match ← attempt with
  | .ok value => return .ok value
  | .error error =>
    match hAfter : policy.afterFailure retry error with
    | some pause =>
      sleep pause
      policy.loop attempt sleep (retry + 1)
    | none => return .error error
termination_by policy.maxRetries.toNat - retry
decreasing_by
  have hLeft := lt_of_afterFailure hAfter
  omega

/-- One attempt, and what follows it. -/
theorem loop_eq {α : Type} {m : Type → Type} [Monad m] (policy : RetryPolicy)
    (attempt : m (Except Error α)) (sleep : Duration → m Unit) (retry : Nat) :
    policy.loop attempt sleep retry = do
      match ← attempt with
      | .ok value => return .ok value
      | .error error =>
        match policy.afterFailure retry error with
        | some pause =>
          sleep pause
          policy.loop attempt sleep (retry + 1)
        | none => return .error error := by
  rw [loop]
  congr 1
  funext result
  rcases result with error | value
  · dsimp only
    split <;> simp only [*]
  · rfl

variable {α : Type}

/-- What a loop of attempts does. -/
inductive Deed (α : Type) where
  | attempted (result : Except Error α)
  | slept (pause : Duration)

namespace Deed

def pause? : Deed α → Option Duration
  | .attempted _ => none
  | .slept pause => some pause

/-- The number of attempts in a log. -/
def attempts (log : List (Deed α)) : Nat :=
  log.countP (·.pause?.isNone)

/-- An attempt whose result is told by the number of attempts before it. -/
def attempt (outcome : Nat → Except Error α) : StateM (List (Deed α)) (Except Error α) := do
  let log ← get
  let result := outcome (attempts log)
  set (log ++ [.attempted result])
  return result

def sleep (pause : Duration) : StateM (List (Deed α)) Unit :=
  modify (· ++ [.slept pause])

end Deed

/-- The loop with a log. `outcome` is the result of each attempt, the first of which has the
number zero. -/
def logged (policy : RetryPolicy) (outcome : Nat → Except Error α) (retry : Nat) :
    StateM (List (Deed α)) (Except Error α) :=
  policy.loop (Deed.attempt outcome) Deed.sleep retry

/-- What a loop of attempts did: its pauses, one less than its attempts, and
the result of the last attempt. -/
structure Attempts (α : Type) where
  pauses : List Duration
  result : Except Error α

/-- The times at which the attempts begin, in milliseconds, on a clock that only
the timers of the pauses move. -/
def Attempts.times (attempts : Attempts α) : List Nat :=
  timesFrom 0 attempts.pauses
where
  timesFrom (now : Nat) : List Duration → List Nat
    | [] => [now]
    | pause :: pauses => now :: timesFrom (now + Timer.length pause.milliseconds) pauses

/-- The loop of attempts, as its log tells it. -/
def run (policy : RetryPolicy) (outcome : Nat → Except Error α) : Attempts α :=
  let (result, log) := (policy.logged outcome 0).run []
  ⟨log.filterMap Deed.pause?, result⟩

end RetryPolicy

end RpcTransport
