import Mathlib.Algebra.Group.Nat.Defs
import RpcTransport.Retry

/-! How long the pauses between attempts are, in exact nanoseconds. -/
namespace RpcTransport

theorem nanos_min (a b : Duration) : (a.min b).nanos = min a.nanos b.nanos := by
  rw [Duration.min]
  split <;> omega

theorem nanos_max (a b : Duration) : (a.max b).nanos = max a.nanos b.nanos := by
  rw [Duration.max]
  split <;> omega

/-- The whole seconds of a product are those of the seconds and those that the nanoseconds
beyond them carry over. -/
theorem nanos_mul_div (d : Duration) (factor : Nat) :
    d.nanos * factor / Duration.second =
      d.seconds * factor + d.subsecond * factor / Duration.second := by
  have hNanos : d.nanos = d.subsecond + Duration.second * d.seconds :=
    (Nat.mod_add_div d.nanos Duration.second).symm
  calc
    d.nanos * factor / Duration.second =
        (d.subsecond * factor + Duration.second * (d.seconds * factor)) / Duration.second := by
      rw [hNanos, Nat.add_mul, Nat.mul_assoc]
    _ = d.subsecond * factor / Duration.second + d.seconds * factor :=
      Nat.add_mul_div_left _ _ (by decide)
    _ = d.seconds * factor + d.subsecond * factor / Duration.second := Nat.add_comm _ _

/-- A multiple is exact, unless its seconds take more than 64 bits. -/
theorem times?_cases (d : Duration) (factor : Nat) :
    let seconds := d.seconds * factor + d.subsecond * factor / Duration.second
    (seconds < UInt64.size ∧
        ∃ multiple, d.times? factor = some multiple ∧ multiple.nanos = d.nanos * factor) ∨
      (UInt64.size ≤ seconds ∧ d.times? factor = none) := by
  intro seconds
  have hSeconds : d.nanos * factor / Duration.second = seconds := nanos_mul_div d factor
  have hFits : d.nanos * factor < Duration.limit ↔ seconds < UInt64.size := by
    rw [← hSeconds, Duration.limit, Nat.div_lt_iff_lt_mul (by decide)]
  by_cases h : d.nanos * factor < Duration.limit
  · refine .inl ⟨hFits.mp h, ⟨d.nanos * factor, h⟩, ?_, rfl⟩
    exact dif_pos h
  · refine .inr ⟨by omega, ?_⟩
    exact dif_neg h

/-- Below a bound that is a duration it makes no difference that a product can be too long. -/
theorem nanos_times?_min (d bound : Duration) (factor : Nat) :
    (((d.times? factor).getD bound).min bound).nanos = min (d.nanos * factor) bound.nanos := by
  rcases times?_cases d factor with ⟨-, multiple, hSome, hNanos⟩ | ⟨hSeconds, hNone⟩
  · rw [hSome, Option.getD_some, nanos_min, hNanos]
  · -- The product lies beyond the bound, as the bound is a duration.
    have hBound : bound.nanos < Duration.limit := bound.nanos_lt
    have hLong : Duration.limit ≤ d.nanos * factor := by
      rw [← nanos_mul_div] at hSeconds
      exact (Nat.le_div_iff_mul_le (by decide)).mp hSeconds
    rw [hNone, Option.getD_none, nanos_min]
    omega

namespace RetryPolicy

theorem factor_eq (retry : Nat) : factor retry = min (2 ^ retry) (2 ^ 32 - 1) := by
  by_cases hFits : retry < 32
  · have hPower : 2 ^ retry ≤ 2 ^ 31 := Nat.pow_le_pow_right (by decide) (by omega)
    have hFactor : factor retry = 2 ^ retry := if_pos hFits
    omega
  · have hPower : 2 ^ 32 ≤ 2 ^ retry := Nat.pow_le_pow_right (by decide) (by omega)
    have hFactor : factor retry = 2 ^ 32 - 1 := if_neg hFits
    omega

theorem one_le_factor (retry : Nat) : 1 ≤ factor retry := by
  have hPower : 1 ≤ 2 ^ retry := Nat.one_le_two_pow
  rw [factor_eq]
  omega

theorem factor_mono {retry later : Nat} (h : retry ≤ later) : factor retry ≤ factor later := by
  have hPower : 2 ^ retry ≤ 2 ^ later := Nat.pow_le_pow_right (by decide) h
  rw [factor_eq, factor_eq]
  omega

theorem factor_lt_size (retry : Nat) : factor retry < UInt32.size := by
  have hSize : UInt32.size = 2 ^ 32 := rfl
  rw [factor_eq, hSize]
  omega

theorem nanos_pauseBefore (policy : RetryPolicy) (retry : Nat) :
    (policy.pauseBefore retry).nanos =
      min (policy.baseDelay.nanos * factor retry)
        (max policy.maxDelay.nanos policy.baseDelay.nanos) := by
  rw [pauseBefore, nanos_times?_min, longestDelay, nanos_max]

/-- For every base delay and every bound the pauses are exact: the base delay is multiplied by
a power of two, which stays at the greatest number of 32 bits once it would pass it, and the
product is cut off at the bound, or at the base delay if the bound is below it. So the pauses
never get shorter, stay between the base delay and the longest pause, and are the doubled
delays themselves as far as these are no longer than that. -/
theorem pauses_double_up_to_longest (policy : RetryPolicy) (retry : Nat) :
    let base := policy.baseDelay.nanos
    let longest := max policy.maxDelay.nanos base
    let pause := fun number => (policy.pauseBefore number).nanos
    factor retry < UInt32.size ∧
      pause retry = min (base * min (2 ^ retry) (2 ^ 32 - 1)) longest ∧
      (∀ later, retry ≤ later → pause retry ≤ pause later) ∧
      base ≤ pause retry ∧ pause retry ≤ longest ∧
      (retry < 32 → base * 2 ^ retry ≤ longest → pause retry = base * 2 ^ retry) := by
  intro base longest pause
  have hPause (number : Nat) : pause number = min (base * factor number) longest :=
    policy.nanos_pauseBefore number
  refine ⟨factor_lt_size retry, ?_, ?_, ?_, ?_, ?_⟩
  · rw [hPause, factor_eq]
  · intro later hLater
    have hGrows : base * factor retry ≤ base * factor later :=
      Nat.mul_le_mul_left base (factor_mono hLater)
    rw [hPause, hPause]
    omega
  · have hBase : base ≤ base * factor retry := Nat.le_mul_of_pos_right base (one_le_factor retry)
    have hLongest : base ≤ longest := Nat.le_max_right _ _
    rw [hPause]
    omega
  · rw [hPause]
    exact Nat.min_le_right _ _
  · intro hFits hShort
    have hFactor : factor retry = 2 ^ retry := if_pos hFits
    rw [hPause, hFactor, Nat.min_eq_left hShort]

namespace Sample

/-- The bound is the longest duration that there is, and four times the base delay is a
nanosecond longer. -/
def widest : RetryPolicy :=
  { baseDelay := ⟨2 ^ 62 * Duration.second, by decide⟩
    maxDelay := ⟨Duration.limit - 1, by decide⟩ }

end Sample

theorem pauses_double_up_to_longest_of_widest :
    1 < 32 ∧ (Sample.widest.pauseBefore 1).nanos = 2 ^ 62 * Duration.second * 2 ∧
      (Sample.widest.pauseBefore 1).nanos ≤ (Sample.widest.pauseBefore 2).nanos ∧
      Sample.widest.baseDelay.times? (factor 2) = none ∧
      (Sample.widest.pauseBefore 2).nanos = Duration.limit - 1 := by
  obtain ⟨_, _, hGrows, _, _, hDoubles⟩ := pauses_double_up_to_longest Sample.widest 1
  obtain ⟨_, hSecond, _⟩ := pauses_double_up_to_longest Sample.widest 2
  have hTooLong : Sample.widest.baseDelay.times? (factor 2) = none := by decide
  exact ⟨by decide, hDoubles (by decide) (by decide), hGrows 2 (by decide), hTooLong,
    hSecond.trans (by decide)⟩

end RetryPolicy

end RpcTransport
