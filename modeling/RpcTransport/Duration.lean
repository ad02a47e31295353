/-! Spans of time in nanoseconds. Whole seconds are limited to 64 bits. -/
namespace RpcTransport

/-- The milliseconds of thirty years of 365 days. -/
def Timer.longest : Nat := 30 * 365 * 24 * 60 * 60 * 1000

/-- The milliseconds for which a timer runs that is set to a number of them. -/
def Timer.length (milliseconds : Nat) : Nat :=
  Nat.min milliseconds Timer.longest

/-- The nanoseconds of a second. -/
def Duration.second : Nat := 1000000000

/-- The first number of nanoseconds that is no duration. -/
def Duration.limit : Nat := UInt64.size * Duration.second

@[ext]
structure Duration where
  nanos : Nat
  nanos_lt : nanos < Duration.limit
  deriving DecidableEq, Repr

namespace Duration

/-- The duration of that many nanoseconds, if it is not too long. -/
def ofNanos? (nanos : Nat) : Option Duration :=
  if h : nanos < limit then some ⟨nanos, h⟩ else none

/-- The duration of at most 2^32 seconds. -/
def ofSeconds (seconds : UInt32) : Duration :=
  ⟨seconds.toNat * second, by
    have := seconds.toNat_lt
    simp only [limit, second, UInt64.size]
    omega⟩

/-- The whole seconds. -/
def seconds (d : Duration) : Nat :=
  d.nanos / second

/-- The nanoseconds beyond the whole seconds. -/
def subsecond (d : Duration) : Nat :=
  d.nanos % second

/-- The milliseconds, rounded up. -/
def milliseconds (d : Duration) : Nat :=
  (d.nanos + 999999) / 1000000

def min (a b : Duration) : Duration :=
  if a.nanos ≤ b.nanos then a else b

def max (a b : Duration) : Duration :=
  if a.nanos ≤ b.nanos then b else a

/-- The multiple, unless it is too long. -/
def times? (d : Duration) (factor : Nat) : Option Duration :=
  ofNanos? (d.nanos * factor)

end Duration

end RpcTransport
