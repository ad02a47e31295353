/-! Finite doubles as exact numbers. A double is a whole number below 2^53 of steps, where a step
is 2^-1074 times a power of two. -/
namespace RpcTransport

/-- `mantissa * 2 ^ shift` steps of 2^-1074. Values built here have a mantissa
below 2^53, at least 2^52 unless `shift` is zero, and a shift of at most 2045. -/
structure Binary64 where
  negative : Bool
  mantissa : Nat
  shift : Nat
  deriving DecidableEq, Repr

/-- The whole number nearest to a quotient, the even one of two. -/
def roundEven (num den : Nat) : Nat :=
  let whole := num / den
  let rest := num % den
  if 2 * rest < den then whole
  else if den < 2 * rest then whole + 1
  else whole + whole % 2

namespace Binary64

/-- The number of steps in one. -/
def one : Nat := Nat.pow 2 1074

/-- The number of steps in the magnitude. -/
def steps (f : Binary64) : Nat :=
  f.mantissa * Nat.pow 2 f.shift

def isZero (f : Binary64) : Bool :=
  f.mantissa == 0

/-- Equality of values: the two zeros are equal. -/
def sameValue (f g : Binary64) : Bool :=
  f = g || (f.isZero && g.isZero)

/-- The double nearest to `num / den` steps, with an even mantissa for a tie. -/
def nearest? (negative : Bool) (num den : Nat) : Option Binary64 :=
  let shift := (num / den).log2 + 1 - 53
  let mantissa := roundEven num (den * Nat.pow 2 shift)
  let (mantissa, shift) :=
    if mantissa = Nat.pow 2 53 then (Nat.pow 2 52, shift + 1) else (mantissa, shift)
  if shift ≤ 2045 then some ⟨negative, mantissa, shift⟩ else none

def times? (f g : Binary64) : Option Binary64 :=
  nearest? (f.negative != g.negative) (f.steps * g.steps) one

def dividedBy? (f g : Binary64) : Option Binary64 :=
  nearest? (f.negative != g.negative) (f.steps * one) g.steps

def ofNat? (negative : Bool) (n : Nat) : Option Binary64 :=
  nearest? negative (n * one) 1

def powerOfTen? (n : Nat) : Option Binary64 :=
  ofNat? false (Nat.pow 10 n)

/-- The largest power of ten below the largest double. -/
def greatestPower : Nat := 308

/-- Division by `10 ^ n`, in parts of `10 ^ 308`. Each part is rounded. -/
def scaledDown? (f : Binary64) (n : Nat) : Option Binary64 :=
  if _ : n ≤ greatestPower then do f.dividedBy? (← powerOfTen? n)
  else if f.isZero then some f
  else do
    let g ← f.dividedBy? (← powerOfTen? greatestPower)
    g.scaledDown? (n - greatestPower)
termination_by n
decreasing_by simp only [greatestPower] at *; omega

/-- Multiplication by `10 ^ n`. Only zero survives a power that is no double. -/
def scaledUp? (f : Binary64) (n : Nat) : Option Binary64 :=
  if n ≤ greatestPower then do f.times? (← powerOfTen? n)
  else if f.isZero then some f
  else none

/-- The double written as `digits * 10 ^ exponent`. The digits are rounded to a
double first and the power of ten is a double of its own, so the result can
miss the nearest double by a little when there are many digits. -/
def ofDecimal? (negative : Bool) (digits : Nat) (exponent : Int) : Option Binary64 := do
  let f ← ofNat? negative digits
  if exponent < 0 then f.scaledDown? exponent.natAbs else f.scaledUp? exponent.toNat

end Binary64

end RpcTransport
