import RpcTransport.Number.Binary64

/-! The shortest decimal that still names a double. Seventeen digits always suffice. -/
namespace RpcTransport

/-- `0.d₁d₂… * 10 ^ point` for significant digits `d₁d₂…`. -/
structure Significant where
  digits : List Char
  point : Int
  deriving DecidableEq, Repr

namespace Binary64

/-- A quarter of a step is the unit in which interval ends are whole numbers. -/
def quarter : Nat := 4 * one

/-- The lower end of the interval that rounds to the double, in quarter steps.
Below a power of two the doubles lie twice as close. -/
def lowerEnd (f : Binary64) : Nat :=
  let gap := if f.mantissa = Nat.pow 2 52 ∧ 0 < f.shift then 1 else 2
  4 * f.steps - gap * Nat.pow 2 f.shift

def upperEnd (f : Binary64) : Nat :=
  4 * f.steps + 2 * Nat.pow 2 f.shift

/-- The number of decimal digits of a whole number, one for zero. -/
def digitCount (n : Nat) : Nat :=
  (Nat.toDigits 10 n).length

/-- The power of ten of the leading digit of a double that is not zero. -/
def leadingPower (f : Binary64) : Int :=
  if one ≤ f.steps then (digitCount (f.steps / one) : Int) - 1
  else
    let least := digitCount (one / f.steps) - 1
    if one ≤ f.steps * Nat.pow 10 least then -(least : Int) else -(least + 1 : Int)

/-- Whether `digits * 10 ^ power` lies in the interval. The ends belong to it
if the mantissa is even, because a tie is rounded to the even neighbour. -/
def admits (f : Binary64) (digits : Nat) (power : Int) : Bool :=
  let value := digits * quarter * Nat.pow 10 power.toNat
  let scale := Nat.pow 10 (-power).toNat
  let low := f.lowerEnd * scale
  let high := f.upperEnd * scale
  if f.mantissa % 2 = 0 then low ≤ value && value ≤ high
  else low < value && value < high

/-- The neighbour of the double on the grid `10 ^ power` that names it, if any.
The nearer one is preferred, then the even one. -/
def neighbour? (f : Binary64) (power : Int) : Option Nat :=
  let num := 4 * f.steps * Nat.pow 10 (-power).toNat
  let den := quarter * Nat.pow 10 power.toNat
  let below := num / den
  let nearer := roundEven num den
  let farther := if nearer = below then below + 1 else below
  if f.admits nearer power then some nearer
  else if f.admits farther power then some farther
  else none

/-- The significant digits of a double that is not zero. -/
def shortest (f : Binary64) : Significant :=
  let lead := f.leadingPower
  let found := (List.range 17).findSome? fun (more : Nat) =>
    (f.neighbour? (lead - (more : Int))).map fun digits => (digits, lead - (more : Int))
  let (digits, power) := found.getD (0, 0)
  let written := Nat.toDigits 10 digits
  let kept := (written.reverse.dropWhile (· == '0')).reverse
  ⟨kept, power + written.length⟩

/-- How numbers are laid out: the points for which no exponent is written. -/
structure Layout where
  positional : Int → Bool

/-- A number without exponent. There is a digit on each side of the point. -/
def Layout.plain (s : Significant) : List Char :=
  if s.point ≤ 0 then
    '0' :: '.' :: List.replicate (-s.point).toNat '0' ++ s.digits
  else
    let whole := s.point.toNat
    let tail := s.digits.drop whole
    s.digits.take whole ++ List.replicate (whole - s.digits.length) '0' ++
      '.' :: (if tail.isEmpty then ['0'] else tail)

/-- A number with exponent: one digit, the others behind a point if there are
any, and the exponent with its sign. -/
def Layout.scientific (s : Significant) : List Char :=
  let power := s.point - 1
  let fraction := s.digits.drop 1
  s.digits.take 1 ++ (if fraction.isEmpty then [] else '.' :: fraction) ++
    'e' :: (if power < 0 then '-' else '+') :: Nat.toDigits 10 power.natAbs

def Layout.text (layout : Layout) (f : Binary64) : List Char :=
  let magnitude :=
    if f.isZero then ['0', '.', '0']
    else
      let s := f.shortest
      if layout.positional s.point then Layout.plain s else Layout.scientific s
  if f.negative then '-' :: magnitude else magnitude

end Binary64

end RpcTransport
