import RpcTransport.Json.Basic
import RpcTransport.Json.Fault

/-! Reading a number. Digits are kept as long as their value stays below 2^64. Later ones of the
whole part are powers of ten, and later ones of the fraction do not count. -/
namespace RpcTransport.Json

namespace Numeral

def digitValue (c : Char) : Nat :=
  c.toNat - '0'.toNat

def startsWithDigit : List Char → Bool
  | [] => false
  | c :: _ => c.isDigit

def skipDigits (cs : List Char) : List Char :=
  cs.dropWhile Char.isDigit

/-- Appends digits to `kept` as long as the value stays below 2^64. Yields the
value, the number of digits appended, and the rest. -/
def keep (kept : Nat) : List Char → Nat × Nat × List Char
  | [] => (kept, 0, [])
  | c :: cs =>
    let next := kept * 10 + digitValue c
    if c.isDigit ∧ next < UInt64.size then
      let (value, count, rest) := keep next cs
      (value, count + 1, rest)
    else (kept, 0, c :: cs)

/-- The sign and the digits read so far, which stand for
`digits * 10 ^ exponent`. -/
structure Draft where
  negative : Bool
  digits : Nat
  exponent : Int

/-- Completes a double. -/
def Draft.double (draft : Draft) (rest : List Char) :
    Except Fault (Number × List Char) :=
  match Binary64.ofDecimal? draft.negative draft.digits draft.exponent with
  | some f => .ok (.double f, rest)
  | none => .error (.before .numberOutOfRange rest)

/-- The largest exponent that is read to its end. -/
def greatestExponent : Nat := Nat.pow 2 31 - 1

/-- Reads the digits of an exponent behind the first ones. Beyond the largest
exponent only the sign of the exponent matters. -/
def exponentDigits (draft : Draft) (down : Bool) (value : Nat) :
    List Char → Except Fault (Number × List Char)
  | [] => signed value []
  | c :: cs =>
    if c.isDigit then
      let next := value * 10 + digitValue c
      if next ≤ greatestExponent then exponentDigits draft down next cs
      else if draft.digits ≠ 0 ∧ ¬down then .error (.before .numberOutOfRange cs)
      else .ok (.double ⟨draft.negative, 0, 0⟩, skipDigits cs)
    else signed value (c :: cs)
where
  signed (value : Nat) (rest : List Char) : Except Fault (Number × List Char) :=
    let shift : Int := if down then -value else value
    { draft with exponent := draft.exponent + shift }.double rest

/-- Reads an exponent behind its letter. -/
def exponent (draft : Draft) (cs : List Char) : Except Fault (Number × List Char) :=
  let (down, unsigned) := match cs with
    | '-' :: rest => (true, rest)
    | '+' :: rest => (false, rest)
    | rest => (false, rest)
  match unsigned with
  | [] => .error (.before .endInValue [])
  | c :: rest =>
    if c.isDigit then exponentDigits draft down (digitValue c) rest
    else .error (.atFirst .invalidNumber (c :: rest))

/-- Goes on behind the digits of a double. -/
def afterDigits (draft : Draft) : List Char → Except Fault (Number × List Char)
  | [] => draft.double []
  | c :: cs =>
    if c = 'e' ∨ c = 'E' then exponent draft cs else draft.double (c :: cs)

/-- Reads the digits behind the point. -/
def fraction (draft : Draft) (cs : List Char) : Except Fault (Number × List Char) :=
  let (digits, count, rest) := keep draft.digits cs
  let draft := { draft with digits, exponent := draft.exponent - count }
  if startsWithDigit rest then afterDigits draft (skipDigits rest)
  else if count = 0 then
    .error (.atFirst (if rest.isEmpty then .endInValue else .invalidNumber) rest)
  else afterDigits draft rest

/-- The number whose digits all fit. -/
def whole (negative : Bool) (digits : Nat) (rest : List Char) :
    Except Fault (Number × List Char) :=
  if ¬negative then .ok (.integer digits, rest)
  else if digits ≠ 0 ∧ digits ≤ Nat.pow 2 63 then .ok (.integer (-digits), rest)
  else Draft.double ⟨true, digits, 0⟩ rest

/-- Goes on behind the whole part, all of whose digits fit. -/
def afterWhole (negative : Bool) (digits : Nat) :
    List Char → Except Fault (Number × List Char)
  | [] => whole negative digits []
  | c :: cs =>
    if c = '.' then fraction ⟨negative, digits, 0⟩ cs
    else if c = 'e' ∨ c = 'E' then exponent ⟨negative, digits, 0⟩ cs
    else whole negative digits (c :: cs)

/-- Goes on with a whole part that has digits left over. -/
def afterLongWhole (negative : Bool) (digits : Nat) (cs : List Char) :
    Except Fault (Number × List Char) :=
  let surplus := (cs.takeWhile Char.isDigit).length
  let draft : Draft := ⟨negative, digits, surplus⟩
  match skipDigits cs with
  | '.' :: rest => fraction draft rest
  | rest => afterDigits draft rest

/-- Reads a number behind its sign. Only a lone zero may start with a zero. -/
def read (negative : Bool) : List Char → Except Fault (Number × List Char)
  | [] => .error (.before .endInValue [])
  | c :: cs =>
    if c = '0' then
      if startsWithDigit cs then .error (.atFirst .invalidNumber cs)
      else afterWhole negative 0 cs
    else if c.isDigit then
      let (digits, _, rest) := keep (digitValue c) cs
      if startsWithDigit rest then afterLongWhole negative digits rest
      else afterWhole negative digits rest
    else .error (.atFirst .invalidNumber (c :: cs))

end Numeral

end RpcTransport.Json
