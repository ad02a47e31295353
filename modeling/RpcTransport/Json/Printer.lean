import RpcTransport.Json.Basic
import RpcTransport.Number.Shortest

namespace RpcTransport.Json

/-- Doubles from 0.00001 up to, but not including, 10^16 need no exponent. -/
def layout : Binary64.Layout :=
  ⟨fun point => -4 ≤ point && point ≤ 16⟩

def digit (n : Nat) : Char :=
  (Nat.toDigits 16 n).headD '0'

/-- One character as it stands in a string. -/
def escaped (c : Char) : List Char :=
  match c with
  | '"' => ['\\', '"']
  | '\\' => ['\\', '\\']
  | '\x08' => ['\\', 'b']
  | '\x0c' => ['\\', 'f']
  | '\n' => ['\\', 'n']
  | '\r' => ['\\', 'r']
  | '\t' => ['\\', 't']
  | c =>
    if c.toNat < 0x20 then
      ['\\', 'u', '0', '0', digit (c.toNat / 16), digit (c.toNat % 16)]
    else [c]

def stringText (s : String) : List Char :=
  '"' :: s.toList.flatMap escaped ++ ['"']

def integerText (n : Int) : List Char :=
  if n < 0 then '-' :: Nat.toDigits 10 n.natAbs else Nat.toDigits 10 n.natAbs

def Number.text : Number → List Char
  | .integer n => integerText n
  | .double f => layout.text f

mutual

def text : Json → List Char
  | .null => ['n', 'u', 'l', 'l']
  | .bool true => ['t', 'r', 'u', 'e']
  | .bool false => ['f', 'a', 'l', 's', 'e']
  | .number n => n.text
  | .string s => stringText s
  | .array items => '[' :: itemsText items
  | .object members => '{' :: membersText members

/-- The items with the bracket that closes them. -/
def itemsText : List Json → List Char
  | [] => [']']
  | [item] => item.text ++ [']']
  | item :: next :: rest => item.text ++ ',' :: itemsText (next :: rest)

/-- The members with the brace that closes them. -/
def membersText : List (String × Json) → List Char
  | [] => ['}']
  | [(key, value)] => stringText key ++ ':' :: value.text ++ ['}']
  | (key, value) :: next :: rest =>
    stringText key ++ ':' :: value.text ++ ',' :: membersText (next :: rest)

end

def compact (json : Json) : String :=
  .ofList json.text

end RpcTransport.Json
