import RpcTransport.Json.Printer
import RpcTransport.Text.Quoted

namespace RpcTransport.Json

/-- What was found instead of the expected kind of value. -/
inductive Found where
  | null
  | bool (value : Bool)
  | integer (value : Int)
  | double (value : Binary64)
  | string (value : String)
  | array
  | object
  deriving DecidableEq, Repr

inductive Mismatch where
  | kind (found : Found) (expected : String)
  | range (value : Int) (expected : String)
  deriving DecidableEq, Repr

/-- A number is shown as it is printed. -/
def Found.text : Found → String
  | .null => "null"
  | .bool value => s!"boolean `{value}`"
  | .integer value => s!"integer `{String.ofList (integerText value)}`"
  | .double value => s!"floating point `{String.ofList (layout.text value)}`"
  | .string value => s!"string {Text.quoted value}"
  | .array => "sequence"
  | .object => "map"

def Mismatch.message : Mismatch → String
  | .kind found expected => s!"invalid type: {found.text}, expected {expected}"
  | .range value expected =>
    s!"invalid value: {(Found.integer value).text}, expected {expected}"

def found : Json → Found
  | .null => .null
  | .bool value => .bool value
  | .number (.integer value) => .integer value
  | .number (.double value) => .double value
  | .string value => .string value
  | .array _ => .array
  | .object _ => .object

def toBool : Json → Except Mismatch Bool
  | .bool value => .ok value
  | json => .error (.kind json.found "a boolean")

def toText : Json → Except Mismatch String
  | .string value => .ok value
  | json => .error (.kind json.found "a string")

/-- A whole number from `least` to `greatest`. The range has a name. -/
def toInteger (least greatest : Int) (name : String) : Json → Except Mismatch Int
  | .number (.integer value) =>
    if least ≤ value ∧ value ≤ greatest then .ok value else .error (.range value name)
  | json => .error (.kind json.found name)

/-- A whole number of 64 bits with sign. -/
def toSigned64 : Json → Except Mismatch Int :=
  toInteger (-Nat.pow 2 63) (Nat.pow 2 63 - 1) "i64"

/-- A whole number of 8 bits without sign. -/
def toUnsigned8 : Json → Except Mismatch Int :=
  toInteger 0 255 "u8"

def toTexts : Json → Except Mismatch (List String)
  | .array items => items.mapM toText
  | json => .error (.kind json.found "a sequence")

/-- The null value stands for an absent one. -/
def toOptional {α : Type} (convert : Json → Except Mismatch α) :
    Json → Except Mismatch (Option α)
  | .null => .ok none
  | json => (convert json).map some

end RpcTransport.Json
