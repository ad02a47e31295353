/-! Why a text is no JSON, and where. A column counts the bytes of its line up to and including
the offending one. -/
namespace RpcTransport.Json

inductive Reason where
  | endInList
  | endInObject
  | endInString
  | endInValue
  | expectedColon
  | expectedCommaOrBracket
  | expectedCommaOrBrace
  | expectedWord
  | expectedValue
  | invalidEscape
  | invalidNumber
  | numberOutOfRange
  | controlCharacter
  | keyNotString
  | loneSurrogate
  | trailingComma
  | trailingCharacters
  | unfinishedSurrogates
  | tooDeep
  deriving DecidableEq, Repr

def Reason.message : Reason → String
  | .endInList => "EOF while parsing a list"
  | .endInObject => "EOF while parsing an object"
  | .endInString => "EOF while parsing a string"
  | .endInValue => "EOF while parsing a value"
  | .expectedColon => "expected `:`"
  | .expectedCommaOrBracket => "expected `,` or `]`"
  | .expectedCommaOrBrace => "expected `,` or `\x7d`"
  | .expectedWord => "expected ident"
  | .expectedValue => "expected value"
  | .invalidEscape => "invalid escape"
  | .invalidNumber => "invalid number"
  | .numberOutOfRange => "number out of range"
  | .controlCharacter => "control character (\\u0000-\\u001F) found while parsing a string"
  | .keyNotString => "key must be a string"
  | .loneSurrogate => "lone leading surrogate in hex escape"
  | .trailingComma => "trailing comma"
  | .trailingCharacters => "trailing characters"
  | .unfinishedSurrogates => "unexpected end of hex escape"
  | .tooDeep => "recursion limit exceeded"

/-- A reason together with the number of bytes behind the place of the fault. -/
structure Fault where
  reason : Reason
  behind : Nat
  deriving DecidableEq, Repr

/-- The length of a text in bytes. -/
def byteLength (cs : List Char) : Nat :=
  (cs.map Char.utf8Size).foldr (· + ·) 0

/-- A fault between what was read and `rest`. -/
def Fault.before (reason : Reason) (rest : List Char) : Fault :=
  ⟨reason, byteLength rest⟩

/-- A fault at the first byte of `rest`, or at the end if there is none. -/
def Fault.atFirst (reason : Reason) (rest : List Char) : Fault :=
  ⟨reason, byteLength rest - 1⟩

structure SyntaxError where
  reason : Reason
  line : Nat
  column : Nat
  deriving DecidableEq, Repr

def SyntaxError.message (error : SyntaxError) : String :=
  s!"{error.reason.message} at line {error.line} column {error.column}"

/-- The line and column that `offset` bytes from here lead to. -/
def locate (line column : Nat) : (offset : Nat) → List Char → Nat × Nat
  | _, [] => (line, column)
  | offset, c :: cs =>
    if offset < c.utf8Size then (line, column + offset)
    else if c = '\n' then locate (line + 1) 0 (offset - c.utf8Size) cs
    else locate line (column + c.utf8Size) (offset - c.utf8Size) cs

/-- The fault with its place in the whole text. -/
def Fault.within (fault : Fault) (whole : List Char) : SyntaxError :=
  let (line, column) := locate 1 0 (byteLength whole - fault.behind) whole
  ⟨fault.reason, line, column⟩

end RpcTransport.Json
