import RpcTransport.Json.Numeral

/-! Reading JSON. The recursion counts down a number that grows with the text and is never used up. -/
namespace RpcTransport.Json

namespace Reader

def isSpace (c : Char) : Bool :=
  c == ' ' || c == '\t' || c == '\n' || c == '\r'

def skipSpace (cs : List Char) : List Char :=
  cs.dropWhile isSpace

/-- Reads the characters of a word such as `null`. -/
def word (value : Json) : (expected : List Char) → List Char → Except Fault (Json × List Char)
  | [], rest => .ok (value, rest)
  | _ :: _, [] => .error (.before .endInValue [])
  | e :: es, c :: cs =>
    if c = e then word value es cs else .error (.atFirst .expectedWord (c :: cs))

def hexValue? (c : Char) : Option Nat :=
  if c.isDigit then some (c.toNat - '0'.toNat)
  else if 'a' ≤ c ∧ c ≤ 'f' then some (c.toNat - 'a'.toNat + 10)
  else if 'A' ≤ c ∧ c ≤ 'F' then some (c.toNat - 'A'.toNat + 10)
  else none

/-- Reads four hexadecimal digits. A fault is noticed only after four bytes. -/
def hex (cs : List Char) : Except Fault (Nat × List Char) :=
  match (cs.take 4).mapM hexValue? with
  | some [a, b, c, d] => .ok (((a * 16 + b) * 16 + c) * 16 + d, cs.drop 4)
  | _ =>
    if byteLength cs < 4 then .error (.before .endInString [])
    else .error ⟨.invalidEscape, byteLength cs - 4⟩

def isLeading (unit : Nat) : Bool :=
  0xD800 ≤ unit && unit ≤ 0xDBFF

def isTrailing (unit : Nat) : Bool :=
  0xDC00 ≤ unit && unit ≤ 0xDFFF

/-- Reads the one character `c` in the middle of a pair of surrogates. -/
def between (c : Char) : List Char → Except Fault (List Char)
  | [] => .error (.before .endInString [])
  | d :: cs =>
    if d = c then .ok cs else .error (.atFirst .unfinishedSurrogates (d :: cs))

/-- Reads a character given by its code units, behind the letter u. A leading
surrogate must be followed by an escaped trailing one. -/
def codeUnits (cs : List Char) : Except Fault (Char × List Char) := do
  let (unit, rest) ← hex cs
  if isTrailing unit then throw (.before .loneSurrogate rest)
  if isLeading unit then
    let rest ← between '\\' rest
    let rest ← between 'u' rest
    let (trail, rest) ← hex rest
    if isTrailing trail then
      return (.ofNat ((unit - 0xD800) * 0x400 + (trail - 0xDC00) + 0x10000), rest)
    throw (.before .loneSurrogate rest)
  return (.ofNat unit, rest)

/-- The escapes of one letter. -/
def letter? (c : Char) : Option Char :=
  match c with
  | '"' => some '"'
  | '\\' => some '\\'
  | '/' => some '/'
  | 'b' => some '\x08'
  | 'f' => some '\x0c'
  | 'n' => some '\n'
  | 'r' => some '\r'
  | 't' => some '\t'
  | _ => none

/-- Reads an escaped character behind the backslash. -/
def escape : List Char → Except Fault (Char × List Char)
  | [] => .error (.before .endInString [])
  | c :: cs =>
    if c = 'u' then codeUnits cs
    else match letter? c with
      | some d => .ok (d, cs)
      | none => .error (.atFirst .invalidEscape (c :: cs))

/-- Reads the characters of a string up to and including the closing quote. -/
def characters : (fuel : Nat) → List Char → Except Fault (List Char × List Char)
  | 0, cs => .error (.before .endInString cs)
  | _ + 1, [] => .error (.before .endInString [])
  | fuel + 1, c :: cs =>
    if c = '"' then .ok ([], cs)
    else if c = '\\' then do
      let (d, rest) ← escape cs
      let (ds, rest) ← characters fuel rest
      return (d :: ds, rest)
    else if c.toNat < 0x20 then .error (.atFirst .controlCharacter (c :: cs))
    else do
      let (ds, rest) ← characters fuel cs
      return (c :: ds, rest)

/-- Reads a string behind the opening quote. -/
def string (cs : List Char) : Except Fault (String × List Char) := do
  let (ds, rest) ← characters (cs.length + 1) cs
  return (.ofList ds, rest)

/-- Reads the colon between a key and its value. -/
def colon (cs : List Char) : Except Fault (List Char) :=
  match skipSpace cs with
  | [] => .error (.before .endInObject [])
  | c :: rest =>
    if c = ':' then .ok rest else .error (.atFirst .expectedColon (c :: rest))

mutual

/-- Reads a value. `depth` more arrays and objects may be opened. -/
def value : (fuel depth : Nat) → List Char → Except Fault (Json × List Char)
  | 0, _, cs => .error (.before .endInValue cs)
  | fuel + 1, depth, cs =>
    match skipSpace cs with
    | [] => .error (.before .endInValue [])
    | c :: rest =>
      if c = 'n' then word .null ['u', 'l', 'l'] rest
      else if c = 't' then word (.bool true) ['r', 'u', 'e'] rest
      else if c = 'f' then word (.bool false) ['a', 'l', 's', 'e'] rest
      else if c = '-' then do
        let (n, rest) ← Numeral.read true rest
        return (.number n, rest)
      else if c.isDigit then do
        let (n, rest) ← Numeral.read false (c :: rest)
        return (.number n, rest)
      else if c = '"' then do
        let (s, rest) ← string rest
        return (.string s, rest)
      else if c = '[' then
        match depth with
        | 0 => .error (.atFirst .tooDeep (c :: rest))
        | depth + 1 => do
          let (items, rest) ← items fuel depth rest
          return (.array items, rest)
      else if c = '{' then
        match depth with
        | 0 => .error (.atFirst .tooDeep (c :: rest))
        | depth + 1 => do
          let (members, rest) ← members fuel depth rest
          return (.object members, rest)
      else .error (.atFirst .expectedValue (c :: rest))
termination_by structural fuel => fuel

/-- Reads the items of an array behind its opening bracket. -/
def items : (fuel depth : Nat) → List Char → Except Fault (List Json × List Char)
  | 0, _, cs => .error (.before .endInList cs)
  | fuel + 1, depth, cs =>
    match skipSpace cs with
    | [] => .error (.before .endInList [])
    | c :: rest =>
      if c = ']' then .ok ([], rest)
      else do
        let (item, rest) ← value fuel depth (c :: rest)
        let (more, rest) ← moreItems fuel depth rest
        return (item :: more, rest)
termination_by structural fuel => fuel

/-- Reads on behind an item of an array. -/
def moreItems : (fuel depth : Nat) → List Char → Except Fault (List Json × List Char)
  | 0, _, cs => .error (.before .endInList cs)
  | fuel + 1, depth, cs =>
    match skipSpace cs with
    | [] => .error (.before .endInList [])
    | c :: rest =>
      if c = ']' then .ok ([], rest)
      else if c = ',' then
        match skipSpace rest with
        | [] => .error (.before .endInValue [])
        | d :: rest =>
          if d = ']' then .error (.atFirst .trailingComma (d :: rest))
          else do
            let (item, rest) ← value fuel depth (d :: rest)
            let (more, rest) ← moreItems fuel depth rest
            return (item :: more, rest)
      else .error (.atFirst .expectedCommaOrBracket (c :: rest))
termination_by structural fuel => fuel

/-- Reads the members of an object behind its opening brace. -/
def members : (fuel depth : Nat) → List Char →
    Except Fault (List (String × Json) × List Char)
  | 0, _, cs => .error (.before .endInObject cs)
  | fuel + 1, depth, cs =>
    match skipSpace cs with
    | [] => .error (.before .endInObject [])
    | c :: rest =>
      if c = '}' then .ok ([], rest)
      else if c = '"' then do
        let (key, rest) ← string rest
        let (value, rest) ← value fuel depth (← colon rest)
        let (more, rest) ← moreMembers fuel depth rest
        return ((key, value) :: more, rest)
      else .error (.atFirst .keyNotString (c :: rest))
termination_by structural fuel => fuel

/-- Reads on behind a member of an object. -/
def moreMembers : (fuel depth : Nat) → List Char →
    Except Fault (List (String × Json) × List Char)
  | 0, _, cs => .error (.before .endInObject cs)
  | fuel + 1, depth, cs =>
    match skipSpace cs with
    | [] => .error (.before .endInObject [])
    | c :: rest =>
      if c = '}' then .ok ([], rest)
      else if c = ',' then
        match skipSpace rest with
        | [] => .error (.before .endInValue [])
        | d :: rest =>
          if d = '"' then do
            let (key, rest) ← string rest
            let (value, rest) ← value fuel depth (← colon rest)
            let (more, rest) ← moreMembers fuel depth rest
            return ((key, value) :: more, rest)
          else if d = '}' then .error (.atFirst .trailingComma (d :: rest))
          else .error (.atFirst .keyNotString (d :: rest))
      else .error (.atFirst .expectedCommaOrBrace (c :: rest))
termination_by structural fuel => fuel

end

/-- The number of arrays and objects that may be open at once. -/
def greatestDepth : Nat := 127

/-- Reads the value at the start of a text. Two calls are spent on each
character at most. -/
def start (cs : List Char) : Except Fault (Json × List Char) :=
  value (2 * cs.length + 2) greatestDepth cs

/-- Only white space may follow the value. -/
def finish (rest : List Char) : Except Fault Unit :=
  match skipSpace rest with
  | [] => .ok ()
  | c :: rest => .error (.atFirst .trailingCharacters (c :: rest))

end Reader

/-- Reads a text that is one value, as it is written. -/
def read (s : String) : Except SyntaxError Json := do
  let outcome : Except Fault Json := do
    let (json, rest) ← Reader.start s.toList
    Reader.finish rest
    return json
  outcome.mapError (·.within s.toList)

/-- Reads a text that is one value, with every object in order. -/
def parse (s : String) : Except SyntaxError Json :=
  (read s).map sorted

end RpcTransport.Json
