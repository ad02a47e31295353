import RpcTransport.Error
import RpcTransport.Text.Lines
import RpcTransport.Text.Utf8

/-! Bodies as sequences of lines. How the bytes are cut into chunks makes no difference, and a
chunk that fails drops the unfinished line. -/
namespace RpcTransport

abbrev BodyItem := Except Error String

namespace Body

def lineFeed : UInt8 := 10

def carriageReturn : UInt8 := 13

/-- The bytes of one line as text. -/
def ofBytes (bytes : List UInt8) : BodyItem :=
  (Text.Utf8.decode bytes).mapError fun fault => .malformed (.notUtf8 fault)

/-- The bytes behind the last line feed. -/
structure Assembler where
  unfinished : List UInt8 := []
  deriving DecidableEq, Repr

namespace Assembler

/-- The lines that a chunk completes. -/
def push (assembler : Assembler) (chunk : List UInt8) : List BodyItem × Assembler :=
  let (closed, rest) := Text.pieces lineFeed (assembler.unfinished ++ chunk)
  (closed.map fun piece => ofBytes (Text.withoutReturn carriageReturn piece), ⟨rest⟩)

/-- The end of the bytes is the end of a line, unless nothing is unfinished. -/
def finish (assembler : Assembler) : List BodyItem :=
  if assembler.unfinished.isEmpty then [] else [ofBytes assembler.unfinished]

end Assembler

/-- The items of a body that arrives in chunks. -/
def ofChunksFrom (assembler : Assembler) : List (Except String (List UInt8)) → List BodyItem
  | [] => assembler.finish
  | .error text :: _ => [.error (.interrupted text)]
  | .ok chunk :: chunks =>
    let (items, next) := assembler.push chunk
    items ++ ofChunksFrom next chunks

def ofChunks (chunks : List (Except String (List UInt8))) : List BodyItem :=
  ofChunksFrom {} chunks

def ofLines (lines : List String) : List BodyItem :=
  lines.map .ok

def ofText (text : String) : List BodyItem :=
  ofLines (Text.lines text)

end Body

end RpcTransport
