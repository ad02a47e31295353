import RpcTransport.Text.Blank
import RpcTransport.Text.Affix

/-! Frames of an event stream. Lines are trimmed first, so a field with an empty value is no
field. -/
namespace RpcTransport

structure Frame where
  /-- The last `id: ` line, if there was one. -/
  id : Option String
  /-- The last `event: ` line, empty if there was none. -/
  event : String
  /-- All `data: ` lines, with a line feed between them. -/
  data : String
  deriving DecidableEq, Repr

namespace Frame

/-- Frames of this type carry messages. -/
def isMessage (frame : Frame) : Bool :=
  frame.event == "message"

/-- The id from which a stream can be resumed. An empty id is none. -/
def resumptionId (frame : Frame) : Option String :=
  frame.id.filter (· ≠ "")

end Frame

/-- A frame that is not closed yet. It is one only once a line has counted. -/
structure Frame.Draft where
  id : Option String := none
  event : String := ""
  data : List String := []
  started : Bool := false
  deriving DecidableEq, Repr

namespace Frame.Draft

/-- What stands between two frames. -/
def empty : Draft := {}

/-- Closes the frame, if it has been started. -/
def close (draft : Draft) : Option Frame × Draft :=
  if draft.started then
    (some ⟨draft.id, draft.event, "\n".intercalate draft.data⟩, empty)
  else (none, draft)

/-- Takes one line, without its line end. A blank line closes the frame. -/
def add (draft : Draft) (line : String) : Option Frame × Draft :=
  let line := Text.trim line
  if line = "" then draft.close
  else if let some event := Text.after? "event: " line then
    (none, { draft with event := Text.trim event, started := true })
  else if let some data := Text.after? "data: " line then
    (none, { draft with data := draft.data ++ [data], started := true })
  else if let some id := Text.after? "id: " line then
    (none, { draft with id := some (Text.trim id), started := true })
  else (none, draft)

/-- The frames that the lines close, and what is open behind them. -/
def addAll (draft : Draft) : List String → List Frame × Draft
  | [] => ([], draft)
  | line :: lines =>
    let (frame, next) := draft.add line
    let (frames, last) := next.addAll lines
    (frame.toList ++ frames, last)

end Frame.Draft

/-- The frames of a complete stream. The end of the stream closes a frame too. -/
def Frame.ofLines (lines : List String) : List Frame :=
  let (frames, draft) := Draft.empty.addAll lines
  frames ++ draft.close.1.toList

end RpcTransport
