import RpcTransport.Proofs.Rendering
import RpcTransport.Proofs.Tasks

/-! A server with a log of events. That it acts as one is a property of the records of a run. -/
namespace RpcTransport.Transport

variable {M H B : Type}

namespace Settings

/-- The id of the last event is the value of its header, if no header with that name
is configured. -/
theorem header?_openRequest {settings : Settings M}
    (hHeaders : ∀ header ∈ settings.config.headers,
      Text.sameLetters header.1 "Last-Event-ID" = false) (token : ResumptionToken) :
    (settings.openRequest token).header? "Last-Event-ID" = token := by
  have hAccept : Text.sameLetters "Accept" "Last-Event-ID" = false := by decide
  have hConfig : settings.config.headers.find?
      (fun header => Text.sameLetters header.1 "Last-Event-ID") = none :=
    List.find?_eq_none.mpr fun header hHeader => by simp [hHeaders header hHeader]
  have hOwn : Text.sameLetters "Last-Event-ID" "Last-Event-ID" = true := by decide
  cases token <;>
    simp [openRequest, request, Http.Request.header?, Http.Headers.value?,
      Http.Request.withHeader, Http.Request.withHeaders, hAccept, hConfig, hOwn]

end Settings

/-- The message that a stream task has with its handler. -/
def Task.handed? : Task M H B → Option (H × M)
  | .streaming _ (.receiving (.handing handler message _ _ _ _ _)) => some (handler, message)
  | _ => none

namespace Record

/-- The messages that stream tasks gave to handlers, in order. -/
def streamed (records : List (Record M H B)) : List (H × M) :=
  records.filterMap fun record => record.turn.task?.bind Task.handed?

@[simp] theorem streamed_append (records more : List (Record M H B)) :
    streamed (records ++ more) = streamed records ++ streamed more :=
  List.filterMap_append

theorem streamed_of_not_streaming {record : Record M H B}
    (h : ∀ next, record.turn.step = .wait next → next.isStreaming = false) :
    streamed [record] = [] := by
  have hNone : record.turn.task?.bind Task.handed? = none := by
    cases hTask : record.turn.task? with
    | none => rfl
    | some task =>
        have hKind := h task (Turn.task?_eq_some.mp hTask)
        cases task with
        | streaming owner point => cases hKind
        | _ => rfl
  simp [streamed, hNone]

variable [DecidableEq B]

/-- A stream task takes an item of the body, or its end. -/
def reads (body : B) (record : Record M H B) : Bool :=
  match record.origin with
  | .resumed (.streaming _ (.receiving (.reading own _ _))) (.item _) => own = body
  | _ => false

/-- What is left of a body behind the items that stream tasks took. -/
def unread (contents : B → List BodyItem) (records : List (Record M H B)) (body : B) :
    List BodyItem :=
  (contents body).drop (records.countP (reads body))

theorem not_reads {record : Record M H B} {body : B}
    (h : ∀ owner point item, record.origin ≠ .resumed (.streaming owner point) (.item item)) :
    record.reads body = false := by
  unfold reads
  split
  · rename_i hOrigin
    exact absurd hOrigin (h _ _ _)
  · rfl

theorem unread_of_not_reads (contents : B → List BodyItem) (records : List (Record M H B))
    {record : Record M H B} {body : B} (h : record.reads body = false) :
    unread contents (records ++ [record]) body = unread contents records body := by
  simp [unread, h]

theorem unread_of_reads (contents : B → List BodyItem) (records : List (Record M H B))
    {record : Record M H B} {body : B} (h : record.reads body = true) :
    unread contents (records ++ [record]) body = (unread contents records body).tail := by
  simp [unread, h]

end Record

section Server

variable [DecidableEq B]

/-- What a server with a log, and the handler of its stream, do in one turn. -/
structure Served (settings : Settings M) (handler : H) (log : List (LogEntry settings.codec))
    (contents : B → List BodyItem) (earlier : List (Record M H B)) (record : Record M H B) :
    Prop where
  /-- A stream is an event stream in a body of its own, with the events behind the
  last one that the request names. -/
  streams : ∀ task request response decoder,
    record.origin = .resumed task (.answer (.ok response)) →
    task.wait = (.answer request : Wait M H B) → request.method = .get →
    Decoder.select response = .ok (some decoder) →
    decoder = .eventStream ∧ earlier.countP (Record.reads response.body) = 0 ∧
      ∃ lines, LogEntry.Renders (LogEntry.after log (request.header? "Last-Event-ID")) lines ∧
        LogEntry.Cut lines (contents response.body)
  /-- A stream task is given the items of its body one after the other. -/
  items : ∀ owner body reader handled item,
    record.origin = .resumed (.streaming owner (.receiving (.reading body reader handled)))
      (.item item) → item = (Record.unread contents earlier body).head?
  /-- No message of the stream is refused. -/
  accepts : ∀ owner point result,
    record.origin = .resumed (.streaming owner point) (.verdict result) → result = .ok ()
  /-- The reply to a post has no ids. -/
  anonymous : ∀ owner message body draft handled line,
    record.origin = .resumed
      (.sending owner (.receiving message (.reading body (.events draft) handled)))
      (.item (some (.ok line))) → Text.after? "id: " (Text.trim line) = none
  /-- The stream is read for the handler, whichever call opens it. -/
  owner : ∀ stream, record.turn.stream = some stream → stream.1 = some handler

/-- The server acts in this way in all turns, the earlier ones being known. -/
def Serves (settings : Settings M) (handler : H) (log : List (LogEntry settings.codec))
    (contents : B → List BodyItem) : List (Record M H B) → List (Record M H B) → Prop
  | _, [] => True
  | earlier, record :: later => Served settings handler log contents earlier record ∧
      Serves settings handler log contents (earlier ++ [record]) later

theorem serves_append {settings : Settings M} {handler : H}
    {log : List (LogEntry settings.codec)} {contents : B → List BodyItem}
    {earlier records more : List (Record M H B)} :
    Serves settings handler log contents earlier (records ++ more) ↔
      Serves settings handler log contents earlier records ∧
        Serves settings handler log contents (earlier ++ records) more := by
  induction records generalizing earlier with
  | nil => simp [Serves]
  | cons record records ih => simp [Serves, ih, and_assoc]

end Server

end RpcTransport.Transport
