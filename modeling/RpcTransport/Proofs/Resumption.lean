import RpcTransport.Proofs.Lifecycle
import RpcTransport.Proofs.Standing

/-! Resumption loses and repeats nothing. The log has a part that was handed over completely, with
the token at its end, and at most one stream task is at work on the event behind it. -/
namespace RpcTransport.Transport

variable {M H B : Type}

namespace System

/-- After an action only the tasks of before wait, the one that moved, and one that
reads a stream that was opened. -/
theorem mem_of_mem_step {settings : Settings M} {system : System M H B} {action : Action M H B}
    {record : Record M H B} (hRecord : system.record? settings action = some record)
    {entry : TaskId × Task M H B} (hMem : entry ∈ (system.step settings action).1.tasks) :
    (entry ∈ system.tasks ∧ entry.1 ≠ record.id) ∨ record.turn.step = .wait entry.2 ∨
      record.turn.spawned? = some entry.2 := by
  rw [step_of_record hRecord] at hMem
  rcases WellFormed.mem_of_mem_settle hMem with hReplaced | ⟨_, hSpawned⟩
  · rcases WellFormed.mem_replace.mp hReplaced with ⟨hOld, hNe⟩ | ⟨_, hStep⟩
    · rw [enroll_tasks] at hOld
      exact Or.inl ⟨hOld, hNe⟩
    · exact Or.inr (Or.inl hStep)
  · exact Or.inr (Or.inr hSpawned)

theorem step_token {settings : Settings M} {system : System M H B} {action : Action M H B}
    {record : Record M H B} (hRecord : system.record? settings action = some record) :
    (system.step settings action).1.shared.token = record.turn.shared.token := by
  obtain ⟨streamTask, hShared⟩ := settle_shared (system.enroll action) record.id record.turn
  rw [step_of_record hRecord, hShared]

/-- A stream is opened only while there is no stream task. -/
theorem idle_of_stream {settings : Settings M} {system : System M H B}
    {history : List (Record M H B)} {action : Action M H B} {record : Record M H B}
    (hAccounted : system.Accounted history)
    (hRecord : system.record? settings action = some record)
    (hStream : record.turn.stream.isSome) :
    system.count .streaming = 0 ∧ record.origin.phase = .connecting := by
  cases change_of_record hRecord with
  | opens source before phase after stream =>
      rw [Accounted, before] at hAccounted
      exact ⟨hAccounted.2, source⟩
  | stays phase after stream => simp [stream] at hStream
  | begins source before phase after stream => simp [stream] at hStream
  | accepts source before phase after stream cause => simp [stream] at hStream
  | fails source before phase after stream => simp [stream] at hStream
  | ends source before phase after stream => simp [stream] at hStream
  | drops source phase after stream => simp [stream] at hStream
  | closes source phase after stream => simp [stream] at hStream

/-- While a stream task waits, the others neither connect nor stream. -/
theorem phase_of_other {system : System M H B} {history : List (Record M H B)}
    (h : system.WellFormed) (hAccounted : system.Accounted history) {id : TaskId}
    {task : Task M H B} (hMem : (id, task) ∈ system.tasks) (hPhase : task.phase = .streaming)
    {entry : TaskId × Task M H B} (hEntry : entry ∈ system.tasks) (hNe : entry.1 ≠ id) :
    entry.2.phase = .other := by
  have hOne := hAccounted.le_one
  rw [h.count_eq hMem, h.count_eq hMem .streaming, hPhase] at hOne
  simp only [tally, reduceCtorEq, ite_true, ite_false] at hOne
  have hRest : entry ∈ system.tasks.filter fun entry => entry.1 ≠ id :=
    List.mem_filter.mpr ⟨hEntry, by simpa using hNe⟩
  have hConnecting := List.countP_eq_zero.mp
    (show (system.tasks.filter (fun entry => entry.1 ≠ id)).countP
      (fun entry => entry.2.phase = .connecting) = 0 by omega) entry hRest
  have hStreaming := List.countP_eq_zero.mp
    (show (system.tasks.filter (fun entry => entry.1 ≠ id)).countP
      (fun entry => entry.2.phase = .streaming) = 0 by omega) entry hRest
  cases hEq : entry.2.phase with
  | connecting => simp [hEq] at hConnecting
  | streaming => simp [hEq] at hStreaming
  | other => rfl

variable [DecidableEq B]

/-- A log of which the first events were handed over completely, and of the next one
the given messages. -/
structure Stands (settings : Settings M) (handler : H) (log : List (LogEntry settings.codec))
    (contents : B → List BodyItem) (system : System M H B) (history : List (Record M H B))
    (done later : List (LogEntry settings.codec)) (given : List M) : Prop where
  log : log = done ++ later
  token : system.shared.token = done.getLast?.map (·.id)
  streamed : Record.streamed history =
    (done.flatMap (·.messages) ++ given).map (handler, ·)
  ahead : given <+: later.flatMap (·.messages)
  idle : system.count .streaming = 0 → given = []
  tasks : ∀ entry ∈ system.tasks, entry.2.Stands settings handler system.shared.token later given
    (Record.unread contents history)

namespace Stands

variable {settings : Settings M} {handler : H} {log : List (LogEntry settings.codec)}
  {contents : B → List BodyItem} {system : System M H B} {history : List (Record M H B)}
  {done later : List (LogEntry settings.codec)} {given : List M} {action : Action M H B}
  {record : Record M H B}

/-- A turn of a task that is no stream task leaves the token alone, and its task
stands where it stood. -/
theorem turn_of_other (h : system.Stands settings handler log contents history done later given)
    (hWellFormed : system.WellFormed) (hRecord : system.record? settings action = some record)
    (hServed : Served settings handler log contents history record)
    (hPhase : record.origin.phase ≠ .streaming) :
    record.turn.shared.token = system.shared.token ∧ ∀ next, record.turn.step = .wait next →
      next.isStreaming = false ∧ next.Stands settings handler system.shared.token later given
        (Record.unread contents history) := by
  obtain ⟨_, ⟨call, _, _, _, hTurn⟩ | ⟨task, reply, _, hTask, hOrigin, hTurn⟩⟩ :=
    record_cases hRecord
  · rw [hTurn]
    exact ⟨(call.holds_start settings system.shared).token, fun next hNext =>
      ⟨Call.not_streaming_of_start hNext, Task.stands_start hNext⟩⟩
  · have hKind : task.isStreaming = false := by
      rw [hOrigin] at hPhase
      rw [← Bool.not_eq_true, Task.isStreaming_iff]
      exact hPhase
    have hStands := h.tasks _ (hWellFormed.task?_eq_some.mp hTask)
    obtain ⟨hToken, hNext⟩ := Task.stands_resume hKind hStands
      (fun owner message body draft handled line hPoint hLine =>
        hServed.anonymous owner message body draft handled line
          (by rw [hOrigin, hPoint, hLine])) hTurn
    exact ⟨hToken, fun next hStep =>
      ⟨(Task.isStreaming_of_resume hTurn hStep).trans hKind, hNext next hStep⟩⟩

/-- The answer to a request for the events behind the token brings the events that
are not handed over completely. -/
theorem pending_of_answer
    (h : system.Stands settings handler log contents history done later given)
    (hDistinct : (log.map (·.id)).Nodup)
    (hHeaders : ∀ header ∈ settings.config.headers,
      Text.sameLetters header.1 "Last-Event-ID" = false)
    (hServed : Served settings handler log contents history record) {task : Task M H B}
    {response : Http.Response B} {decoder : Decoder}
    (hOrigin : record.origin = .resumed task (.answer (.ok response)))
    (hWait : task.wait = .answer (settings.openRequest system.shared.token))
    (hSelect : Decoder.select response = .ok (some decoder)) :
    decoder = .eventStream ∧ LogEntry.Pending .empty later
      (Record.unread contents (history ++ [record]) response.body) := by
  obtain ⟨rfl, hFresh, lines, hRenders, hCut⟩ := hServed.streams task _ response decoder hOrigin
    hWait (settings.openRequest_method _) hSelect
  have hEvents : LogEntry.after log
      ((settings.openRequest system.shared.token).header? "Last-Event-ID") = later := by
    rw [Settings.header?_openRequest hHeaders, h.token]
    exact LogEntry.after_eq hDistinct h.log
  have hReads : record.reads response.body = false :=
    Record.not_reads fun owner point item hItem => by
      rw [hOrigin] at hItem
      cases hItem
  rw [hEvents] at hRenders
  rw [Record.unread_of_not_reads _ _ hReads, Record.unread, hFresh, List.drop_zero]
  exact ⟨rfl, hRenders.pending hCut⟩

/-- A stream that is opened has the events that are not handed over completely. -/
theorem spawned (h : system.Stands settings handler log contents history done later given)
    (hDistinct : (log.map (·.id)).Nodup)
    (hHeaders : ∀ header ∈ settings.config.headers,
      Text.sameLetters header.1 "Last-Event-ID" = false)
    (hWellFormed : system.WellFormed) (hRecord : system.record? settings action = some record)
    (hServed : Served settings handler log contents history record)
    (hPhase : record.origin.phase = .connecting) {task : Task M H B}
    (hSpawned : record.turn.spawned? = some task) :
    task.Stands settings handler system.shared.token later []
      (Record.unread contents (history ++ [record])) := by
  obtain ⟨⟨owner, decoder, body⟩, hStream, rfl⟩ := Option.map_eq_some_iff.mp hSpawned
  obtain ⟨_, ⟨call, _, _, hOrigin, _⟩ | ⟨task, reply, _, hTask, hOrigin, hTurn⟩⟩ :=
    record_cases hRecord
  · rw [hOrigin] at hPhase
    cases hPhase
  · obtain ⟨response, hWait, rfl, hSelect, rfl⟩ := Task.stream_of_resume
      (h.tasks _ (hWellFormed.task?_eq_some.mp hTask)) hTurn hStream
    obtain ⟨rfl, hPending⟩ :=
      h.pending_of_answer hDistinct hHeaders hServed hOrigin hWait hSelect
    exact ⟨hServed.owner _ hStream, rfl, .empty, rfl, hPending⟩

/-- A turn of any other task changes nothing but may open the stream. -/
theorem step_of_other (h : system.Stands settings handler log contents history done later given)
    (hDistinct : (log.map (·.id)).Nodup)
    (hHeaders : ∀ header ∈ settings.config.headers,
      Text.sameLetters header.1 "Last-Event-ID" = false)
    (hWellFormed : system.WellFormed) (hAccounted : system.Accounted history)
    (hRecord : system.record? settings action = some record)
    (hServed : Served settings handler log contents history record)
    (hPhase : record.origin.phase ≠ .streaming) :
    (system.step settings action).1.Stands settings handler log contents (history ++ [record])
      done later given := by
  obtain ⟨hToken, hNext⟩ := h.turn_of_other hWellFormed hRecord hServed hPhase
  have hAfter : (system.step settings action).1.shared.token = system.shared.token :=
    (step_token hRecord).trans hToken
  have hSilent : Record.streamed [record] = [] :=
    Record.streamed_of_not_streaming fun next hStep => (hNext next hStep).1
  have hUnread : Record.unread contents (history ++ [record]) = Record.unread contents history := by
    funext body
    apply Record.unread_of_not_reads
    apply Record.not_reads
    intro owner point item hOrigin
    rw [hOrigin] at hPhase
    exact hPhase rfl
  refine ⟨h.log, hAfter.trans h.token, ?_, h.ahead, ?_, ?_⟩
  · rw [Record.streamed_append, hSilent, List.append_nil]
    exact h.streamed
  · intro hIdle
    cases hStream : record.turn.stream with
    | none =>
        have hCount := count_step hWellFormed hRecord hStream .streaming (by decide)
        apply h.idle
        simp only [tally, hPhase, ite_false] at hCount
        omega
    | some stream => exact h.idle (idle_of_stream hAccounted hRecord (by simp [hStream])).1
  · intro entry hEntry
    rw [hAfter]
    rcases mem_of_mem_step hRecord hEntry with ⟨hOld, _⟩ | hStep | hSpawned
    · rw [hUnread]
      exact h.tasks entry hOld
    · rw [hUnread]
      exact (hNext entry.2 hStep).2
    · have hStream : record.turn.stream.isSome := by
        obtain ⟨stream, hStream, _⟩ := Option.map_eq_some_iff.mp hSpawned
        simp [hStream]
      obtain ⟨hIdle, hConnecting⟩ := idle_of_stream hAccounted hRecord hStream
      rw [h.idle hIdle]
      exact h.spawned hDistinct hHeaders hWellFormed hRecord hServed hConnecting hSpawned

/-- The stream task advances along the events that are not handed over completely. -/
theorem turn_of_stream (h : system.Stands settings handler log contents history done later given)
    (hDistinct : (log.map (·.id)).Nodup)
    (hHeaders : ∀ header ∈ settings.config.headers,
      Text.sameLetters header.1 "Last-Event-ID" = false)
    (hServed : Served settings handler log contents history record)
    {owner : Option H} {point : Streaming M H B} {reply : Reply B}
    (hMem : (record.id, .streaming owner point) ∈ system.tasks)
    (hOrigin : record.origin = .resumed (.streaming owner point) reply)
    (hTurn : (Task.streaming owner point).resume settings system.shared reply =
      some record.turn) :
    ∃ turn : Shared H × Step (Streaming M H B) Unit,
      record.turn = .ofStreaming (some handler) turn ∧
      Advances later given system.shared.token turn.1.token (Streaming.handed turn.2)
        fun rest now => Streaming.StandsStep settings handler turn.1.token rest now
          (Record.unread contents (history ++ [record])) turn.2 := by
  obtain ⟨rfl, hStands⟩ := h.tasks _ hMem
  obtain ⟨turn, hResume, hEq⟩ := Option.map_eq_some_iff.mp hTurn
  refine ⟨turn, hEq.symm, Streaming.advances_resume hStands ?_ ?_ ?_ hResume⟩
  · rintro body reader handled item rfl rfl
    have hReads : record.reads body = true := by simp [Record.reads, hOrigin]
    exact ⟨hServed.items _ body reader handled item hOrigin,
      Record.unread_of_reads contents history hReads⟩
  · rintro result rfl
    refine ⟨hServed.accepts _ point result hOrigin, ?_⟩
    funext body
    apply Record.unread_of_not_reads
    apply Record.not_reads
    intro owner point item hItem
    rw [hOrigin] at hItem
    cases hItem
  · rintro request response decoder hWait rfl hSelect
    have hRequest : request = settings.openRequest system.shared.token := by
      rcases point with (_ | _) | (⟨retry, own⟩ | _) <;> cases hWait
      exact hStands.2
    rw [hRequest] at hWait
    exact h.pending_of_answer hDistinct hHeaders hServed hOrigin hWait hSelect

/-- A turn of the stream task advances along the log. -/
theorem step_of_stream (h : system.Stands settings handler log contents history done later given)
    (hDistinct : (log.map (·.id)).Nodup)
    (hHeaders : ∀ header ∈ settings.config.headers,
      Text.sameLetters header.1 "Last-Event-ID" = false)
    (hWellFormed : system.WellFormed) (hAccounted : system.Accounted history)
    (hRecord : system.record? settings action = some record)
    (hServed : Served settings handler log contents history record)
    (hPhase : record.origin.phase = .streaming) :
    ∃ done later given, (system.step settings action).1.Stands settings handler log contents
      (history ++ [record]) done later given := by
  obtain ⟨_, ⟨call, _, _, hOrigin, _⟩ | ⟨task, reply, _, hTask, hOrigin, hTurn⟩⟩ :=
    record_cases hRecord
  · rw [hOrigin] at hPhase
    cases hPhase
  · have hMem := hWellFormed.task?_eq_some.mp hTask
    have hKind : task.phase = .streaming := by
      rw [hOrigin] at hPhase
      exact hPhase
    obtain ⟨owner, point, rfl⟩ := Task.streaming_of_phase hKind
    obtain ⟨turn, hEq, more, rest, now, rfl, hToken, hGiven, hStands⟩ :=
      h.turn_of_stream hDistinct hHeaders hServed hMem hOrigin hTurn
    have hAfter : (system.step settings action).1.shared.token = turn.1.token := by
      rw [step_token hRecord, hEq]
      rfl
    have hStream : record.turn.stream = none := by
      rw [hEq]
      rfl
    refine ⟨done ++ more, rest, now, ?_, ?_, ?_, hStands.ahead, ?_, ?_⟩
    · rw [h.log, List.append_assoc]
    · rw [hAfter, hToken, h.token, List.getLast?_append]
      cases more.getLast? <;> rfl
    · rw [Record.streamed_append, h.streamed, Record.streamed_ofStreaming hStands hEq,
        ← List.map_append, List.append_assoc, hGiven, List.flatMap_append, List.append_assoc]
    · intro hIdle
      have hCount := count_step hWellFormed hRecord hStream .streaming (by decide)
      have hLive := hWellFormed.count_eq hMem .streaming
      rw [hPhase, hIdle, hLive] at hCount
      rcases turn with ⟨shared, next | result⟩
      · have hWaits : record.turn.phase = .streaming := by
          rw [hEq]
          rfl
        rw [hWaits] at hCount
        simp only [tally, Task.phase, ite_true] at hCount
        omega
      · exact hStands
    · intro entry hEntry
      rw [hAfter]
      rcases mem_of_mem_step hRecord hEntry with ⟨hOld, hNe⟩ | hStep | hSpawned
      · exact Task.stands_of_other (phase_of_other hWellFormed hAccounted hMem rfl hOld hNe)
          (h.tasks entry hOld)
      · rw [hEq] at hStep
        obtain ⟨next, hNext, hEntryTask⟩ := Turn.ofStreaming_eq_wait.mp hStep
        rw [hNext] at hStands
        rw [← hEntryTask]
        exact ⟨rfl, hStands⟩
      · simp [Turn.spawned?, hStream] at hSpawned

/-- Every action of a run against the server keeps the log in order. -/
theorem step (h : system.Stands settings handler log contents history done later given)
    (hDistinct : (log.map (·.id)).Nodup)
    (hHeaders : ∀ header ∈ settings.config.headers,
      Text.sameLetters header.1 "Last-Event-ID" = false)
    (hWellFormed : system.WellFormed) (hAccounted : system.Accounted history)
    (hServes : Serves settings handler log contents history
      (system.record? settings action).toList) :
    ∃ done later given, (system.step settings action).1.Stands settings handler log contents
      (history ++ (system.record? settings action).toList) done later given := by
  cases hRecord : system.record? settings action with
  | none =>
      rw [step_of_no_record hRecord, Option.toList_none, List.append_nil]
      exact ⟨done, later, given, h⟩
  | some record =>
      rw [hRecord] at hServes
      by_cases hPhase : record.origin.phase = .streaming
      · exact h.step_of_stream hDistinct hHeaders hWellFormed hAccounted hRecord hServes.1 hPhase
      · exact ⟨done, later, given, h.step_of_other hDistinct hHeaders hWellFormed hAccounted
          hRecord hServes.1 hPhase⟩

end Stands

/-- In every run against a server with a log, the messages that its stream brought are
the beginning of the messages of the log, in order. The token names an event up to
which all of them were handed over. -/
theorem streamed_of_log (settings : Settings M) (handler : H)
    (log : List (LogEntry settings.codec)) (contents : B → List BodyItem)
    (hDistinct : (log.map (·.id)).Nodup)
    (hHeaders : ∀ header ∈ settings.config.headers,
      Text.sameLetters header.1 "Last-Event-ID" = false)
    (actions : List (Action M H B))
    (hServes : Serves settings handler log contents [] (history settings {} actions)) :
    Record.streamed (history settings {} actions) <+:
        (log.flatMap (·.messages)).map (handler, ·) ∧
      ∃ done, done <+: log ∧
        (run settings {} actions).1.shared.token = done.getLast?.map (·.id) ∧
        (done.flatMap (·.messages)).map (handler, ·) <+:
          Record.streamed (history settings {} actions) := by
  have hRun := run_induction settings
    (motive := fun system past => Serves settings handler log contents [] past →
      system.WellFormed ∧ system.Accounted past ∧ ∃ done later given,
        system.Stands settings handler log contents past done later given)
    (fun _ => ⟨wellFormed_start, ⟨rfl, rfl⟩, [], log, [], rfl, rfl, rfl, List.nil_prefix,
      fun _ => rfl, nofun⟩)
    (fun system past action ih hServes => by
      obtain ⟨hPast, hTurn⟩ := serves_append.mp hServes
      obtain ⟨hWellFormed, hAccounted, done, later, given, hStands⟩ := ih hPast
      exact ⟨hWellFormed.step settings action, (accounted_step hWellFormed hAccounted action).1,
        hStands.step hDistinct hHeaders hWellFormed hAccounted hTurn⟩) actions
  obtain ⟨_, _, done, later, given, hStands⟩ := hRun hServes
  rw [hStands.streamed, List.map_append]
  refine ⟨?_, done, ?_, hStands.token, List.prefix_append _ _⟩
  · rw [hStands.log, List.flatMap_append, List.map_append]
    exact (List.prefix_append_right_inj _).mpr (hStands.ahead.map _)
  · rw [hStands.log]
    exact List.prefix_append done later

namespace Sample

def first : LogEntry (Settings.plain false).codec :=
  .ofLine "1" "\x7b\x7d" ["\x7b\x7d"] (by decide) (by decide) rfl

def second : LogEntry (Settings.plain false).codec :=
  .ofLine "2" "\x7b\"b\":[]\x7d" ["\x7b\"b\":[]\x7d"] (by decide) (by decide)
    (by decide +kernel)

/-- The first body breaks off within the second event. The next one brings this event with
its fields in another order. -/
def contents : Nat → List BodyItem
  | 0 => [.ok "event: message", .ok "data: \x7b\x7d", .ok "id: 1", .ok "", .ok "event: message",
      .error (.interrupted "cut")]
  | _ => [.ok "id: 2", .ok "event: message", .ok "data: \x7b\"b\":[]\x7d", .ok ""]

def response (body : Nat) : Http.Response Nat :=
  ⟨200, [("content-type", "text/event-stream")], body⟩

/-- The run up to the request that opens the stream again. -/
def opening : List (Action String String Nat) :=
  [.call (.connect "handler"), .reply 0 (.answer (.ok (response 0)))] ++
  ((contents 0).take 4).map (fun item => .reply 1 (.item (some item))) ++
  [.reply 1 (.verdict (.ok ()))] ++
  ((contents 0).drop 4).map (fun item => .reply 1 (.item (some item)))

def reopening : List (Action String String Nat) :=
  [.reply 1 (.answer (.ok (response 1)))] ++
  (contents 1).map (fun item => .reply 1 (.item (some item))) ++
  [.reply 1 (.verdict (.ok ()))]

/-- The stream task asks for what comes behind the first event. -/
def between : System String String Nat where
  shared :=
    { state := .connected, token := some "1", handler := some "handler", streamTask := some 1 }
  tasks := [(1, .streaming (some "handler")
    (.reopening (.requesting 0 ((Settings.plain false).openRequest (some "1")))))]
  next := 2

theorem renders_log : LogEntry.Renders [first, second]
    ["event: message", "data: \x7b\x7d", "id: 1", "",
      "event: message", "data: \x7b\"b\":[]\x7d", "id: 2", ""] :=
  @LogEntry.Renders.next _ _ [] first [.event, .data "\x7b\x7d", .id] "" [second] _ nofun
    ⟨by decide, by decide, rfl, by simp⟩ (by decide)
    (@LogEntry.Renders.next _ _ [] second [.event, .data "\x7b\"b\":[]\x7d", .id] "" [] [] nofun
      ⟨by decide, by decide, rfl, by simp⟩ (by decide) (.gap nofun))

theorem renders_second :
    LogEntry.Renders [second] ["id: 2", "event: message", "data: \x7b\"b\":[]\x7d", ""] :=
  @LogEntry.Renders.next _ _ [] second [.id, .event, .data "\x7b\"b\":[]\x7d"] "" [] [] nofun
    ⟨by decide, by decide, rfl, by simp⟩ (by decide) (.gap nofun)

theorem select_response (body : Nat) :
    Decoder.select (response body) = .ok (some .eventStream) := by
  have hType : Decoder.ofContentType? "text/event-stream" = some .eventStream := by decide
  have hName : Text.sameLetters "content-type" "content-type" = true := by decide
  simp [Decoder.select, response, Http.Response.isSuccess, Http.Response.contentType?,
    Http.Response.header?, Http.Headers.value?, hType, hName]

theorem streams_log : ∃ lines, LogEntry.Renders (LogEntry.after [first, second] none) lines ∧
    LogEntry.Cut lines (contents 0) :=
  ⟨_, renders_log, .line _ (.line _ (.line _ (.line _ (.line _ (.broken _ _ _)))))⟩

theorem streams_second :
    ∃ lines, LogEntry.Renders (LogEntry.after [first, second] (some "1")) lines ∧
      LogEntry.Cut lines (contents 1) :=
  ⟨_, renders_second, .line _ (.line _ (.line _ (.line _ .whole)))⟩

section Served

variable {earlier : List (Record String String Nat)} {record : Record String String Nat}

theorem served_answer {task : Task String String Nat} {body : Nat} (token : ResumptionToken)
    (hOrigin : record.origin = .resumed task (.answer (.ok (response body))))
    (hWait : task.wait = .answer ((Settings.plain false).openRequest token))
    (hFresh : earlier.countP (Record.reads body) = 0)
    (hStreams : ∃ lines, LogEntry.Renders (LogEntry.after [first, second] token) lines ∧
      LogEntry.Cut lines (contents body))
    (hStream : ∀ stream, record.turn.stream = some stream → stream.1 = some "handler") :
    Served (Settings.plain false) "handler" [first, second] contents earlier record := by
  constructor <;> try simp only [hOrigin, reduceCtorEq, Origin.resumed.injEq, and_false,
    IsEmpty.forall_iff, implies_true]
  · rintro _ request _ decoder ⟨rfl, hReply⟩ hRequest _ hSelect
    cases hReply
    rw [hWait] at hRequest
    cases hRequest
    rw [select_response] at hSelect
    cases hSelect
    rw [Settings.header?_openRequest (List.forall_mem_nil _)]
    exact ⟨rfl, hFresh, hStreams⟩
  · exact hStream

theorem served_item {owner : Option String} {body handled : Nat} {draft : Frame.Draft}
    {item : Option BodyItem}
    (hOrigin : record.origin = .resumed
      (.streaming owner (.receiving (.reading body (.events draft) handled))) (.item item))
    (hItem : item = (Record.unread contents earlier body).head?)
    (hStream : record.turn.stream = none) :
    Served (Settings.plain false) "handler" [first, second] contents earlier record := by
  constructor <;> try simp only [hOrigin, hStream, reduceCtorEq, Origin.resumed.injEq, and_false,
    false_and, IsEmpty.forall_iff, implies_true]
  · rintro _ _ _ _ _ ⟨hTask, hReply⟩
    cases hTask
    cases hReply
    exact hItem

theorem served_verdict {owner : Option String} {point : Streaming String String Nat}
    (hOrigin : record.origin = .resumed (.streaming owner point) (.verdict (.ok ())))
    (hStream : record.turn.stream = none) :
    Served (Settings.plain false) "handler" [first, second] contents earlier record := by
  constructor <;> try simp only [hOrigin, hStream, reduceCtorEq, Origin.resumed.injEq, and_false,
    IsEmpty.forall_iff, implies_true]
  · rintro _ _ _ ⟨_, hReply⟩
    cases hReply
    rfl

theorem add_event (draft : Frame.Draft) : draft.add "event: message" =
    (none, { draft with event := "message", started := true }) :=
  Field.add_line first.nonempty first.trimmed draft .event nofun

theorem add_blank (draft : Frame.Draft) : draft.add "" = draft.close :=
  Frame.Draft.add_blank draft (by decide)

theorem add_first (draft : Frame.Draft) :
    draft.add "data: \x7b\x7d" =
        (none, { draft with data := draft.data ++ ["\x7b\x7d"], started := true }) ∧
      draft.add "id: 1" = (none, { draft with id := "1", started := true }) :=
  ⟨Field.add_line first.nonempty first.trimmed draft (.data "\x7b\x7d") nofun,
    Field.add_line first.nonempty first.trimmed draft .id nofun⟩

theorem add_second (draft : Frame.Draft) :
    draft.add "data: \x7b\"b\":[]\x7d" =
        (none, { draft with data := draft.data ++ ["\x7b\"b\":[]\x7d"], started := true }) ∧
      draft.add "id: 2" = (none, { draft with id := "2", started := true }) :=
  ⟨Field.add_line second.nonempty second.trimmed draft (.data "\x7b\"b\":[]\x7d") nofun,
    Field.add_line second.nonempty second.trimmed draft .id nofun⟩

theorem serves_opening : (run (Settings.plain false) {} opening).1 = between ∧
    Serves (Settings.plain false) "handler" [first, second] contents []
      (history (Settings.plain false) {} opening) := by
  have hRetry : (Settings.plain false).policy.worthRetrying (.interrupted "cut") = true := rfl
  have hDocument : (Settings.plain false).codec.readDocument "\x7b\x7d" = .ok ["\x7b\x7d"] :=
    first.decodes
  simp [opening, between, contents, run, history, record?, step, settle, cancel, add, spawn,
    abandon, task?, Call.start, Call.startConnect, Shared.isClosed, ConnectionState.move,
    Connecting.start, Connecting.resume, Connecting.afterOpening,
    Opening.attempt, Opening.resume, Opening.settle, Opening.judge, select_response,
    Streaming.resume, Streaming.afterIntake, Streaming.afterOpening,
    Intake.start, Intake.resume, Intake.offer, Intake.proceed, Except.map,
    Decoder.Reader.start, Decoder.Reader.accept, Decoder.Reader.ofFrame, Decoder.Reader.skip,
    Frame.Draft.close, Frame.Draft.empty, Frame.isMessage, Frame.resumptionId,
    Task.resume, Turn.ofConnecting, Turn.ofStreaming, Step.mapPoint, Step.mapResult,
    ResumptionToken.record, add_event, add_first, add_blank, hRetry, hDocument]
  refine ⟨⟨rfl, rfl⟩, ?_⟩
  simp only [Serves]
  have hCall (request : Http.Request) :
      Served (Settings.plain false) "handler" [first, second] contents []
        ⟨0, {}, .began (.connect "handler"), ⟨⟨.connecting, {}, none, some "handler", none⟩,
          .wait (.connecting "handler" (.opening (.requesting 0 request))), none⟩⟩ := by
    constructor <;> simp
  exact ⟨hCall _, served_answer none rfl rfl rfl streams_log (by simp), served_item rfl rfl rfl,
    served_item rfl rfl rfl, served_item rfl rfl rfl, served_item rfl rfl rfl,
    served_verdict rfl rfl, served_item rfl rfl rfl, served_item rfl rfl rfl, trivial⟩

theorem serves_reopening (hFresh : earlier.countP (Record.reads 1) = 0) :
    Serves (Settings.plain false) "handler" [first, second] contents earlier
      (history (Settings.plain false) between reopening) := by
  have hDocument : (Settings.plain false).codec.readDocument "\x7b\"b\":[]\x7d" =
      .ok ["\x7b\"b\":[]\x7d"] := second.decodes
  simp [between, reopening, contents, history, record?, step, settle, cancel, add, task?,
    Shared.isClosed, Opening.resume, Opening.settle, Opening.judge, select_response,
    Streaming.resume, Streaming.afterIntake, Streaming.afterOpening,
    Intake.start, Intake.resume, Intake.offer, Intake.proceed, Except.map,
    Decoder.Reader.start, Decoder.Reader.accept, Decoder.Reader.ofFrame, Decoder.Reader.skip,
    Frame.Draft.close, Frame.Draft.empty, Frame.isMessage, Frame.resumptionId,
    Task.resume, Turn.ofStreaming, Step.mapPoint, Step.mapResult,
    ResumptionToken.record, add_event, add_second, add_blank, hDocument]
  simp only [Serves]
  refine ⟨served_answer (some "1") rfl rfl hFresh streams_second (by simp), served_item rfl ?_ rfl,
    served_item rfl ?_ rfl, served_item rfl ?_ rfl, served_item rfl ?_ rfl,
    served_verdict rfl rfl, trivial⟩
  all_goals simp [Record.unread, Record.reads, hFresh, contents, response]

end Served

theorem serves : Serves (Settings.plain false) "handler" [first, second] contents []
    (history (Settings.plain false) {} (opening ++ reopening)) := by
  obtain ⟨hBetween, hOpening⟩ := serves_opening
  rw [history_append, hBetween]
  have hFresh : (history (Settings.plain false) {} opening).countP (Record.reads 1) = 0 := by
    decide +kernel
  exact serves_append.mpr ⟨hOpening, serves_reopening hFresh⟩

end Sample

/-- The stream breaks off within the second event and is opened again behind the first one.
Both events are handed over once. -/
theorem streamed_of_log_after_cut :
    let records := history (Settings.plain false) {} (Sample.opening ++ Sample.reopening)
    Serves (Settings.plain false) "handler" [Sample.first, Sample.second] Sample.contents []
      records ∧
    Wait.answer ((Settings.plain false).openRequest (some "1")) ∈
      records.filterMap (·.turn.wait?) ∧
    Record.streamed records = [("handler", "\x7b\x7d"), ("handler", "\x7b\"b\":[]\x7d")] ∧
    (run (Settings.plain false) {} (Sample.opening ++ Sample.reopening)).1.shared.token =
      some "2" ∧
    Record.streamed records <+:
      ([Sample.first, Sample.second].flatMap (·.messages)).map ("handler", ·) :=
  ⟨Sample.serves, by decide +kernel, by decide +kernel, by decide +kernel,
    (streamed_of_log _ _ _ _ (by decide) (List.forall_mem_nil _) _ Sample.serves).1⟩

end System

end RpcTransport.Transport
