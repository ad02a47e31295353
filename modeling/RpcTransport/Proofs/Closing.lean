import RpcTransport.Proofs.Change
import RpcTransport.Proofs.Fallback
import RpcTransport.Proofs.Intake
import RpcTransport.Proofs.Trail

/-! A close is final, but for one frame: the end of the body closes the last frame of an event
stream without a look at the state. -/
namespace RpcTransport

namespace Decoder.Reader

variable {M : Type}

/-- A message frame is open, and the end of the body would close it with these messages. -/
def Holds (codec : Codec M) (messages : List M) : Reader → Prop
  | .events draft => ∃ frame, draft.close.1 = some frame ∧ frame.isMessage = true ∧
      codec.readDocument frame.data = .ok messages
  | _ => False

theorem not_holds_start (codec : Codec M) (messages : List M) (decoder : Decoder) :
    ¬(start decoder).Holds codec messages := by
  cases decoder <;> simp [start, Holds, Frame.Draft.empty, Frame.Draft.close]

theorem holds_of_ofFrame {codec : Codec M} {draft : Frame.Draft} {messages : List M}
    {id : Option String} {next : Option Reader}
    (h : ofFrame codec draft.close.1 next = .messages messages id next) :
    (events draft).Holds codec messages := by
  unfold ofFrame at h
  split at h
  · cases next <;> cases h
  · rename_i frame hFrame
    split at h
    · rename_i hMessage
      split at h
      · rename_i hRead
        cases h
        exact ⟨frame, hFrame, hMessage, hRead⟩
      · cases h
    · cases next <;> cases h

/-- A reader that is to stop goes on without an open frame or ends, unless it is at the
end of an event stream whose last frame is open. -/
theorem accept_stopped (codec : Codec M) (reader : Reader) (item : Option BodyItem) :
    (∃ next, reader.accept codec true item = .more next ∧
        ∀ messages, ¬next.Holds codec messages) ∨
      (∃ result, reader.accept codec true item = .finished result) ∨
      item = none ∧ ∃ messages id, reader.Holds codec messages ∧
        reader.accept codec true none = .messages messages id none := by
  rcases reader with text | _ | draft
  · rcases item with _ | (error | line)
    · exact Or.inr (Or.inl ⟨_, rfl⟩)
    · exact Or.inr (Or.inl ⟨_, rfl⟩)
    · exact Or.inl ⟨_, rfl, fun _ => id⟩
  · rcases item with _ | (error | line)
    · exact Or.inr (Or.inl ⟨_, rfl⟩)
    · simp only [accept]
      split
      · exact Or.inl ⟨_, rfl, fun _ => id⟩
      · exact Or.inr (Or.inl ⟨_, rfl⟩)
    · exact Or.inr (Or.inl ⟨_, rfl⟩)
  · rcases item with _ | (error | line)
    · rcases accept_end codec true (events draft) with ⟨messages, id, hEnd⟩ | hEnd
      · exact Or.inr (Or.inr ⟨rfl, messages, id, holds_of_ofFrame hEnd, hEnd⟩)
      · exact Or.inr (Or.inl hEnd)
    · exact Or.inr (Or.inl ⟨_, rfl⟩)
    · exact Or.inr (Or.inl ⟨_, rfl⟩)

/-- A reader that is to stop ends with the next line, unless it reads a single document. -/
theorem accept_line_stopped (codec : Codec M) {reader : Reader}
    (h : ∀ text, reader ≠ .document text) (line : String) :
    reader.accept codec true (some (.ok line)) = .finished (.ok ()) := by
  cases reader with
  | document text => exact absurd rfl (h text)
  | sequence => rfl
  | events draft => rfl

end Decoder.Reader

namespace Transport

variable {M H B : Type}

/-- The messages that a stream task takes from an item of its body. They go to its
handler, and without one they are dropped. -/
def Record.taken (codec : Codec M) (record : Record M H B) : List M :=
  match record.origin with
  | .resumed (.streaming _ (.receiving (.reading _ reader _))) (.item item) =>
    match reader.accept codec record.before.isClosed item with
    | .messages messages _ _ => messages
    | _ => []
  | _ => []

/-- A turn that delivers nothing of a stream. -/
structure Record.Silent (codec : Codec M) (record : Record M H B) : Prop where
  taken : record.taken codec = []
  handed : ∀ handler message, record.turn.wait? ≠ some (.verdict handler message)
  token : record.turn.shared.token = record.before.token

/-- The task opens the stream of the server: it waits for the answer to its request, or
it pauses before one. -/
def Task.isOpening : Task M H B → Bool
  | .connecting _ (.opening _) => true
  | .sending _ (.connecting _ (.opening _)) => true
  | .streaming _ (.reopening _) => true
  | _ => false

/-- A task that delivers nothing once the transport is closed. A posted message has been
accepted, so its reply is still taken in. -/
def Task.Silent (codec : Codec M) : Task M H B → Prop
  | .sending _ (.posting _ _) => False
  | .sending _ (.receiving _ _) => False
  | .streaming _ (.receiving (.reading _ reader _)) =>
    ∀ messages, ¬reader.Holds codec messages
  | .streaming _ (.receiving (.handing _ _ _ _ _ _ _)) => False
  | _ => True

theorem Task.silent_of_isOpening {codec : Codec M} {task : Task M H B}
    (h : task.isOpening = true) : task.Silent codec := by
  rcases task with _ | _ | ⟨_, _ | _ | _ | _⟩ | _ | ⟨_, (_ | _) | _⟩ <;> trivial

theorem Connecting.not_verdict (point : Connecting) (owner : Option H) (handler : H)
    (message : M) : (point.wait owner : Wait M H B) ≠ .verdict handler message := by
  rcases point with (_ | _) | _ <;> exact nofun

theorem Task.Silent.not_verdict {codec : Codec M} {task : Task M H B} (h : task.Silent codec)
    (handler : H) (message : M) : task.wait ≠ .verdict handler message := by
  cases task with
  | connecting owner point => exact point.not_verdict (some owner) handler message
  | legacyConnecting owner => exact nofun
  | sending owner point =>
      cases point with
      | connecting _ inner => exact inner.not_verdict owner handler message
      | forwarding _ => exact nofun
      | _ => cases h
  | closing => exact nofun
  | streaming owner point =>
      rcases point with (_ | _) | (_ | _)
      · exact nofun
      · cases h
      · exact nofun
      · exact nofun

/-- A turn that delivers nothing of a stream and leaves a task that never will. -/
structure Record.Silences (codec : Codec M) (record : Record M H B) : Prop where
  taken : record.taken codec = []
  token : record.turn.shared.token = record.before.token
  next : ∀ task, record.turn.task? = some task → task.Silent codec

theorem Record.Silences.silent {codec : Codec M} {record : Record M H B}
    (h : record.Silences codec) : record.Silent codec := by
  refine ⟨h.taken, ?_, h.token⟩
  intro handler message hHanded
  obtain ⟨task, hTask, hWait⟩ := Turn.wait?_eq_some.mp hHanded
  exact (h.next task (Turn.task?_eq_some.mpr hTask)).not_verdict handler message hWait

namespace Sending

variable {settings : Settings M} {shared : Shared H} {handler : Option H} {message : M}
  {reply : Reply B} {turn : Turn M H B}

/-- On a closed transport a send that connects, or that forwards, does nothing else. -/
def Withdraws : Sending M H B → Prop
  | .connecting _ _ => True
  | .forwarding _ => True
  | _ => False

theorem silent_iff_withdraws (codec : Codec M) (owner : Option H) (point : Sending M H B) :
    (Task.sending owner point).Silent codec ↔ point.Withdraws := by
  cases point <;> exact Iff.rfl

theorem withdraws_of_resume {point : Sending M H B} (h : point.Withdraws)
    (hClosed : shared.state = .closed)
    (hResume : point.resume settings shared handler reply = some turn) :
    turn.shared.token = shared.token ∧ ∀ next, turn.step = .wait next → next.Withdraws := by
  cases resumes hResume with
  | @connecting message point reply inner resumed =>
      have hHolds := Connecting.holds_resume resumed
      rw [afterConnecting_shared]
      refine ⟨hHolds.token, ?_⟩
      intro next hNext
      rcases wait_of_afterConnecting hNext with ⟨_, _, rfl⟩ | ⟨_, rfl⟩ | ⟨hOpen, _⟩
      · trivial
      · trivial
      · have hLater := Shared.isClosed_eq_true.mpr (hHolds.closed hClosed)
        simp [hOpen.2] at hLater
  | failed => cases h
  | answered => cases h
  | receiving => cases h
  | forwarding inner result =>
      refine ⟨rfl, ?_⟩
      intro next hNext
      obtain ⟨point, _, rfl⟩ := Step.mapPoint_eq_wait.mp hNext
      trivial

end Sending

/-- A stream that is opened begins without an open frame. -/
theorem Streaming.silent_afterOpening (codec : Codec M) (shared : Shared H) (owner : Option H)
    (step : Step Opening (Except Error (Opened B))) {task : Task M H B}
    (h : (Turn.ofStreaming owner (afterOpening shared step)).task? = some task) :
    task.Silent codec := by
  rcases step with point | (error | (⟨decoder, body⟩ | _ | reason))
  · cases h
    trivial
  · cases h
  · cases h
    exact fun messages => Decoder.Reader.not_holds_start codec messages decoder
  · cases h
  · cases h

namespace Task

variable {settings : Settings M} {shared : Shared H} {owner : Option H} {reply : Reply B}
  {turn : Turn M H B}

/-- A stream task whose reader ends while the transport is closed ends with it. -/
theorem turn_of_finished {body : B} {reader : Decoder.Reader} {handled : Nat}
    {item : Option BodyItem} {result : Except Error Unit} (hClosed : shared.state = .closed)
    (hEnd : reader.accept settings.codec true item = .finished result)
    (h : (streaming owner (.receiving (.reading body reader handled))).resume settings shared
      (.item item) = some turn) : turn = .ofStreaming owner (shared, .done ()) := by
  have hIsClosed : shared.isClosed = true := Shared.isClosed_eq_true.mpr hClosed
  simp only [resume, Streaming.resume, Intake.resume, hIsClosed, hEnd, Option.map_some,
    Option.some.injEq] at h
  rw [← h]
  simp [Streaming.afterIntake, hIsClosed]

/-- A task that reads while the transport is closed delivers nothing, unless the body
ends within a frame. -/
theorem silences_of_reading (id : TaskId) {body : B} {reader : Decoder.Reader} {handled : Nat}
    (hClosed : shared.state = .closed)
    (h : (streaming owner (.receiving (.reading body reader handled))).resume settings shared
      reply = some turn) :
    let record : Record M H B :=
      ⟨id, shared, .resumed (.streaming owner (.receiving (.reading body reader handled))) reply,
        turn⟩
    record.Silences settings.codec ∨
      reply = .item none ∧ ∃ messages, reader.Holds settings.codec messages ∧
        record.taken settings.codec = messages := by
  have hIsClosed : shared.isClosed = true := Shared.isClosed_eq_true.mpr hClosed
  cases resumes h with
  | streaming resumed =>
      cases Streaming.resumes resumed with
      | @receiving _ _ token step intake =>
          rw [hIsClosed] at intake
          obtain ⟨item, rfl⟩ := Intake.item_of_resume intake
          rcases Decoder.Reader.accept_stopped settings.codec reader item with
            ⟨following, hMore, hNext⟩ | ⟨result, hEnd⟩ | ⟨rfl, messages, frameId, hHolds, hEnd⟩
          · simp only [Intake.resume, hMore] at intake
            cases intake
            refine Or.inl ⟨?_, rfl, ?_⟩
            · simp [Record.taken, hIsClosed, hMore]
            · rintro task ⟨⟩
              exact hNext
          · rw [turn_of_finished hClosed hEnd h]
            refine Or.inl ⟨?_, rfl, ?_⟩
            · simp [Record.taken, hIsClosed, hEnd]
            · rintro task ⟨⟩
          · refine Or.inr ⟨rfl, messages, hHolds, ?_⟩
            simp [Record.taken, hIsClosed, hEnd]

/-- A task with nothing to deliver keeps silent while the transport is closed. -/
theorem silences_of_resume (id : TaskId) {task : Task M H B} (hClosed : shared.state = .closed)
    (hSilent : task.Silent settings.codec)
    (h : task.resume settings shared reply = some turn) :
    (⟨id, shared, .resumed task reply, turn⟩ : Record M H B).Silences settings.codec := by
  cases resumes h with
  | @connecting handler point reply inner resumed =>
      have hToken := (Connecting.holds_resume resumed).token
      rcases inner with ⟨later, following | connected⟩
      · refine ⟨rfl, hToken, ?_⟩
        rintro task ⟨⟩
        trivial
      · refine ⟨rfl, hToken, ?_⟩
        rintro task ⟨⟩
  | legacyConnecting handler result =>
      refine ⟨rfl, rfl, ?_⟩
      rintro task ⟨⟩
  | @sending handler point reply inner resumed =>
      obtain ⟨hToken, hNext⟩ :=
        Sending.withdraws_of_resume ((Sending.silent_iff_withdraws ..).mp hSilent) hClosed resumed
      refine ⟨rfl, hToken, ?_⟩
      intro task hTask
      obtain ⟨following, hFollowing, rfl⟩ :=
        Turn.ofSending_eq_wait.mp (Turn.task?_eq_some.mp hTask)
      exact (Sending.silent_iff_withdraws ..).mpr (hNext following hFollowing)
  | closing result =>
      refine ⟨rfl, rfl, ?_⟩
      rintro task ⟨⟩
  | @streaming owner point reply inner resumed =>
      rcases point with (⟨body, reader, handled⟩ | _) | point
      · rcases silences_of_reading id hClosed h with hQuiet | ⟨_, messages, hHolds, _⟩
        · exact hQuiet
        · exact absurd hHolds (hSilent messages)
      · cases hSilent
      · cases Streaming.resumes resumed with
        | @reopening _ _ step opening =>
            exact ⟨rfl, (Streaming.holds_afterOpening shared step).token,
              fun _ => Streaming.silent_afterOpening settings.codec shared owner step⟩

end Task

/-- On a closed transport only a stream task is given an item of a body, apart from a send
that takes in its reply. -/
theorem Task.Silent.isStreaming_of_item {settings : Settings M} {shared : Shared H}
    {task : Task M H B} {item : Option BodyItem} {turn : Turn M H B}
    (h : task.Silent settings.codec)
    (hResume : task.resume settings shared (.item item) = some turn) :
    task.isStreaming = true := by
  cases resumes hResume with
  | connecting inner =>
      cases Connecting.resumes inner with
      | opening resumed => cases Opening.resumes resumed
  | sending inner =>
      cases Sending.resumes inner with
      | connecting resumed =>
          cases Connecting.resumes resumed with
          | opening opening => cases Opening.resumes opening
      | receiving intake => cases h
  | streaming inner => rfl

/-- What holds of a task on a closed transport, and of what each of its turns leaves, tells
something of all its turns. -/
theorem Trail.forall_of_closed {settings : Settings M} {id : TaskId} {P : Task M H B → Prop}
    {Q : Record M H B → Prop}
    (hStep : ∀ {task : Task M H B} {shared : Shared H} {reply : Reply B} {turn : Turn M H B},
      shared.state = .closed → P task → task.resume settings shared reply = some turn →
        Q ⟨id, shared, .resumed task reply, turn⟩ ∧ ∀ next, turn.task? = some next → P next)
    {task? : Option (Task M H B)} {shared : Shared H} {records : List (Record M H B)}
    (h : Trail settings id task? shared records) (hClosed : shared.state = .closed)
    (hTask : ∀ task, task? = some task → P task) : ∀ record ∈ records, Q record := by
  induction h with
  | stops => exact List.forall_mem_nil _
  | @goesOn task shared later reply turn records leads resumes onward ih =>
      have hLater := leads.closed hClosed
      obtain ⟨hRecord, hNext⟩ := hStep hLater (hTask task rfl) resumes
      exact List.forall_mem_cons.mpr
        ⟨hRecord, ih ((Task.keeps_resume resumes).closed hLater) hNext⟩

/-- The trail of a task that keeps silent. -/
theorem Trail.silent {settings : Settings M} {id : TaskId} {task? : Option (Task M H B)}
    {shared : Shared H} {records : List (Record M H B)}
    (h : Trail settings id task? shared records) (hClosed : shared.state = .closed)
    (hSilent : ∀ task, task? = some task → task.Silent settings.codec) :
    ∀ record ∈ records, record.Silent settings.codec := by
  refine h.forall_of_closed (fun hLater hTask hResume => ?_) hClosed hSilent
  have hRecord := Task.silences_of_resume id hLater hTask hResume
  exact ⟨hRecord.silent, hRecord.next⟩

/-- The trail of a task that keeps silent and reads no stream. -/
theorem Trail.unread {settings : Settings M} {id : TaskId} {task? : Option (Task M H B)}
    {shared : Shared H} {records : List (Record M H B)}
    (h : Trail settings id task? shared records) (hClosed : shared.state = .closed)
    (hTask : ∀ task, task? = some task →
      task.Silent settings.codec ∧ task.isStreaming = false) :
    ∀ record ∈ records, ∀ task item, record.origin ≠ .resumed task (.item item) := by
  refine h.forall_of_closed (fun hLater hTask hResume => ⟨?_, ?_⟩) hClosed hTask
  · rintro task item ⟨⟩
    have hStreaming := hTask.1.isStreaming_of_item hResume
    simp [hTask.2] at hStreaming
  · intro next hNext
    refine ⟨(Task.silences_of_resume id hLater hTask.1 hResume).next next hNext, ?_⟩
    rw [Task.isStreaming_of_resume hResume (Turn.task?_eq_some.mp hNext), hTask.2]

/-- The trail of a task that reads, from the close on. -/
theorem Trail.silent_of_reading {settings : Settings M} {id : TaskId} {owner : Option H}
    {body : B} {reader : Decoder.Reader} {handled : Nat} {shared : Shared H}
    {records : List (Record M H B)} (hClosed : shared.state = .closed)
    (h : Trail settings id (some (.streaming owner (.receiving (.reading body reader handled))))
      shared records) :
    (∀ record ∈ records, record.Silent settings.codec) ∨
      ∃ messages, reader.Holds settings.codec messages ∧ ∃ record ∈ records,
        record.origin = .resumed (.streaming owner (.receiving (.reading body reader handled)))
          (.item none) ∧ record.taken settings.codec = messages := by
  cases h with
  | stops => exact Or.inl (List.forall_mem_nil _)
  | goesOn leads resumes onward =>
      have hLater := leads.closed hClosed
      rcases Task.silences_of_reading id hLater resumes with
        hRecord | ⟨rfl, messages, hHolds, hTaken⟩
      · have hAfter := (Task.keeps_resume resumes).closed hLater
        exact Or.inl (List.forall_mem_cons.mpr
          ⟨hRecord.silent, onward.silent hAfter hRecord.next⟩)
      · exact Or.inr ⟨messages, hHolds, _, List.mem_cons_self, rfl, hTaken⟩

theorem Opening.asks_of_answered {settings : Settings M} {shared : Shared H} {point : Opening}
    {answer : Except Error (Http.Response B)} {step : Step Opening (Except Error (Opened B))}
    (h : point.resume settings shared (.answer answer) = some step) :
    ∃ request, (point.wait : Wait M H B) = .answer request := by
  cases resumes h with
  | answered retry request => exact ⟨request, rfl⟩

theorem Connecting.asks_of_answered {settings : Settings M} {shared : Shared H}
    {point : Connecting} {answer : Except Error (Http.Response B)}
    {turn : Shared H × Step Connecting (Connected B)} (handler : Option H)
    (h : point.resume settings shared (.answer answer) = some turn) :
    ∃ request, (point.wait handler : Wait M H B) = .answer request := by
  cases resumes h with
  | opening resumed => exact Opening.asks_of_answered resumed

/-- Only who waits for the answer to a request is given one. -/
theorem Task.asks_of_answered {settings : Settings M} {shared : Shared H} {task : Task M H B}
    {answer : Except Error (Http.Response B)} {turn : Turn M H B}
    (h : task.resume settings shared (.answer answer) = some turn) :
    ∃ request, task.wait = .answer request := by
  cases resumes h with
  | connecting inner => exact Connecting.asks_of_answered _ inner
  | sending inner =>
      cases Sending.resumes inner with
      | connecting connecting => exact Connecting.asks_of_answered _ connecting
      | failed message request => exact ⟨request, rfl⟩
      | answered message request => exact ⟨request, rfl⟩
      | receiving intake => cases Intake.resumes intake
  | streaming inner =>
      cases Streaming.resumes inner with
      | receiving intake => cases Intake.resumes intake
      | reopening opening => exact Opening.asks_of_answered opening

namespace System

/-- The transport behind a close. -/
def close (settings : Settings M) (system : System M H B) : System M H B :=
  (system.step settings (.call .close)).1

/-- A close is one turn of its own, which touches nothing but the state. -/
theorem record?_close (settings : Settings M) (system : System M H B) :
    ∃ turn, system.record? settings (.call .close) =
        some ⟨system.next, system.shared, .began .close, turn⟩ ∧
      turn.shared = { system.shared with state := .closed } ∧ turn.stream = none := by
  refine ⟨_, rfl, ?_⟩
  simp only [Call.start, Call.startClose]
  split <;> exact ⟨rfl, rfl⟩

theorem close_shared (settings : Settings M) (system : System M H B) :
    (system.close settings).shared = { system.shared with state := .closed } := by
  obtain ⟨turn, hRecord, hShared, hStream⟩ := record?_close settings system
  rw [close, step_of_record hRecord, settle_of_no_stream hStream]
  exact hShared

theorem not_isOpen_close (settings : Settings M) (system : System M H B) :
    ¬(system.close settings).shared.IsOpen := by
  rw [close_shared]
  exact fun hOpen => Bool.noConfusion hOpen.2

/-- A close leaves all tasks where they wait. -/
theorem WellFormed.mem_close {system : System M H B} (h : system.WellFormed)
    (settings : Settings M) {entry : TaskId × Task M H B} (hMem : entry ∈ system.tasks) :
    entry ∈ (system.close settings).tasks := by
  obtain ⟨turn, hRecord, _, hStream⟩ := record?_close settings system
  rw [close, step_of_record hRecord, settle_of_no_stream hStream]
  exact WellFormed.mem_replace.mpr (Or.inl ⟨hMem, Nat.ne_of_lt (h.numbered entry hMem)⟩)

theorem WellFormed.close {system : System M H B} (h : system.WellFormed)
    (settings : Settings M) : (system.close settings).WellFormed :=
  h.step settings (.call .close)

/-- Every turn behind a close finds the transport closed. -/
theorem closed_of_mem_close {settings : Settings M} {system : System M H B}
    {actions : List (Action M H B)} {record : Record M H B}
    (h : record ∈ (system.close settings).history settings actions) :
    record.before.state = .closed := by
  refine (leads_of_mem_history h).closed ?_
  rw [close_shared]

/-- A connect sequence that finds the transport closed drops its stream. -/
theorem stream_of_closed {settings : Settings M} {system : System M H B}
    {actions : List (Action M H B)} {record : Record M H B}
    (hMem : record ∈ system.history settings actions)
    (hClosed : record.before.state = .closed) : record.turn.stream = none := by
  obtain ⟨_, _, _, _, hRecord⟩ := record_of_mem_history hMem
  rw [(record_cases hRecord).1] at hClosed
  cases change_of_record hRecord with
  | opens _ before =>
      rw [hClosed] at before
      cases before
  | stays _ _ stream => exact stream
  | begins _ _ _ _ stream => exact stream
  | accepts _ _ _ _ stream => exact stream
  | fails _ _ _ _ stream => exact stream
  | ends _ _ _ _ stream => exact stream
  | drops _ _ _ stream => exact stream
  | closes _ _ _ stream => exact stream

/-- Where no request may be sent, whoever is given an answer has waited for it all along. -/
theorem asked_before {settings : Settings M} {system : System M H B} (h : system.WellFormed)
    (hBarred : ¬system.shared.IsOpen) {actions : List (Action M H B)} {record : Record M H B}
    (hMem : record ∈ system.history settings actions) {task : Task M H B} {reply : Reply B}
    (hOrigin : record.origin = .resumed task reply) {request : Http.Request}
    (hWait : task.wait = .answer request) : (record.id, task) ∈ system.tasks := by
  induction actions generalizing system with
  | nil => cases hMem
  | cons action actions ih =>
      rcases List.mem_append.mp hMem with hFirst | hLater
      · obtain ⟨_, ⟨_, _, _, hBegan, _⟩ | ⟨_, _, _, hTask, hResumed, _⟩⟩ :=
          record_cases (Option.mem_toList.mp hFirst)
        · rw [hOrigin] at hBegan
          cases hBegan
        · rw [hOrigin] at hResumed
          cases hResumed
          exact h.task?_eq_some.mp hTask
      · have hStep : ¬(system.step settings action).1.shared.IsOpen :=
          fun hOpen => hBarred ((system.step_leads settings action).isOpen hOpen)
        have hStanding := ih (h.step settings action) hStep hLater
        cases hRecord : system.record? settings action with
        | none => rwa [step_of_no_record hRecord] at hStanding
        | some moved =>
            rw [step_of_record hRecord] at hStanding
            rcases WellFormed.mem_of_mem_settle hStanding with hReplace | ⟨_, hSpawned⟩
            · rcases WellFormed.mem_replace.mp hReplace with ⟨hOld, _⟩ | ⟨_, hWaits⟩
              · rwa [enroll_tasks] at hOld
              · have hAsks := permits_of_record hRecord (Turn.wait?_eq_some.mpr ⟨_, hWaits, hWait⟩)
                exact absurd ((keeps_record hRecord).isOpen hAsks.isOpen) hBarred
            · obtain ⟨⟨_, _, _⟩, _, rfl⟩ := Option.map_eq_some_iff.mp hSpawned
              cases hWait

/-- From the close on, a task that opens the stream of the server delivers nothing, and only
a stream task reads a body. -/
theorem silent_of_opening {settings : Settings M} {system : System M H B}
    (h : system.WellFormed) (hClosed : system.shared.state = .closed) {id : TaskId}
    {task : Task M H B} (hMem : (id, task) ∈ system.tasks) (hOpening : task.isOpening = true)
    (actions : List (Action M H B)) :
    ∀ record ∈ own id (system.history settings actions), record.Silent settings.codec ∧
      (task.isStreaming = false →
        ∀ other item, record.origin ≠ .resumed other (.item item)) := by
  have hTrail := trail_of_task settings h (h.numbered _ hMem) actions
  rw [h.task?_eq_some.mpr hMem] at hTrail
  have hTask : task.Silent settings.codec := Task.silent_of_isOpening hOpening
  intro record hRecord
  refine ⟨hTrail.silent hClosed (by rintro _ ⟨⟩; exact hTask) record hRecord, fun hKind => ?_⟩
  exact hTrail.unread hClosed (by rintro _ ⟨⟩; exact ⟨hTask, hKind⟩) record hRecord

/-- A stream task that is between two items of its body when the transport is closed
delivers nothing more, whatever the body goes on with. The one exception is an event
stream that ends within a message frame: the messages of that frame are still taken. -/
theorem silent_after_close_or_held (settings : Settings M) (before after : List (Action M H B))
    {id : TaskId} {owner : Option H} {body : B} {reader : Decoder.Reader} {handled : Nat}
    (hReading : (id, .streaming owner (.receiving (.reading body reader handled))) ∈
      (run settings {} before).1.tasks) :
    let later := own id (((run settings {} before).1.close settings).history settings after)
    (∀ record ∈ later, record.Silent settings.codec) ∨
      ∃ messages, reader.Holds settings.codec messages ∧ ∃ record ∈ later,
        record.origin = .resumed (.streaming owner (.receiving (.reading body reader handled)))
          (.item none) ∧ record.taken settings.codec = messages := by
  intro later
  have hStanding := WellFormed.run settings before
  have hFormed := hStanding.close settings
  have hMem := hStanding.mem_close settings hReading
  have hTrail := trail_of_task settings hFormed (hFormed.numbered _ hMem) after
  rw [hFormed.task?_eq_some.mpr hMem] at hTrail
  exact hTrail.silent_of_reading (by rw [close_shared])

namespace Sample

/-- A stream task that has read a whole frame but for the blank line behind it. -/
def reading : List (Action String String Unit) :=
  [.call (.connect "handler"),
    .reply 0 (.answer (.ok ⟨200, [("Content-Type", "text/event-stream")], ()⟩)),
    .reply 1 (.item (some (.ok "event: message"))),
    .reply 1 (.item (some (.ok "data: \x7b\x7d"))),
    .reply 1 (.item (some (.ok "id: 7")))]

/-- Where that task waits. -/
def reader : Task String String Unit :=
  .streaming (some "handler")
    (.receiving (.reading () (.events ⟨some "7", "message", ["\x7b\x7d"], true⟩) 0))

theorem reader_mem : (1, reader) ∈ (run (Settings.plain false) {} reading).1.tasks :=
  List.mem_singleton.mpr rfl

/-- The turns of that task behind a close, when the body ends. -/
def ending : List (Record String String Unit) :=
  own 1 (((run (Settings.plain false) {} reading).1.close (Settings.plain false)).history
    (Settings.plain false) [.reply 1 (.item none), .reply 1 (.verdict (.ok ()))])

end Sample

/-- The body goes on with the blank line, and the frame is dropped. -/
theorem silent_after_close_of_blank_line :
    let later := own 1 (((run (Settings.plain false) {} Sample.reading).1.close
      (Settings.plain false)).history (Settings.plain false) [.reply 1 (.item (some (.ok "")))])
    (1, Sample.reader) ∈ (run (Settings.plain false) {} Sample.reading).1.tasks ∧
      later.length = 1 ∧ ∀ record ∈ later, record.Silent (Settings.plain false).codec := by
  refine ⟨Sample.reader_mem, by decide +kernel, ?_⟩
  rcases silent_after_close_or_held (Settings.plain false) Sample.reading
    [.reply 1 (.item (some (.ok "")))] Sample.reader_mem with hSilent | ⟨_, _, record, hMem, hEnd, _⟩
  · exact hSilent
  · cases List.mem_singleton.mp hMem
    cases hEnd

/-- The body ends instead, and the closed transport hands over a message and moves the
token. -/
theorem handed_over_after_close :
    (1, Sample.reader) ∈ (run (Settings.plain false) {} Sample.reading).1.tasks ∧
      (run (Settings.plain false) {} Sample.reading).1.shared.token = none ∧
      Sample.ending.map (fun record => (record.before.state, record.turn.wait?,
          record.turn.shared.token)) =
        [(.closed, some (.verdict "handler" "\x7b\x7d"), none), (.closed, none, some "7")] :=
  ⟨Sample.reader_mem, by decide +kernel, by decide +kernel⟩

end System

end Transport

end RpcTransport
