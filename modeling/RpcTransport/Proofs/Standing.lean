import RpcTransport.Proofs.Change
import RpcTransport.Proofs.Requests
import RpcTransport.Proofs.Server

/-! Where the tasks of a transport stand with respect to the log of a server. -/
namespace RpcTransport.Transport

variable {M H B : Type}

/-- What a step of a stream task does to the events that are not completely handed
over: it completes the first of them, which moves the token behind them, and hands
over messages in their order. -/
def Advances {codec : Codec M} (events : List (LogEntry codec)) (given : List M)
    (token after : ResumptionToken) (handed : List M)
    (stands : List (LogEntry codec) → List M → Prop) : Prop :=
  ∃ done later now, events = done ++ later ∧ after = (done.getLast?.map (·.id)).or token ∧
    given ++ handed = done.flatMap (·.messages) ++ now ∧ stands later now

namespace Opening

/-- A request that is under way asks for what follows the token. -/
def Asks (settings : Settings M) (token : ResumptionToken) : Opening → Prop
  | .requesting _ request => request = settings.openRequest token
  | .pausing _ _ => True

theorem asks_of_opens {settings : Settings M} {shared : Shared H} {point : Opening}
    (h : ∀ request, (point.wait : Wait M H B) = .answer request →
      shared.Opens settings request) : point.Asks settings shared.token := by
  cases point with
  | requesting retry request => exact (h request rfl).request
  | pausing retry delay => trivial

theorem asks_of_attempt {settings : Settings M} {shared : Shared H} {retry : Nat}
    {point : Opening}
    (h : (attempt settings shared retry : Step Opening (Except Error (Opened B))) = .wait point) :
    point.Asks settings shared.token :=
  asks_of_opens (B := B) fun _ => opens_of_attempt h

theorem asks_of_resume {settings : Settings M} {shared : Shared H} {point next : Opening}
    {reply : Reply B} (h : point.resume settings shared reply = some (.wait next)) :
    next.Asks settings shared.token :=
  asks_of_opens (B := B) fun _ => opens_of_resume h

/-- A stream is opened by the answer to a request. -/
theorem stream_of_resume {settings : Settings M} {shared : Shared H} {point : Opening}
    {reply : Reply B} {decoder : Decoder} {body : B}
    (h : point.resume settings shared reply = some (.done (.ok (.stream decoder body)))) :
    ∃ retry request response, point = .requesting retry request ∧
      reply = .answer (.ok response) ∧ Decoder.select response = .ok (some decoder) ∧
      response.body = body := by
  generalize hStep : (Step.done (.ok (.stream decoder body)) :
    Step Opening (Except Error (Opened B))) = step at h
  cases resumes h with
  | answered retry request answer =>
      have hJudge := result_of_settle hStep.symm
      cases answer with
      | error error => cases hJudge
      | ok response =>
          simp only [judge] at hJudge
          split at hJudge
          · rename_i hSelect
            cases hJudge
            exact ⟨retry, request, response, rfl, rfl, hSelect, rfl⟩
          · cases hJudge
          · split at hJudge <;> cases hJudge
  | elapsed retry delay => cases done_of_attempt hStep.symm

end Opening

namespace Connecting

def Asks (settings : Settings M) (token : ResumptionToken) : Connecting → Prop
  | .opening point => point.Asks settings token
  | .legacy => True

theorem asks_of_afterOpening {settings : Settings M} {shared : Shared H}
    {step : Step Opening (Except Error (Opened B))} {point : Connecting}
    (hStep : ∀ next, step = .wait next → next.Asks settings shared.token)
    (h : (afterOpening settings shared step).2 = .wait point) :
    point.Asks settings shared.token := by
  rcases wait_of_afterOpening h with ⟨next, hNext, rfl, _⟩ | ⟨rfl, _⟩
  · exact hStep next hNext
  · trivial

theorem asks_of_start {settings : Settings M} {shared : Shared H} {handler : Option H}
    {point : Connecting}
    (h : (start settings shared handler : Shared H × Step Connecting (Connected B)).2 =
      .wait point) : point.Asks settings shared.token := by
  have hAfter : (afterOpening (B := B) settings { shared with handler }
      (Opening.attempt settings { shared with handler } 0)).2 = .wait point := h
  have hAsks := asks_of_afterOpening (fun _ hNext => Opening.asks_of_attempt hNext) hAfter
  exact hAsks

theorem asks_of_resume {settings : Settings M} {shared : Shared H} {point next : Connecting}
    {reply : Reply B} {turn : Shared H × Step Connecting (Connected B)}
    (h : point.resume settings shared reply = some turn) (hNext : turn.2 = .wait next) :
    next.Asks settings shared.token := by
  cases resumes h with
  | opening resumed =>
      refine asks_of_afterOpening ?_ hNext
      intro point hPoint
      subst hPoint
      exact Opening.asks_of_resume resumed
  | legacy result => cases hNext

theorem stream_of_resume {settings : Settings M} {shared : Shared H} {point : Connecting}
    {reply : Reply B} {turn : Shared H × Step Connecting (Connected B)}
    {connected : Connected B} {decoder : Decoder} {body : B}
    (h : point.resume settings shared reply = some turn) (hDone : turn.2 = .done connected)
    (hStream : connected.stream = some (decoder, body)) :
    ∃ retry request response, point = .opening (.requesting retry request) ∧
      reply = .answer (.ok response) ∧ Decoder.select response = .ok (some decoder) ∧
      response.body = body := by
  cases resumes h with
  | @opening _ _ step resumed =>
      rcases step with next | (error | (⟨decoder, body⟩ | _ | reason))
      · cases hDone
      · cases hDone
        cases hStream
      · simp only [afterOpening] at hDone
        split at hDone
        · cases hDone
          cases hStream
          obtain ⟨retry, request, response, rfl, hAnswer⟩ := Opening.stream_of_resume resumed
          exact ⟨retry, request, response, rfl, hAnswer⟩
        · cases hDone
          cases hStream
      · cases hDone
        cases hStream
      · simp only [afterOpening] at hDone
        split at hDone
        · cases hDone
        · cases hDone
          cases hStream
  | legacy result =>
      cases hDone
      cases hStream

end Connecting

namespace Intake

/-- Taking in the body records no id. -/
def KeepsToken : Intake M H B → Prop
  | .reading _ reader _ => reader.Anonymous
  | .handing _ _ _ id _ next _ => id = none ∧ ∀ reader, next = some reader → reader.Anonymous

theorem keepsToken_ofResponse {response : Http.Response B} {point : Intake M H B}
    (h : ofResponse response = .wait point) : point.KeepsToken := by
  unfold ofResponse at h
  split at h
  · rename_i decoder _
    cases h
    cases decoder with
    | singleDocument => exact True.intro
    | jsonSequence => exact True.intro
    | eventStream => exact rfl
  · cases h
  · cases h

theorem keepsToken_offer {handler : Option H} {token after : ResumptionToken}
    {messages : List M} {body : B} {next : Option Decoder.Reader} {handled : Nat}
    {step : Step (Intake M H B) (Except Error Nat)}
    (hNext : ∀ reader, next = some reader → reader.Anonymous)
    (h : offer handler token messages none body next handled = (after, step)) :
    after = token ∧ ∀ later, step = .wait later → later.KeepsToken := by
  have hProceed (count : Nat) : ∀ later : Intake M H B,
      proceed body next count = .wait later → later.KeepsToken := by
    intro later hLater
    cases next with
    | none => cases hLater
    | some reader =>
        cases hLater
        exact hNext reader rfl
  rcases handler with _ | handler
  · cases h
    exact ⟨rfl, hProceed _⟩
  · cases messages with
    | nil =>
        cases h
        exact ⟨rfl, hProceed _⟩
    | cons message messages =>
        cases h
        refine ⟨rfl, ?_⟩
        intro later hLater
        cases hLater
        exact ⟨rfl, hNext⟩

theorem keepsToken_resume {codec : Codec M} {stopped : Bool} {handler : Option H}
    {token after : ResumptionToken} {point : Intake M H B} {reply : Reply B}
    {step : Step (Intake M H B) (Except Error Nat)} (h : point.KeepsToken)
    (hItem : ∀ body draft handled line, point = .reading body (.events draft) handled →
      reply = .item (some (.ok line)) → Text.after? "id: " (Text.trim line) = none)
    (hResume : point.resume codec stopped handler token reply = some (after, step)) :
    after = token ∧ ∀ later, step = .wait later → later.KeepsToken := by
  have hAnonymous {body : B} {reader : Decoder.Reader} {handled : Nat} {item : Option BodyItem}
      (hPoint : point = .reading body reader handled) (hReply : reply = .item item) :
      (reader.accept codec stopped item).Anonymous := by
    rw [hPoint] at h
    apply Decoder.Reader.anonymous_accept codec stopped item h
    intro draft line hReader hLine
    exact hItem body draft handled line (by rw [hPoint, hReader]) (by rw [hReply, hLine])
  generalize hTurn : (after, step) = turn at hResume
  cases resumes hResume with
  | more accepts =>
      have hProgress := hAnonymous rfl rfl
      rw [accepts] at hProgress
      cases hTurn
      refine ⟨rfl, ?_⟩
      intro later hLater
      cases hLater
      exact hProgress
  | messages accepts =>
      have hProgress := hAnonymous rfl rfl
      rw [accepts] at hProgress
      obtain ⟨rfl, hNext⟩ := hProgress
      exact keepsToken_offer hNext hTurn.symm
  | finished accepts =>
      cases hTurn
      exact ⟨rfl, nofun⟩
  | accepted owner message rest id body next handled =>
      obtain ⟨rfl, hNext⟩ := h
      exact keepsToken_offer hNext hTurn.symm
  | refused owner message rest id body next handled error =>
      cases hTurn
      exact ⟨rfl, nofun⟩

variable {codec : Codec M}

/-- Taking in the stream stands at the first of the events to come. Of its messages
those that are given were handed over. -/
def Reads (handler : H) (events : List (LogEntry codec)) (given : List M)
    (unread : B → List BodyItem) : Intake M H B → Prop
  | .reading body reader _ => given = [] ∧
      ∃ draft, reader = .events draft ∧ LogEntry.Pending draft events (unread body)
  | .handing owner _ messages id body next _ => owner = handler ∧
      ∃ entry later draft, events = entry :: later ∧ given ++ messages = entry.messages ∧
        id = some entry.id ∧ next = some (.events draft) ∧
        LogEntry.Pending draft later (unread body)

/-- Behind the end of taking in a stream nothing is given. -/
def ReadsStep (handler : H) (events : List (LogEntry codec)) (given : List M)
    (unread : B → List BodyItem) : Step (Intake M H B) (Except Error Nat) → Prop
  | .wait point => point.Reads handler events given unread
  | .done _ => given = []

/-- The message that a step hands over. -/
def handed : Step (Intake M H B) (Except Error Nat) → List M
  | .wait (.handing _ message _ _ _ _ _) => [message]
  | _ => []

section Advances

variable {handler : H} {events later : List (LogEntry codec)} {given messages : List M}
  {unread : B → List BodyItem} {token after : ResumptionToken} {body : B}
  {draft : Frame.Draft} {handled : Nat} {step : Step (Intake M H B) (Except Error Nat)}

theorem advances_offer {entry : LogEntry codec} (hGiven : given ++ messages = entry.messages)
    (hPending : LogEntry.Pending draft later (unread body))
    (h : offer (some handler) token messages (some entry.id) body (some (.events draft)) handled =
      (after, step)) :
    Advances (entry :: later) given token after (handed step)
      fun rest now => ReadsStep handler rest now unread step := by
  cases messages with
  | nil =>
      cases h
      refine ⟨[entry], later, [], rfl, ?_, ?_, rfl, draft, rfl, hPending⟩
      · simp [ResumptionToken.record, ResumptionToken.advance, entry.nonempty]
      · simpa [handed, proceed] using hGiven
  | cons message messages =>
      cases h
      refine ⟨[], entry :: later, given ++ [message], rfl, rfl, rfl, rfl, entry, later, draft,
        rfl, ?_, rfl, rfl, hPending⟩
      rw [List.append_assoc]
      exact hGiven

theorem advances_item {items : List BodyItem} {stopped : Bool}
    (hPending : LogEntry.Pending draft events items) (hUnread : unread body = items.tail)
    (h : (reading body (.events draft) handled).resume codec stopped (some handler) token
      (.item items.head?) = some (after, step)) :
    Advances events [] token after (handed step)
      fun rest now => ReadsStep handler rest now unread step := by
  rcases items with _ | ⟨error | line, items⟩
  · simp only [List.head?_nil, resume, Decoder.Reader.accept, hPending.close,
      Decoder.Reader.ofFrame, Decoder.Reader.skip] at h
    cases h
    exact ⟨[], events, [], rfl, rfl, rfl, rfl⟩
  · cases h
    exact ⟨[], events, [], rfl, rfl, rfl, rfl⟩
  · cases stopped with
    | true =>
        cases h
        exact ⟨[], events, [], rfl, rfl, rfl, rfl⟩
    | false =>
        simp only [List.head?_cons, resume, Decoder.Reader.accept, Bool.false_eq_true,
          ite_false] at h
        rcases hPending.line with ⟨hFrame, hNext⟩ | ⟨entry, later, rfl, hFrame, hNext⟩
        · rw [hFrame] at h
          cases h
          refine ⟨[], events, [], rfl, rfl, rfl, rfl, _, rfl, ?_⟩
          rw [hUnread]
          exact hNext
        · rw [hFrame, Decoder.Reader.ofFrame_frame] at h
          refine advances_offer (List.nil_append _) ?_ (Option.some.inj h)
          rw [hUnread]
          exact hNext

/-- A step of taking in the stream advances along its events. -/
theorem advances_resume {point : Intake M H B} {reply : Reply B} {before : B → List BodyItem}
    {stopped : Bool} (h : point.Reads handler events given before)
    (hItem : ∀ body reader handled item, point = .reading body reader handled →
      reply = .item item → item = (before body).head? ∧ unread body = (before body).tail)
    (hVerdict : ∀ result, reply = .verdict result → result = .ok () ∧ unread = before)
    (hResume : point.resume codec stopped (some handler) token reply = some (after, step)) :
    Advances events given token after (handed step)
      fun rest now => ReadsStep handler rest now unread step := by
  cases point with
  | reading body reader handled =>
      obtain ⟨item, rfl⟩ := item_of_resume hResume
      obtain ⟨rfl, draft, rfl, hPending⟩ := h
      obtain ⟨rfl, hUnread⟩ := hItem body _ handled item rfl rfl
      exact advances_item hPending hUnread hResume
  | handing owner message messages id body next handled =>
      obtain ⟨verdict, rfl⟩ := verdict_of_resume hResume
      obtain ⟨rfl, entry, later, draft, rfl, hGiven, rfl, rfl, hPending⟩ := h
      obtain ⟨rfl, rfl⟩ := hVerdict verdict rfl
      exact advances_offer hGiven hPending (Option.some.inj hResume)

end Advances

end Intake

namespace Streaming

variable {codec : Codec M}

/-- Where a stream task stands. While its stream is opened again nothing is given. -/
def Stands (settings : Settings M) (handler : H) (token : ResumptionToken)
    (events : List (LogEntry codec)) (given : List M) (unread : B → List BodyItem) :
    Streaming M H B → Prop
  | .receiving point => point.Reads handler events given unread
  | .reopening point => given = [] ∧ point.Asks settings token

def StandsStep (settings : Settings M) (handler : H) (token : ResumptionToken)
    (events : List (LogEntry codec)) (given : List M) (unread : B → List BodyItem) :
    Step (Streaming M H B) Unit → Prop
  | .wait point => point.Stands settings handler token events given unread
  | .done _ => given = []

/-- What is given is the beginning of what comes next. -/
theorem StandsStep.ahead {settings : Settings M} {handler : H} {token : ResumptionToken}
    {events : List (LogEntry codec)} {given : List M} {unread : B → List BodyItem}
    {step : Step (Streaming M H B) Unit}
    (h : StandsStep settings handler token events given unread step) :
    given <+: events.flatMap (·.messages) := by
  rcases step with ((⟨body, reader, handled⟩ |
    ⟨owner, message, messages, id, body, next, handled⟩) | point) | result
  · obtain ⟨rfl, _⟩ := h
    exact List.nil_prefix
  · obtain ⟨_, entry, later, _, rfl, hGiven, _⟩ := h
    rw [List.flatMap_cons, ← hGiven, List.append_assoc]
    exact List.prefix_append _ _
  · obtain ⟨rfl, _⟩ := h
    exact List.nil_prefix
  · cases h
    exact List.nil_prefix

/-- The message that a step hands over. -/
def handed : Step (Streaming M H B) Unit → List M
  | .wait (.receiving point) => Intake.handed (.wait point)
  | _ => []

section Advances

variable {settings : Settings M} {handler : H} {events : List (LogEntry settings.codec)}
  {given : List M} {unread : B → List BodyItem} {token : ResumptionToken} {shared : Shared H}

/-- Without a stream nothing is handed over. -/
theorem stands_afterOpening (settings : Settings M) (handler : H)
    {events : List (LogEntry settings.codec)} (unread : B → List BodyItem)
    {step : Step Opening (Except Error (Opened B))}
    (hWait : ∀ next, step = .wait next → next.Asks settings shared.token)
    (hStream : ∀ decoder body, step = .done (.ok (.stream decoder body)) →
      decoder = .eventStream ∧ LogEntry.Pending .empty events (unread body)) :
    let turn : Shared H × Step (Streaming M H B) Unit := afterOpening shared step
    handed turn.2 = [] ∧
      StandsStep settings handler turn.1.token events [] unread turn.2 := by
  rcases step with next | (error | (⟨decoder, body⟩ | _ | reason))
  · exact ⟨rfl, rfl, hWait next rfl⟩
  · exact ⟨rfl, rfl⟩
  · obtain ⟨rfl, hPending⟩ := hStream decoder body rfl
    exact ⟨rfl, rfl, .empty, rfl, hPending⟩
  · exact ⟨rfl, rfl⟩
  · exact ⟨rfl, rfl⟩

theorem stands_afterIntake (settings : Settings M) (handler : H)
    (events : List (LogEntry settings.codec)) (unread : B → List BodyItem) (shared : Shared H)
    (result : Except Error Nat) :
    let turn : Shared H × Step (Streaming M H B) Unit :=
      afterIntake settings shared (.done result)
    handed turn.2 = [] ∧
      StandsStep settings handler turn.1.token events [] unread turn.2 := by
  simp only [afterIntake]
  split
  · exact ⟨rfl, rfl⟩
  · cases result with
    | ok count => exact ⟨rfl, rfl⟩
    | error error =>
        dsimp only
        split
        · exact stands_afterOpening settings handler unread
            (fun _ hNext => Opening.asks_of_attempt hNext)
            fun _ _ hDone => by cases Opening.done_of_attempt hDone
        · exact ⟨rfl, rfl⟩

theorem advances_afterIntake (shared : Shared H)
    {step : Step (Intake M H B) (Except Error Nat)}
    (h : Advances events given token shared.token (Intake.handed step)
      fun rest now => Intake.ReadsStep handler rest now unread step) :
    let turn := afterIntake settings shared step
    Advances events given token turn.1.token (handed turn.2)
      fun rest now => StandsStep settings handler turn.1.token rest now unread turn.2 := by
  cases step with
  | wait point => exact h
  | done result =>
      obtain ⟨done, later, now, hEvents, hToken, hGiven, rfl⟩ := h
      obtain ⟨hHanded, hStands⟩ :=
        stands_afterIntake settings handler later unread shared result
      refine ⟨done, later, [], hEvents, ?_, ?_, hStands⟩
      · rw [(holds_afterIntake settings shared _).token, hToken]
      · rw [hHanded]
        exact hGiven

/-- A step of a stream task advances along the events of its log. -/
theorem advances_resume {point : Streaming M H B} {reply : Reply B}
    {before : B → List BodyItem} {turn : Shared H × Step (Streaming M H B) Unit}
    (h : point.Stands settings handler shared.token events given before)
    (hItem : ∀ body reader handled item, point = .receiving (.reading body reader handled) →
      reply = .item item → item = (before body).head? ∧ unread body = (before body).tail)
    (hVerdict : ∀ result, reply = .verdict result → result = .ok () ∧ unread = before)
    (hStream : ∀ request response decoder, point.wait = (.answer request : Wait M H B) →
      reply = .answer (.ok response) → Decoder.select response = .ok (some decoder) →
      decoder = .eventStream ∧ LogEntry.Pending .empty events (unread response.body))
    (hResume : point.resume settings shared (some handler) reply = some turn) :
    Advances events given shared.token turn.1.token (handed turn.2)
      fun rest now => StandsStep settings handler turn.1.token rest now unread turn.2 := by
  cases point with
  | receiving point =>
      obtain ⟨⟨after, step⟩, hStep, rfl⟩ := Option.map_eq_some_iff.mp hResume
      have hReads : point.Reads handler events given before := h
      have hAdvances := Intake.advances_resume hReads
        (fun body reader handled item hPoint hReply =>
          hItem body reader handled item (congrArg receiving hPoint) hReply) hVerdict hStep
      exact advances_afterIntake { shared with token := after } hAdvances
  | reopening point =>
      obtain ⟨step, hStep, rfl⟩ := Option.map_eq_some_iff.mp hResume
      obtain ⟨rfl, hAsks⟩ := h
      have hWait : ∀ next, step = .wait next → next.Asks settings shared.token := by
        rintro next rfl
        exact Opening.asks_of_resume hStep
      have hOpened : ∀ decoder body, step = .done (.ok (.stream decoder body)) →
          decoder = .eventStream ∧ LogEntry.Pending .empty events (unread body) := by
        rintro decoder body rfl
        obtain ⟨retry, request, response, rfl, rfl, hSelect, rfl⟩ := Opening.stream_of_resume hStep
        exact hStream request response decoder rfl rfl hSelect
      obtain ⟨hHanded, hStands⟩ := stands_afterOpening settings handler unread hWait hOpened
      refine ⟨[], events, [], rfl, ?_, ?_, hStands⟩
      · exact (holds_afterOpening shared step).token
      · rw [hHanded]
        rfl

end Advances

end Streaming

/-- What the turn of a stream task hands over goes to its handler. -/
theorem Record.streamed_ofStreaming {settings : Settings M} {handler : H}
    {token : ResumptionToken} {events : List (LogEntry settings.codec)} {given : List M}
    {unread : B → List BodyItem} {turn : Shared H × Step (Streaming M H B) Unit}
    (h : Streaming.StandsStep settings handler token events given unread turn.2)
    {record : Record M H B} (hTurn : record.turn = .ofStreaming (some handler) turn) :
    Record.streamed [record] = (Streaming.handed turn.2).map (handler, ·) := by
  rcases turn with ⟨shared, ((⟨body, reader, handled⟩ |
    ⟨owner, message, messages, id, body, next, handled⟩) | point) | result⟩
  · simp [Record.streamed, hTurn, Turn.ofStreaming, Step.mapPoint, Step.mapResult, Turn.task?,
      Task.handed?, Streaming.handed, Intake.handed]
  · obtain ⟨rfl, _⟩ := h
    simp [Record.streamed, hTurn, Turn.ofStreaming, Step.mapPoint, Step.mapResult, Turn.task?,
      Task.handed?, Streaming.handed, Intake.handed]
  · simp [Record.streamed, hTurn, Turn.ofStreaming, Step.mapPoint, Step.mapResult, Turn.task?,
      Task.handed?, Streaming.handed]
  · simp [Record.streamed, hTurn, Turn.ofStreaming, Step.mapPoint, Step.mapResult, Turn.task?,
      Streaming.handed]

namespace Sending

/-- Where a send stands. Neither its connect sequence nor its reply moves the token. -/
def Stands (settings : Settings M) (token : ResumptionToken) : Sending M H B → Prop
  | .connecting _ point => point.Asks settings token
  | .receiving _ point => point.KeepsToken
  | _ => True

section Stands

variable {settings : Settings M} {shared : Shared H} {handler : Option H} {message : M}
  {token : ResumptionToken}

theorem stands_forward {point : Sending M H B} (h : forward settings message = .wait point) :
    point.Stands settings token := by
  obtain ⟨next, rfl⟩ := forwarding_of_forward h
  exact True.intro

theorem stands_post {point : Sending M H B} (h : post settings message = .wait point) :
    point.Stands settings token := by
  obtain ⟨body, _, rfl⟩ := posting_of_post h
  exact True.intro

theorem stands_afterConnecting {turn : Shared H × Step Connecting (Connected B)}
    {point : Sending M H B} (hTurn : ∀ next, turn.2 = .wait next → next.Asks settings token)
    (h : (afterConnecting settings message turn).step = .wait point) :
    point.Stands settings token := by
  rcases turn with ⟨shared, next | ⟨error | _, stream⟩⟩
  · cases h
    exact hTurn next rfl
  · cases h
  · simp only [afterConnecting] at h
    split at h
    · exact stands_forward h
    · split at h
      · cases h
      · exact stands_post h

theorem stands_start {point : Sending M H B}
    (h : (start settings shared handler message : Turn M H B).step = .wait point) :
    point.Stands settings shared.token := by
  unfold start at h
  split at h
  · exact stands_forward h
  · split at h
    · cases h
    · split at h
      · refine stands_afterConnecting ?_ h
        intro next hNext
        have hAsks := Connecting.asks_of_start hNext
        exact hAsks
      · exact stands_post h
    · exact stands_post h

theorem stands_afterIntake {step : Step (Intake M H B) (Except Error Nat)}
    {point : Sending M H B} (hStep : ∀ later, step = .wait later → later.KeepsToken)
    (h : (afterIntake settings shared message step).step = .wait point) :
    point.Stands settings token := by
  rcases step with next | (error | count)
  · cases h
    exact hStep next rfl
  · simp only [afterIntake] at h
    split at h
    · exact stands_forward h
    · cases h
  · cases h

theorem stands_resume {point : Sending M H B} {reply : Reply B} {turn : Turn M H B}
    (h : point.Stands settings shared.token)
    (hAnonymous : ∀ message body draft handled line,
      point = .receiving message (.reading body (.events draft) handled) →
      reply = .item (some (.ok line)) → Text.after? "id: " (Text.trim line) = none)
    (hResume : point.resume settings shared handler reply = some turn) :
    turn.shared.token = shared.token ∧
      ∀ next, turn.step = .wait next → next.Stands settings shared.token := by
  cases resumes hResume with
  | connecting resumed =>
      rw [afterConnecting_shared]
      refine ⟨(Connecting.holds_resume resumed).token, ?_⟩
      intro next hNext
      exact stands_afterConnecting (fun _ hPoint => Connecting.asks_of_resume resumed hPoint) hNext
  | failed message request error => exact ⟨rfl, nofun⟩
  | answered message request response =>
      refine ⟨(holds_afterIntake settings shared _ _).token, ?_⟩
      intro next hNext
      exact stands_afterIntake (fun _ hLater => Intake.keepsToken_ofResponse hLater) hNext
  | receiving resumed =>
      obtain ⟨rfl, hLater⟩ := Intake.keepsToken_resume h
        (fun body draft handled line hPoint hLine => hAnonymous _ body draft handled line
          (by rw [hPoint]) hLine) resumed
      refine ⟨(holds_afterIntake settings shared _ _).token, ?_⟩
      intro next hNext
      exact stands_afterIntake hLater hNext
  | forwarding inner result =>
      refine ⟨rfl, ?_⟩
      intro next hNext
      obtain ⟨later, _, rfl⟩ := Step.mapPoint_eq_wait.mp hNext
      exact True.intro

/-- A send opens a stream only with the answer to a request of its connect sequence. -/
theorem stream_of_resume {point : Sending M H B} {reply : Reply B} {turn : Turn M H B}
    {decoder : Decoder} {body : B} (h : point.resume settings shared handler reply = some turn)
    (hStream : turn.stream = some (decoder, body)) :
    ∃ message retry request response,
      point = .connecting message (.opening (.requesting retry request)) ∧
      reply = .answer (.ok response) ∧ Decoder.select response = .ok (some decoder) ∧
      response.body = body := by
  have hNone (step : Step (Intake M H B) (Except Error Nat)) (shared : Shared H) (message : M) :
      (afterIntake settings shared message step).stream = none := by
    rcases step with point | (error | count)
    · rfl
    · simp only [afterIntake]
      split <;> rfl
    · rfl
  cases resumes h with
  | @connecting message inner _ turn resumed =>
      obtain ⟨shared, next | connected⟩ := turn
      · cases hStream
      · obtain ⟨retry, request, response, rfl, hAnswer⟩ :=
          Connecting.stream_of_resume resumed rfl hStream
        exact ⟨message, retry, request, response, rfl, hAnswer⟩
  | failed message request error => cases hStream
  | answered message request response =>
      rw [hNone] at hStream
      cases hStream
  | receiving resumed =>
      rw [hNone] at hStream
      cases hStream
  | forwarding inner result => cases hStream

end Stands

end Sending

namespace Task

variable {codec : Codec M}

/-- Where a task stands. -/
def Stands (settings : Settings M) (handler : H) (token : ResumptionToken)
    (events : List (LogEntry codec)) (given : List M) (unread : B → List BodyItem) :
    Task M H B → Prop
  | .connecting _ point => point.Asks settings token
  | .sending _ point => point.Stands settings token
  | .streaming owner point => owner = some handler ∧
      point.Stands settings handler token events given unread
  | _ => True

/-- Only a connect sequence and a stream task depend on where the log stands. -/
theorem stands_of_other {settings : Settings M} {handler : H} {token token' : ResumptionToken}
    {events events' : List (LogEntry codec)} {given given' : List M}
    {unread unread' : B → List BodyItem} {task : Task M H B} (hPhase : task.phase = .other)
    (h : task.Stands settings handler token events given unread) :
    task.Stands settings handler token' events' given' unread' := by
  rcases task with ⟨owner, point⟩ | _ | ⟨owner, point | _ | _ | _⟩ | _ | ⟨owner, point⟩
  · cases hPhase
  · exact h
  · cases hPhase
  · exact h
  · exact h
  · exact h
  · exact h
  · cases hPhase

section Stands

variable {settings : Settings M} {handler : H} {events : List (LogEntry codec)}
  {given : List M} {unread : B → List BodyItem} {shared : Shared H}

theorem stands_start {call : Call M H} {task : Task M H B}
    (h : (call.start settings shared : Turn M H B).step = .wait task) :
    task.Stands settings handler shared.token events given unread := by
  have hStarts := call.starts (B := B) settings shared
  generalize call.start settings shared = turn at hStarts h
  cases hStarts with
  | legacyConnecting owner tripped =>
      cases h
      exact True.intro
  | refused owner error => cases h
  | connecting owner untripped idle =>
      obtain ⟨point, hPoint, rfl⟩ := Turn.ofConnecting_eq_wait.mp h
      have hAsks := Connecting.asks_of_start hPoint
      exact hAsks
  | sending sends =>
      obtain ⟨point, hPoint, rfl⟩ := Turn.ofSending_eq_wait.mp h
      exact Sending.stands_start hPoint
  | closing =>
      cases h
      exact True.intro
  | closed => cases h

/-- A turn of a task that is no stream task leaves the token alone. -/
theorem stands_resume {task : Task M H B} {reply : Reply B} {turn : Turn M H B}
    (hKind : task.isStreaming = false)
    (h : task.Stands settings handler shared.token events given unread)
    (hAnonymous : ∀ owner message body draft handled line,
      task = .sending owner (.receiving message (.reading body (.events draft) handled)) →
      reply = .item (some (.ok line)) → Text.after? "id: " (Text.trim line) = none)
    (hResume : task.resume settings shared reply = some turn) :
    turn.shared.token = shared.token ∧ ∀ next, turn.step = .wait next →
      next.Stands settings handler shared.token events given unread := by
  cases resumes hResume with
  | connecting resumed =>
      rw [Turn.ofConnecting_shared]
      refine ⟨(Connecting.holds_resume resumed).token, ?_⟩
      intro next hNext
      obtain ⟨point, hPoint, rfl⟩ := Turn.ofConnecting_eq_wait.mp hNext
      exact Connecting.asks_of_resume resumed hPoint
  | legacyConnecting owner result => exact ⟨rfl, nofun⟩
  | sending resumed =>
      obtain ⟨hToken, hStands⟩ := Sending.stands_resume h
        (fun message body draft handled line hPoint hLine => hAnonymous _ message body draft
          handled line (by rw [hPoint]) hLine) resumed
      refine ⟨hToken, ?_⟩
      intro next hNext
      obtain ⟨point, hPoint, rfl⟩ := Turn.ofSending_eq_wait.mp hNext
      exact hStands point hPoint
  | closing result => exact ⟨rfl, nofun⟩
  | streaming resumed => cases hKind

/-- A stream is opened by the answer to a request for the events behind the token. -/
theorem stream_of_resume {task : Task M H B} {reply : Reply B} {turn : Turn M H B}
    {owner : Option H} {decoder : Decoder} {body : B}
    (h : task.Stands settings handler shared.token events given unread)
    (hResume : task.resume settings shared reply = some turn)
    (hStream : turn.stream = some (owner, decoder, body)) :
    ∃ response, task.wait = (.answer (settings.openRequest shared.token) : Wait M H B) ∧
      reply = .answer (.ok response) ∧ Decoder.select response = .ok (some decoder) ∧
      response.body = body := by
  cases resumes hResume with
  | @connecting _ _ _ turn resumed =>
      obtain ⟨shared, next | connected⟩ := turn
      · cases hStream
      · obtain ⟨⟨decoder, body⟩, hConnected, hEq⟩ := Option.map_eq_some_iff.mp hStream
        cases hEq
        obtain ⟨retry, request, response, rfl, hAnswer⟩ :=
          Connecting.stream_of_resume resumed rfl hConnected
        cases h
        exact ⟨response, rfl, hAnswer⟩
  | legacyConnecting owner result => cases hStream
  | sending resumed =>
      obtain ⟨⟨decoder, body⟩, hOpened, hEq⟩ := Option.map_eq_some_iff.mp hStream
      cases hEq
      obtain ⟨message, retry, request, response, rfl, hAnswer⟩ :=
        Sending.stream_of_resume resumed hOpened
      cases h
      exact ⟨response, rfl, hAnswer⟩
  | closing result => cases hStream
  | streaming resumed => cases hStream

end Stands

end Task

end RpcTransport.Transport
