import RpcTransport.Proofs.Attempts
import RpcTransport.Proofs.Handing

/-! A stream task from beginning to end, alone. -/
namespace RpcTransport.Transport

variable {M H B : Type}

/-- The waits in which messages are given to a handler. -/
def Wait.handing (handler : Option H) (messages : List M) : List (Wait M H B) :=
  handler.toList.flatMap fun owner => messages.map (.verdict owner ·)

/-- The decoding of a body whose handler has been given `judged` messages before. -/
def Surroundings.setting (around : Surroundings M B) (codec : Codec M) (handler : Option H)
    (judged : Nat) : Decoder.Setting M where
  codec := codec
  handler count message := match handler with
    | some _ => around.verdict (judged + count) message
    | none => .ok ()

/-- A body that is read from its beginning on. Before, the task has sent `asked` requests and
its handler has been given `judged` messages. -/
structure Reading (B : Type) where
  decoder : Decoder
  body : B
  token : ResumptionToken
  asked : Nat := 0
  judged : Nat := 0

/-- How a stream task leaves the transport. -/
structure Halt where
  state : ConnectionState
  tripped : Bool := false
  token : ResumptionToken

section Course

variable (settings : Settings M) (around : Surroundings M B) (handler : Option H)

namespace Reading

/-- What decoding the body comes to. -/
def outcome (reading : Reading B) : Decoder.Outcome M :=
  Decoder.decode (around.setting settings.codec handler reading.judged) reading.token
    reading.decoder (around.contents reading.body)

/-- The messages of the body that the handler is given: all up to the first one refused. -/
def given (reading : Reading B) : List (Wait M H B) :=
  Wait.handing handler <|
    Decoder.offered (around.setting settings.codec handler reading.judged).handler 0 <|
      Decoder.messagesOf settings.codec reading.decoder (around.contents reading.body)

/-- The body ends with an error that is retried, and after so many retries of the request
that opens the stream again comes the answer that decides. -/
structure Reopens (reading : Reading B) (retries : Nat)
    (answer : Except Error (Http.Response B)) : Prop where
  retried : ∃ error, (reading.outcome settings around handler).result = .error error ∧
    settings.policy.worthRetrying error = true
  decides : Decides settings.policy (fun i => around.answers (reading.asked + i)) retries
  answer : around.answers (reading.asked + retries) = answer

/-- The waits from the first message of the body to the answer that decides. -/
def reopening (reading : Reading B) (retries : Nat) : List (Wait M H B) :=
  reading.given settings around handler ++
    settings.attempts (reading.outcome settings around handler).token 0 retries

/-- The body that is read next. -/
def next (reading : Reading B) (retries : Nat) (decoder : Decoder) (body : B) : Reading B where
  decoder := decoder
  body := body
  token := (reading.outcome settings around handler).token
  asked := reading.asked + retries + 1
  judged := reading.judged + (reading.given settings around handler).length

end Reading

/-- The course of a stream task: the messages that it hands over, the requests and pauses in
which it opens the stream again, and how it leaves the transport. -/
inductive Course : Reading B → List (Wait M H B) → Halt → Prop where
  | ended {reading : Reading B} {count : Nat}
      (clean : (reading.outcome settings around handler).result = .ok count) :
      Course reading (reading.given settings around handler)
        { state := .closed, token := (reading.outcome settings around handler).token }
  | failed {reading : Reading B} {error : Error}
      (broken : (reading.outcome settings around handler).result = .error error)
      (final : settings.policy.worthRetrying error = false) :
      Course reading (reading.given settings around handler)
        { state := .disconnected, token := (reading.outcome settings around handler).token }
  | goesOn {reading : Reading B} {retries : Nat} {response : Http.Response B} {decoder : Decoder}
      {waits : List (Wait M H B)} {halt : Halt}
      (reopens : reading.Reopens settings around handler retries (.ok response))
      (success : response.isSuccess = true) (status : response.status ≠ 202)
      (form : Decoder.ofContentType? (response.contentType?.getD "") = some decoder)
      (onward : Course (reading.next settings around handler retries decoder response.body)
        waits halt) :
      Course reading (reading.reopening settings around handler retries ++ waits) halt
  | accepted {reading : Reading B} {retries : Nat} {response : Http.Response B}
      (reopens : reading.Reopens settings around handler retries (.ok response))
      (status : response.status = 202) :
      Course reading (reading.reopening settings around handler retries)
        { state := .closed, token := (reading.outcome settings around handler).token }
  | denied {reading : Reading B} {retries : Nat} {response : Http.Response B}
      (reopens : reading.Reopens settings around handler retries (.ok response))
      (denies : response.Denies) :
      Course reading (reading.reopening settings around handler retries)
        { state := .disconnected, tripped := true,
          token := (reading.outcome settings around handler).token }
  | unopened {reading : Reading B} {retries : Nat} {answer : Except Error (Http.Response B)}
      {error : Error} (reopens : reading.Reopens settings around handler retries answer)
      (fails : Fails answer error) :
      Course reading (reading.reopening settings around handler retries)
        { state := .disconnected, token := (reading.outcome settings around handler).token }

end Course

section Inversion

variable {settings : Settings M} {around : Surroundings M B} {handler : Option H}
  {reading : Reading B} {waits : List (Wait M H B)} {halt : Halt}

theorem Reading.Reopens.unique {retries other : Nat}
    {answer answer' : Except Error (Http.Response B)}
    (h : reading.Reopens settings around handler retries answer)
    (h' : reading.Reopens settings around handler other answer') :
    retries = other ∧ answer = answer' := by
  cases h.decides.unique h'.decides
  exact ⟨rfl, h.answer.symm.trans h'.answer⟩

/-- A body that ends cleanly is the last one. -/
theorem Course.of_clean {count : Nat}
    (clean : (reading.outcome settings around handler).result = .ok count)
    (h : Course settings around handler reading waits halt) :
    waits = reading.given settings around handler ∧
      halt = { state := .closed, token := (reading.outcome settings around handler).token } := by
  have hNone {retries : Nat} {answer : Except Error (Http.Response B)}
      (reopens : reading.Reopens settings around handler retries answer) : False := by
    obtain ⟨_, hError, _⟩ := reopens.retried
    rw [clean] at hError
    cases hError
  cases h with
  | ended _ => exact ⟨rfl, rfl⟩
  | failed broken _ =>
      rw [clean] at broken
      cases broken
  | goesOn reopens => exact (hNone reopens).elim
  | accepted reopens => exact (hNone reopens).elim
  | denied reopens => exact (hNone reopens).elim
  | unopened reopens => exact (hNone reopens).elim

/-- Behind an answer that brings a further body the course is one of that body. -/
theorem Course.of_stream {retries : Nat} {response : Http.Response B} {decoder : Decoder}
    (reopens : reading.Reopens settings around handler retries (.ok response))
    (success : response.isSuccess = true) (status : response.status ≠ 202)
    (form : Decoder.ofContentType? (response.contentType?.getD "") = some decoder)
    (h : Course settings around handler reading waits halt) :
    ∃ rest, waits = reading.reopening settings around handler retries ++ rest ∧
      Course settings around handler
        (reading.next settings around handler retries decoder response.body) rest halt := by
  obtain ⟨error, hError, hWorth⟩ := reopens.retried
  cases h with
  | ended clean =>
      rw [clean] at hError
      cases hError
  | failed broken final =>
      rw [broken] at hError
      cases hError
      simp [final] at hWorth
  | goesOn reopens' _ _ form' onward =>
      obtain ⟨rfl, hAnswer⟩ := reopens.unique reopens'
      cases hAnswer
      rw [form] at form'
      cases form'
      exact ⟨_, rfl, onward⟩
  | accepted reopens' status' =>
      cases (reopens.unique reopens').2
      exact absurd status' status
  | denied reopens' denies =>
      cases (reopens.unique reopens').2
      rcases denies with hStatus | hStatus | ⟨_, _, hForm⟩
      · simp [Http.Response.isSuccess, hStatus] at success
      · simp [Http.Response.isSuccess, hStatus] at success
      · simp [form] at hForm
  | unopened reopens' fails =>
      cases (reopens.unique reopens').2
      cases fails with
      | unsuccessful failure _ => simp [success] at failure

end Inversion

namespace Wait

variable {waits : List (Wait M H B)} {messages : List M} {handler : Option H}

theorem asked_handing : asked (handing handler messages : List (Wait M H B)) = 0 := by
  refine List.countP_eq_zero.mpr fun wait hWait => ?_
  obtain ⟨owner, _, hWait⟩ := List.mem_flatMap.mp hWait
  obtain ⟨message, _, rfl⟩ := List.mem_map.mp hWait
  simp [isAnswer]

theorem judged_handing :
    judged (handing handler messages : List (Wait M H B)) =
      (handing handler messages : List (Wait M H B)).length := by
  refine List.countP_eq_length.mpr fun wait hWait => ?_
  obtain ⟨owner, _, hWait⟩ := List.mem_flatMap.mp hWait
  obtain ⟨message, _, rfl⟩ := List.mem_map.mp hWait
  rfl

theorem length_handing (h : handler ≠ none) :
    (handing handler messages : List (Wait M H B)).length = messages.length := by
  cases handler with
  | none => exact absurd rfl h
  | some owner => simp [handing]

theorem read_concat_item (body : B) : read (waits ++ [.item body]) = read waits + 1 := by
  simp [read, List.foldl_append, isAnswer, isItem]

theorem read_append_handing : read (waits ++ handing handler messages) = read waits := by
  cases handler with
  | none => simp [handing]
  | some owner =>
      induction messages generalizing waits with
      | nil => simp [handing]
      | cons message messages ih =>
          have hFirst : read (waits ++ [.verdict owner message]) = read waits := by
            simp [read, List.foldl_append, isAnswer, isItem]
          have hRest : read ((waits ++ [.verdict owner message]) ++
              handing (some owner) messages) = read (waits ++ [.verdict owner message]) := ih
          simpa [handing, hFirst] using hRest

theorem filter_handing :
    (handing handler messages : List (Wait M H B)).filter (!·.isItem) =
      handing handler messages := by
  refine List.filter_eq_self.mpr fun wait hWait => ?_
  obtain ⟨owner, _, hWait⟩ := List.mem_flatMap.mp hWait
  obtain ⟨message, _, rfl⟩ := List.mem_map.mp hWait
  rfl

theorem handing_append (messages more : List M) :
    (handing handler (messages ++ more) : List (Wait M H B)) =
      handing handler messages ++ handing handler more := by
  cases handler <;> simp [handing]

end Wait

namespace Settings

variable (settings : Settings M) (token : ResumptionToken) (retry more : Nat)

theorem asked_attempts :
    Wait.asked (settings.attempts token retry more : List (Wait M H B)) = more + 1 := by
  induction more generalizing retry with
  | zero => rfl
  | succ more ih =>
      rw [attempts, Wait.asked, List.countP_cons, List.countP_cons, ← Wait.asked, ih]
      rfl

theorem judged_attempts :
    Wait.judged (settings.attempts token retry more : List (Wait M H B)) = 0 := by
  induction more generalizing retry with
  | zero => rfl
  | succ more ih =>
      rw [attempts, Wait.judged, List.countP_cons, List.countP_cons, ← Wait.judged, ih]
      rfl

/-- The last answer brings a body of which nothing was read. -/
theorem read_append_attempts (waits : List (Wait M H B)) :
    Wait.read (waits ++ settings.attempts token retry more) = 0 := by
  induction more generalizing retry waits with
  | zero => simp [attempts, Wait.read, List.foldl_append, Wait.isAnswer]
  | succ more ih =>
      have hRest := ih (retry + 1) (waits ++ [.answer (settings.openRequest token),
        .pause (settings.policy.pauseBefore retry)])
      simpa [attempts] using hRest

theorem filter_attempts :
    (settings.attempts token retry more : List (Wait M H B)).filter (!·.isItem) =
      settings.attempts token retry more := by
  induction more generalizing retry with
  | zero => rfl
  | succ more ih =>
      rw [attempts, List.filter_cons_of_pos rfl, List.filter_cons_of_pos rfl, ih]

end Settings

namespace Streaming

/-- The turn of a stream task behind a step of taking in its body. -/
def taking (settings : Settings M) (shared : Shared H) (handler : Option H)
    (step : ResumptionToken × Step (Intake M H B) (Except Error Nat)) : Turn M H B :=
  .ofStreaming handler (afterIntake settings { shared with token := step.1 } step.2)

/-- Where taking in a body stands behind the messages of an item. -/
def behind (token : ResumptionToken) (id : Option String) (body : B)
    (next : Option Decoder.Reader) : List M × Except Error Unit →
      ResumptionToken × Step (Intake M H B) (Except Error Nat)
  | (seen, .ok ()) => (token.record id, Intake.proceed body next seen.length)
  | (_, .error error) => (token, .done (.error error))

/-- Where taking in a body stands when its decoding is over. -/
def ended (outcome : Decoder.Outcome M) :
    ResumptionToken × Step (Intake M H B) (Except Error Nat) :=
  (outcome.token, .done outcome.result)

theorem ended_handOver_none {setting : Decoder.Setting M} {asked : Nat} {seen : List M}
    {token : ResumptionToken} {messages : List M} {id : Option String} {rest : List BodyItem}
    (body : B) :
    (ended (Decoder.handOver setting none asked seen token messages id rest) :
      ResumptionToken × Step (Intake M H B) (Except Error Nat)) =
        behind token id body none (Decoder.deliver setting.handler seen messages) := by
  unfold Decoder.handOver
  rcases Decoder.deliver setting.handler seen messages with ⟨seen, error | _⟩ <;> rfl

section Intake

variable {settings : Settings M} {around : Surroundings M B} {handler : Option H}
  {shared : Shared H} {before : List (Wait M H B)} {token : ResumptionToken} {judged : Nat}

theorem converses_resume (hOpen : shared.isClosed = false) {point : Intake M H B}
    {step : ResumptionToken × Step (Intake M H B) (Except Error Nat)}
    (hResume : point.resume settings.codec false handler token
      (around.reply before point.wait) = some step) :
    Converses settings around.reply before (taking settings shared handler (token, .wait point))
      [point.wait] (taking settings shared handler step) := by
  have hTurn : (Task.streaming handler (.receiving point)).resume settings
      { shared with token } (around.reply before point.wait) =
        some (taking settings shared handler step) := by
    have hClosed : ({ shared with token } : Shared H).isClosed = false := hOpen
    simp only [Task.resume, resume, hClosed, hResume, Option.map_some]
    rfl
  change Converses settings around.reply before _
    [Task.wait (.streaming handler (.receiving point))] _
  exact .single rfl rfl hTurn

variable (settings around token) in
/-- What the handler says to the messages of an item. -/
theorem converses_offer (hOpen : shared.isClosed = false) (messages : List M)
    (id : Option String) (body : B) (next : Option Decoder.Reader) {seen : List M}
    (hJudged : handler ≠ none → Wait.judged before = judged + seen.length) :
    let setting := around.setting settings.codec handler judged
    Converses settings around.reply before
      (taking settings shared handler
        (Intake.offer handler token messages id body next seen.length))
      (Wait.handing handler (Decoder.offered setting.handler seen.length messages))
      (taking settings shared handler
        (behind token id body next (Decoder.deliver setting.handler seen messages))) := by
  intro setting
  cases handler with
  | none =>
      have hAll : ∀ count message, setting.handler count message = .ok () := fun _ _ => rfl
      rw [Decoder.deliver_all hAll, behind, List.length_append]
      exact .stays _ _
  | some owner =>
      induction messages generalizing before seen with
      | nil => exact .stays _ _
      | cons message messages ih =>
          have hReply : around.reply before (.verdict owner message : Wait M H B) =
              .verdict (setting.handler seen.length message) := by
            simp [Surroundings.reply, setting, Surroundings.setting, hJudged]
          have hFirst {step : ResumptionToken × Step (Intake M H B) (Except Error Nat)}
              (hResume : (Intake.handing owner message messages id body next seen.length).resume
                settings.codec false (some owner) token
                (.verdict (setting.handler seen.length message)) = some step) :
              Converses settings around.reply before
                (taking settings shared (some owner) (Intake.offer (some owner) token
                  (message :: messages) id body next seen.length))
                [.verdict owner message] (taking settings shared (some owner) step) :=
            converses_resume hOpen (hReply ▸ hResume)
          cases hVerdict : setting.handler seen.length message with
          | error error =>
              rw [Decoder.offered, Decoder.deliver, hVerdict]
              rw [hVerdict] at hFirst
              exact hFirst rfl
          | ok =>
              rw [Decoder.offered, Decoder.deliver, hVerdict]
              rw [hVerdict] at hFirst
              have hLength : (seen ++ [message]).length = seen.length + 1 := List.length_append
              have hRest := @ih (before ++ [.verdict owner message]) (seen ++ [message]) (by
                intro _
                rw [Wait.judged_append, hJudged (by rintro ⟨⟩), hLength]
                rfl)
              rw [hLength] at hRest
              exact (hFirst rfl).trans hRest

/-- The decoding goes on from a step to its end, and hands over the messages. -/
def Decodes (settings : Settings M) (around : Surroundings M B) (shared : Shared H)
    (handler : Option H) (before : List (Wait M H B))
    (step : ResumptionToken × Step (Intake M H B) (Except Error Nat)) (messages : List M)
    (outcome : Decoder.Outcome M) : Prop :=
  ∃ waits, waits.filter (!·.isItem) = Wait.handing handler messages ∧
    Converses settings around.reply before (taking settings shared handler step) waits
      (taking settings shared handler (ended outcome))

/-- A step to the next item, or to the end of the body. -/
theorem converses_item (hOpen : shared.isClosed = false) {body : B} {item : Option BodyItem}
    (hItem : (around.contents body)[Wait.read before]? = item) (reader : Decoder.Reader)
    (handled : Nat) {step : ResumptionToken × Step (Intake M H B) (Except Error Nat)}
    (hResume : (Intake.reading body reader handled).resume settings.codec false handler token
      (.item item) = some step) :
    Converses settings around.reply before
      (taking settings shared handler (token, .wait (.reading body reader handled))) [.item body]
      (taking settings shared handler step) := by
  rw [← hItem] at hResume
  exact converses_resume hOpen hResume

theorem Decodes.after_item (hOpen : shared.isClosed = false) {body : B} {item : Option BodyItem}
    (hItem : (around.contents body)[Wait.read before]? = item) (reader : Decoder.Reader)
    (handled : Nat) {step : ResumptionToken × Step (Intake M H B) (Except Error Nat)}
    (hResume : (Intake.reading body reader handled).resume settings.codec false handler token
      (.item item) = some step) {messages : List M} {outcome : Decoder.Outcome M}
    (h : Decodes settings around shared handler (before ++ [.item body]) step messages outcome) :
    Decodes settings around shared handler before (token, .wait (.reading body reader handled))
      messages outcome := by
  obtain ⟨waits, hWaits, hConverses⟩ := h
  exact ⟨.item body :: waits, hWaits,
    (converses_item hOpen hItem reader handled hResume).trans hConverses⟩

/-- Messages are handed over, and if they are accepted the next reader goes on. -/
theorem decodes_offer (hOpen : shared.isClosed = false) {messages : List M} {id : Option String}
    {body : B} {next : Option Decoder.Reader} {asked : Nat} {seen : List M} {rest : List BodyItem}
    (hJudged : handler ≠ none → Wait.judged before = judged + seen.length)
    (hOnward : ∀ reader, next = some reader →
      Decodes settings around shared handler (before ++ Wait.handing handler messages)
        (token.record id, .wait (.reading body reader (seen ++ messages).length))
        (Decoder.offered (around.setting settings.codec handler judged).handler
          (seen ++ messages).length (Decoder.ahead settings.codec reader rest))
        (Decoder.run (around.setting settings.codec handler judged) reader asked
          (seen ++ messages) (token.record id) rest)) :
    Decodes settings around shared handler before
      (Intake.offer handler token messages id body next seen.length)
      (Decoder.offered (around.setting settings.codec handler judged).handler seen.length
        (messages ++ next.elim [] (Decoder.ahead settings.codec · rest)))
      (Decoder.handOver (around.setting settings.codec handler judged) next asked seen token
        messages id rest) := by
  have hFirst := converses_offer settings around token hOpen messages id body next hJudged
  generalize around.setting settings.codec handler judged = setting at hFirst hOnward ⊢
  rcases hDeliver : Decoder.deliver setting.handler seen messages with ⟨all, error | _⟩
  · have hOver : Decoder.handOver setting next asked seen token messages id rest =
        ⟨all, token, .error error⟩ := by
      simp [Decoder.handOver, hDeliver, Decoder.Outcome.ended, Except.map]
    rw [Decoder.offered_append_of_refused hDeliver, hOver]
    simp only [hDeliver] at hFirst
    exact ⟨_, Wait.filter_handing, hFirst⟩
  · obtain ⟨rfl, hGiven⟩ := Decoder.offered_append_of_accepted hDeliver
      (next.elim [] (Decoder.ahead settings.codec · rest))
    have hSame := Decoder.offered_of_accepted hDeliver
    simp only [hDeliver, hSame] at hFirst
    rw [hGiven]
    cases next with
    | none =>
        rw [Option.elim_none, Decoder.offered, List.append_nil]
        refine ⟨_, Wait.filter_handing, ?_⟩
        rwa [ended_handOver_none body, hDeliver]
    | some reader =>
        obtain ⟨waits, hWaits, hLater⟩ := hOnward reader rfl
        refine ⟨_ ++ waits, ?_, hFirst.trans ?_⟩
        · rw [List.filter_append, Wait.filter_handing, hWaits, Wait.handing_append]
          rfl
        · have hOver : Decoder.handOver setting (some reader) asked seen token messages id rest =
              Decoder.run setting reader asked (seen ++ messages) (token.record id) rest := by
            simp [Decoder.handOver, hDeliver]
          rw [hOver]
          exact hLater

/-- The rest of a body, item by item. -/
theorem decodes_reading (hOpen : shared.isClosed = false) {body : B} {rest : List BodyItem}
    (hRest : (around.contents body).drop (Wait.read before) = rest) (reader : Decoder.Reader)
    (asked : Nat) {seen : List M}
    (hJudged : handler ≠ none → Wait.judged before = judged + seen.length) :
    Decodes settings around shared handler before
      (token, .wait (.reading body reader seen.length))
      (Decoder.offered (around.setting settings.codec handler judged).handler seen.length
        (Decoder.ahead settings.codec reader rest))
      (Decoder.run (around.setting settings.codec handler judged) reader asked seen token
        rest) := by
  have hUnstopped (asked : Nat) (reader : Decoder.Reader) (item : Option BodyItem) :
      let setting := around.setting settings.codec handler judged
      reader.accept setting.codec (setting.stop asked) item =
        reader.accept settings.codec false item := rfl
  have hJudgedItem {before : List (Wait M H B)} {seen : List M}
      (hJudged : handler ≠ none → Wait.judged before = judged + seen.length) :
      handler ≠ none → Wait.judged (before ++ [.item body]) = judged + seen.length := by
    intro hSome
    rw [Wait.judged_append, hJudged hSome]
    rfl
  induction rest generalizing before reader asked seen token with
  | nil =>
      have hItem : (around.contents body)[Wait.read before]? = none :=
        List.getElem?_eq_none (List.drop_eq_nil_iff.mp hRest)
      rw [Decoder.run_end, hUnstopped, Decoder.ahead_nil]
      rcases Decoder.Reader.accept_end settings.codec false reader with
        ⟨messages, id, hEnd⟩ | ⟨result, hEnd⟩ <;> rw [hEnd]
      · refine .after_item hOpen hItem reader seen.length (by rw [Intake.resume, hEnd]) ?_
        have hOffer : Decodes settings around shared handler (before ++ [.item body])
            (Intake.offer handler token messages id body none seen.length)
            (Decoder.offered (around.setting settings.codec handler judged).handler seen.length
              (messages ++ []))
            (Decoder.handOver (around.setting settings.codec handler judged) none asked seen token
              messages id []) :=
          decodes_offer hOpen (hJudgedItem hJudged) (by rintro reader ⟨⟩)
        rwa [List.append_nil] at hOffer
      · refine .after_item hOpen hItem reader seen.length (by rw [Intake.resume, hEnd]) ?_
        exact ⟨[], by cases handler <;> rfl, .stays _ _⟩
  | cons item rest ih =>
      have hItem : (around.contents body)[Wait.read before]? = some item := by
        have hHead := congrArg (·[0]?) hRest
        simpa using hHead
      have hTail : (around.contents body).drop (Wait.read (before ++ [.item body])) = rest := by
        rw [Wait.read_concat_item, ← List.tail_drop, hRest, List.tail_cons]
      rw [Decoder.run_item, hUnstopped, Decoder.ahead_cons]
      cases hAccept : reader.accept settings.codec false (some item) with
      | more next =>
          refine .after_item hOpen hItem reader seen.length (by rw [Intake.resume, hAccept]) ?_
          exact ih hTail next _ (hJudgedItem hJudged)
      | messages messages id next =>
          refine .after_item hOpen hItem reader seen.length (by rw [Intake.resume, hAccept]) ?_
          refine decodes_offer hOpen (hJudgedItem hJudged) fun later _ => ?_
          refine ih ?_ later _ ?_
          · rw [Wait.read_append_handing, hTail]
          · intro hSome
            rw [Wait.judged_append, hJudgedItem hJudged hSome, Wait.judged_handing,
              Wait.length_handing hSome, List.length_append, Nat.add_assoc]
      | finished result =>
          refine .after_item hOpen hItem reader seen.length (by rw [Intake.resume, hAccept]) ?_
          exact ⟨[], by cases handler <;> rfl, .stays _ _⟩

end Intake

/-- A stream task waits for its openings. -/
theorem hosted (settings : Settings M) (handler : Option H) :
    Opening.Hosted settings (B := B) (fun point => .streaming handler (.reopening point))
      (fun shared step => .ofStreaming handler (afterOpening shared step)) where
  wait_eq _ := rfl
  resume_eq shared point reply := by
    simp only [Task.resume, resume, Option.map_map, Function.comp_def]
  after_wait _ _ := rfl

/-- The last turn of a stream task. -/
def halted (shared : Shared H) (halt : Halt) : Turn M H B :=
  ⟨{ shared with state := halt.state, latch := ⟨halt.tripped⟩, token := halt.token },
    .done none, none⟩

section Course

variable {settings : Settings M} {around : Surroundings M B} {handler : Option H}
  {shared : Shared H} {before : List (Wait M H B)}

/-- Where the task stands in its course. -/
structure Begins (around : Surroundings M B) (shared : Shared H) (before : List (Wait M H B))
    (reading : Reading B) : Prop where
  state : shared.state = .connected
  latch : shared.latch.tripped = false
  token : shared.token = reading.token
  asked : Wait.asked before = reading.asked
  judged : Wait.judged before = reading.judged
  unread : Wait.read before = 0

theorem Begins.not_closed {reading : Reading B} (h : Begins around shared before reading)
    (token : ResumptionToken) : ({ shared with token } : Shared H).isClosed = false := by
  simp [Shared.isClosed, h.state]

variable (settings handler) in
/-- One body, from its first item to what its decoding comes to. -/
theorem decodes_body {reading : Reading B} (h : Begins around shared before reading) :
    ∃ waits, waits.filter (!·.isItem) = reading.given settings around handler ∧
      Converses settings around.reply before
        ⟨shared, .wait (.streaming handler (.receiving (.start reading.decoder reading.body))),
          none⟩ waits
        (taking settings shared handler (ended (reading.outcome settings around handler))) := by
  have hOpen : shared.isClosed = false := h.not_closed shared.token
  have hDecodes : Decodes settings around shared handler before
      (reading.token, .wait (.reading reading.body (.start reading.decoder) ([] : List M).length))
      (Decoder.offered (around.setting settings.codec handler reading.judged).handler
        ([] : List M).length (Decoder.ahead settings.codec (.start reading.decoder)
          (around.contents reading.body))) (reading.outcome settings around handler) :=
    decodes_reading hOpen (by rw [h.unread, List.drop_zero]) _ 0 fun _ => h.judged
  obtain ⟨waits, hWaits, hConverses⟩ := hDecodes
  rw [← h.token] at hConverses
  exact ⟨waits, hWaits, hConverses⟩

variable (settings handler) in
/-- A decoding that ends in an error which is retried leads to the opening of the stream. -/
theorem converses_reopening {reading : Reading B} (h : Begins around shared before reading)
    {error : Error} (hResult : (reading.outcome settings around handler).result = .error error)
    (hWorth : settings.policy.worthRetrying error = true) :
    ∃ retries answer waits, reading.Reopens settings around handler retries answer ∧
      waits.filter (!·.isItem) = reading.reopening settings around handler retries ∧
      Wait.asked waits = retries + 1 ∧
      Wait.judged waits = (reading.given settings around handler).length ∧
      Wait.read (before ++ waits) = 0 ∧
      Converses settings around.reply before
        ⟨shared, .wait (.streaming handler (.receiving (.start reading.decoder reading.body))),
          none⟩ waits
        (.ofStreaming handler (afterOpening
          { shared with token := (reading.outcome settings around handler).token }
          (.done (Opening.judge answer)))) := by
  obtain ⟨body, hBody, hDecodes⟩ := decodes_body settings handler h
  let after : Shared H := { shared with token := (reading.outcome settings around handler).token }
  have hTurn : (taking settings shared handler (ended (reading.outcome settings around handler)) :
      Turn M H B) =
        .ofStreaming handler (afterOpening after (Opening.attempt settings after 0)) := by
    simp only [taking, ended, hResult, afterIntake, h.not_closed, hWorth, ite_true,
      Bool.false_eq_true, ite_false]
    rfl
  have hOpen : after.IsOpen := ⟨h.latch, h.not_closed _⟩
  obtain ⟨retries, hDecides, hOpening⟩ :=
    (hosted settings handler).converses_opening around hOpen (before ++ body)
  have hAsked : Wait.asked body = 0 := by
    rw [← Wait.asked_filter, hBody, Reading.given, Wait.asked_handing]
  have hJudged : Wait.judged body = (reading.given settings around handler).length := by
    rw [← Wait.judged_filter, hBody, Reading.given, Wait.judged_handing]
  rw [Wait.asked_append, hAsked, h.asked] at hDecides hOpening
  rw [hTurn] at hDecodes
  refine ⟨retries, _, _, ⟨⟨error, hResult, hWorth⟩, hDecides, rfl⟩, ?_, ?_, ?_, ?_,
    hDecodes.trans hOpening⟩
  · rw [List.filter_append, hBody, Settings.filter_attempts]
    rfl
  · rw [Wait.asked_append, hAsked, Settings.asked_attempts, Nat.zero_add]
  · rw [Wait.judged_append, hJudged, Settings.judged_attempts, Nat.add_zero]
  · rw [← List.append_assoc, Settings.read_append_attempts]

/-- The next body begins behind the answer that brings it. -/
theorem Begins.next {reading : Reading B} (h : Begins around shared before reading)
    {retries : Nat} (decoder : Decoder) (body : B) {waits : List (Wait M H B)}
    (hAsked : Wait.asked waits = retries + 1)
    (hJudged : Wait.judged waits = (reading.given settings around handler).length)
    (hRead : Wait.read (before ++ waits) = 0) :
    Begins around { shared with token := (reading.outcome settings around handler).token }
      (before ++ waits) (reading.next settings around handler retries decoder body) where
  state := h.state
  latch := h.latch
  token := rfl
  asked := by rw [Wait.asked_append, h.asked, hAsked]; rfl
  judged := by rw [Wait.judged_append, h.judged, hJudged]; rfl
  unread := hRead

/-- The end of the task, behind a body or behind an opening. -/
theorem finish_eq {reading : Reading B} (h : Begins around shared before reading)
    (token : ResumptionToken) (target : ConnectionState) :
    (.ofStreaming handler (finish { shared with token } target) : Turn M H B) =
      halted shared { state := target, token } := by
  have hLatch : shared.latch = ⟨false⟩ := by rw [← h.latch]
  simp [finish, Shared.moveIf, ConnectionState.moveIf, h.state, halted, Turn.ofStreaming,
    Step.mapPoint, Step.mapResult, hLatch]

theorem finish_trip_eq {reading : Reading B} (h : Begins around shared before reading)
    (token : ResumptionToken) (target : ConnectionState) :
    (.ofStreaming handler (finish { shared with token }.trip target) : Turn M H B) =
      halted shared { state := target, tripped := true, token } := by
  simp [finish, Shared.moveIf, ConnectionState.moveIf, Shared.trip, Latch.trip, h.state, halted,
    Turn.ofStreaming, Step.mapPoint, Step.mapResult]

/-- A stream task that is alone comes to the end of a course. -/
theorem converses_course (bound : Nat)
    (hFinite : ∀ n, bound ≤ n → ∃ error, around.answers n = .error error) {reading : Reading B}
    (h : Begins around shared before reading) :
    ∃ waits halt, Course settings around handler reading (waits.filter (!·.isItem)) halt ∧
      halt.state ≠ .connected ∧
      Converses settings around.reply before
        ⟨shared, .wait (.streaming handler (.receiving (.start reading.decoder reading.body))),
          none⟩ waits (halted shared halt) := by
  -- each further body takes one of the answers that are left
  induction hLeft : bound - reading.asked using Nat.strongRecOn
    generalizing shared before reading with
  | ind left ih =>
      obtain ⟨waits, hWaits, hConverses⟩ := decodes_body settings handler h
      cases hResult : (reading.outcome settings around handler).result with
      | ok count =>
          simp only [taking, ended, hResult, afterIntake, h.not_closed, Bool.false_eq_true,
            ite_false, finish_eq h] at hConverses
          exact ⟨waits, _, hWaits ▸ .ended hResult, ConnectionState.noConfusion, hConverses⟩
      | error error =>
          cases hWorth : settings.policy.worthRetrying error with
          | false =>
              simp only [taking, ended, hResult, hWorth, afterIntake, h.not_closed,
                Bool.false_eq_true, ite_false, finish_eq h] at hConverses
              exact ⟨waits, _, hWaits ▸ .failed hResult hWorth, ConnectionState.noConfusion,
                hConverses⟩
          | true =>
              obtain ⟨retries, answer, waits, hReopens, hWaits, hAsked, hJudged, hRead,
                hConverses⟩ := converses_reopening settings handler h hResult hWorth
              have hJudges := Opening.judges answer
              generalize Opening.judge answer = result at hConverses hJudges
              cases hJudges with
              | failed fails =>
                  simp only [afterOpening, finish_eq h] at hConverses
                  exact ⟨waits, _, hWaits ▸ .unopened hReopens fails, ConnectionState.noConfusion,
                    hConverses⟩
              | denied denies reason =>
                  simp only [afterOpening, finish_trip_eq h] at hConverses
                  exact ⟨waits, _, hWaits ▸ .denied hReopens denies, ConnectionState.noConfusion,
                    hConverses⟩
              | accepted status =>
                  simp only [afterOpening, finish_eq h] at hConverses
                  exact ⟨waits, _, hWaits ▸ .accepted hReopens status, ConnectionState.noConfusion,
                    hConverses⟩
              | @streams response decoder success status form =>
                  have hNext := h.next decoder response.body hAsked hJudged hRead
                  have hLess : bound - (reading.next settings around handler retries decoder
                      response.body).asked < left := by
                    have hBound : reading.asked + retries < bound := by
                      refine Nat.lt_of_not_le fun hLate => ?_
                      obtain ⟨reason, hError⟩ := hFinite _ hLate
                      rw [hReopens.answer] at hError
                      cases hError
                    simp only [Reading.next]
                    omega
                  obtain ⟨later, halt, hCourse, hState, hLater⟩ := ih _ hLess hNext rfl
                  refine ⟨waits ++ later, halt, ?_, hState, hConverses.trans hLater⟩
                  rw [List.filter_append, hWaits]
                  exact .goesOn hReopens success status form hCourse

end Course

end Streaming

namespace System

namespace Sample

def sequence (body : Nat) : Http.Response Nat :=
  ⟨200, [("Content-Type", "application/json-seq")], body⟩

/-- The first body breaks off behind its first message, and a second one brings the rest. -/
def around : Surroundings String Nat where
  answers
    | 0 => .ok (sequence 1)
    | _ + 1 => .error .closed
  contents
    | 0 => [.ok "one", .error (.interrupted "reset")]
    | _ + 1 => [.ok "two"]
  verdict _ _ := .ok ()
  legacy := .ok ()

def streaming : System String String Nat :=
  (run (Settings.plain false) {}
    [.call (.connect "handler"), .reply 0 (.answer (.ok (sequence 0)))]).1

end Sample

end System

end RpcTransport.Transport
