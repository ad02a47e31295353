import RpcTransport.Proofs.Completion
import RpcTransport.Proofs.Denial

namespace RpcTransport.Transport

variable {M H B : Type}

/-- An error of the body leaves the token alone. -/
theorem Intake.token_of_error {codec : Codec M} {stopped : Bool} {handler : Option H}
    {token after : ResumptionToken} {point : Intake M H B} {reply : Reply B} {error : Error}
    (h : point.resume codec stopped handler token reply = some (after, .done (.error error))) :
    after = token := by
  generalize hStep : (.done (.error error) : Step (Intake M H B) (Except Error Nat)) = step at h
  generalize hTurn : (after, step) = turn at h
  have hSnd : turn.2 = .done (.error error) := by rw [← hTurn, hStep]
  cases resumes h with
  | more accepts => cases hSnd
  | messages accepts => exact absurd hSnd (offer_ne_error _ _ _ _ _ _ _ error)
  | finished accepts => exact congrArg Prod.fst hTurn
  | accepted owner message rest id body next handled =>
      exact absurd hSnd (offer_ne_error _ _ _ _ _ _ _ error)
  | refused owner message rest id body next handled own => exact congrArg Prod.fst hTurn

/-- A send that takes in a body sends no request in the same turn. -/
theorem Sending.token_of_request {settings : Settings M} {shared : Shared H}
    {handler : Option H} {point next : Sending M H B} {reply : Reply B} {turn : Turn M H B}
    {request : Http.Request} (h : point.resume settings shared handler reply = some turn)
    (hNext : turn.step = .wait next) (hRequest : next.wait handler = .answer request) :
    turn.shared.token = shared.token := by
  cases resumes h with
  | connecting resumed =>
      rw [afterConnecting_shared]
      exact (Connecting.holds_resume resumed).token
  | failed message own error => rfl
  | answered message own response => exact (holds_afterIntake settings shared message _).token
  | receiving resumed => exact absurd hRequest (not_asking_of_afterIntake hNext)
  | forwarding inner result => rfl

/-- A stream task opens its stream again behind an error of the body alone. -/
theorem Streaming.token_of_request {settings : Settings M} {shared : Shared H}
    {handler : Option H} {point next : Streaming M H B} {reply : Reply B}
    {turn : Shared H × Step (Streaming M H B) Unit} {request : Http.Request}
    (h : point.resume settings shared handler reply = some turn)
    (hNext : turn.2 = .wait next) (hRequest : next.wait = .answer request) :
    turn.1.token = shared.token := by
  cases resumes h with
  | @receiving inner reply token step resumed =>
      rw [(holds_afterIntake settings { shared with token } step).token]
      rcases step with later | (error | count)
      · cases hNext
        cases later <;> cases hRequest
      · exact Intake.token_of_error resumed
      · simp only [afterIntake] at hNext
        split at hNext <;> cases hNext
  | reopening resumed => exact (holds_afterOpening shared _).token

/-- A turn that sends a request leaves the token alone. -/
theorem Task.token_of_request {settings : Settings M} {shared : Shared H} {task : Task M H B}
    {reply : Reply B} {turn : Turn M H B} {request : Http.Request}
    (h : task.resume settings shared reply = some turn)
    (hRequest : turn.wait? = some (.answer request)) : turn.shared.token = shared.token := by
  obtain ⟨next, hNext, hWait⟩ := Turn.wait?_eq_some.mp hRequest
  cases resumes h with
  | connecting resumed =>
      rw [Turn.ofConnecting_shared]
      exact (Connecting.holds_resume resumed).token
  | legacyConnecting handler result => rfl
  | sending resumed =>
      obtain ⟨point, hPoint, rfl⟩ := Turn.ofSending_eq_wait.mp hNext
      exact Sending.token_of_request resumed hPoint hWait
  | closing result => rfl
  | streaming resumed =>
      obtain ⟨point, hPoint, rfl⟩ := Turn.ofStreaming_eq_wait.mp hNext
      exact Streaming.token_of_request resumed hPoint hWait

/-- The transport adds one header for a token, and none without. -/
theorem Settings.headers_openRequest (settings : Settings M) (token : ResumptionToken) :
    (settings.openRequest token).headers =
      ("Accept", "application/json, text/event-stream") :: settings.config.headers ++
        (token.map ("Last-Event-ID", ·)).toList := by
  cases token <;>
    simp [openRequest, request, Http.Request.withHeader, Http.Request.withHeaders]

namespace System

/-- The last turn of a history completes a frame of messages that has the id. -/
def Completes (codec : Codec M) (history : List (Record M H B)) (id : String) : Prop :=
  ∃ record ∈ history.getLast?, Record.Completes codec (own record.id history) id

/-- The id of the frame that was completed last, if there is one. -/
def LastCompleted (codec : Codec M) (history : List (Record M H B)) : Option String → Prop
  | some id => ∃ past, past <+: history ∧ Completes codec past id ∧
      ∀ longer other, longer <+: history → Completes codec longer other →
        longer.length ≤ past.length
  | none => ∀ past id, past <+: history → ¬Completes codec past id

section LastCompleted

variable {codec : Codec M} {history : List (Record M H B)} {record : Record M H B}

theorem completes_concat {id : String} :
    Completes codec (history ++ [record]) id ↔
      Record.Completes codec (own record.id (history ++ [record])) id := by
  simp [Completes]

theorem Completes.unique {id other : String} (h : Completes codec history id)
    (h' : Completes codec history other) : id = other := by
  obtain ⟨record, hLast, hCompletes⟩ := h
  obtain ⟨record', hLast', hCompletes'⟩ := h'
  cases Option.mem_unique hLast hLast'
  exact hCompletes.unique hCompletes'

/-- No two ids are the last one. -/
theorem LastCompleted.unique {last other : Option String} (h : LastCompleted codec history last)
    (h' : LastCompleted codec history other) : last = other := by
  cases last with
  | none =>
      cases other with
      | none => rfl
      | some other =>
          obtain ⟨past, hPrefix, hCompletes, _⟩ := h'
          exact absurd hCompletes (h past other hPrefix)
  | some id =>
      obtain ⟨past, hPrefix, hCompletes, hLongest⟩ := h
      cases other with
      | none => exact absurd hCompletes (h' past id hPrefix)
      | some other =>
          obtain ⟨past', hPrefix', hCompletes', hLongest'⟩ := h'
          have hLength := Nat.le_antisymm (hLongest' past id hPrefix hCompletes)
            (hLongest past' other hPrefix' hCompletes')
          have hSame := (List.prefix_of_prefix_length_le hPrefix hPrefix' hLength.le).eq_of_length
            hLength
          subst hSame
          rw [hCompletes.unique hCompletes']

/-- What a turn makes of the token, it makes of the frame that was completed last. -/
theorem LastCompleted.concat {before after : ResumptionToken}
    (h : LastCompleted codec history before)
    (hSettles : Record.Settles codec (own record.id (history ++ [record])) before after) :
    LastCompleted codec (history ++ [record]) after := by
  rcases hSettles with ⟨id, hCompletes, rfl⟩ | ⟨hNone, rfl⟩
  · exact ⟨history ++ [record], List.prefix_rfl, completes_concat.mpr hCompletes,
      fun longer other hLonger _ => hLonger.length_le⟩
  · have hOld : ∀ longer other, longer <+: history ++ [record] → Completes codec longer other →
        longer <+: history := by
      intro longer other hLonger hCompletes
      rcases List.prefix_concat_iff.mp hLonger with rfl | hPrefix
      · exact absurd (completes_concat.mp hCompletes) (hNone other)
      · exact hPrefix
    cases after with
    | none =>
        intro past id hPast hCompletes
        exact h past id (hOld past id hPast hCompletes) hCompletes
    | some id =>
        obtain ⟨past, hPast, hCompletes, hLongest⟩ := h
        refine ⟨past, hPast.trans (List.prefix_append _ _), hCompletes, ?_⟩
        intro longer other hLonger hOther
        exact hLongest longer other (hOld longer other hLonger hOther) hOther

end LastCompleted

/-- The tasks and the token are what the records show of them. -/
structure Recounts (settings : Settings M) (system : System M H B)
    (history : List (Record M H B)) : Prop where
  tasks : ∀ entry ∈ system.tasks, entry.2.Shown settings.codec (own entry.1 history)
  token : LastCompleted settings.codec history system.shared.token

namespace Recounts

variable {settings : Settings M} {system : System M H B} {history : List (Record M H B)}
  {action : Action M H B} {record : Record M H B}

theorem start (settings : Settings M) : ({} : System M H B).Recounts settings [] := by
  constructor
  · intro entry hEntry
    cases hEntry
  · intro past id hPast hCompletes
    obtain ⟨record, hLast, _⟩ := hCompletes
    rw [List.prefix_nil.mp hPast] at hLast
    cases hLast

/-- A turn moves the token by the frame that it completes. -/
theorem settles (h : system.Recounts settings history)
    (hChronicle : system.Chronicle settings history)
    (hRecord : system.record? settings action = some record) :
    Record.Settles settings.codec (own record.id (history ++ [record])) system.shared.token
        record.turn.shared.token ∧
      ∀ next, record.turn.step = .wait next →
        next.Shown settings.codec (own record.id (history ++ [record])) := by
  have hSelf : own record.id [record] = [record] := by simp [own]
  rw [own_append, hSelf]
  obtain ⟨hBefore, ⟨call, _, hId, hOrigin, hTurn⟩ | ⟨task, reply, _, hTask, hOrigin, hTurn⟩⟩ :=
    record_cases hRecord
  · have hFresh : own record.id history = [] := by
      apply own_eq_nil
      intro old hOld
      rw [hId]
      exact Nat.ne_of_lt (hChronicle.numbered old hOld)
    rw [hFresh, List.nil_append, hTurn, (call.holds_start settings system.shared).token]
    exact ⟨Record.settles_began hOrigin _, fun next => Task.shown_begin⟩
  · rw [← hBefore] at hTurn ⊢
    have hMem := hChronicle.wellFormed.task?_eq_some.mp hTask
    exact Task.settles_resume hOrigin (h.tasks _ hMem) hTurn

theorem step (h : system.Recounts settings history)
    (hChronicle : system.Chronicle settings history) (action : Action M H B) :
    (system.step settings action).1.Recounts settings
      (history ++ (system.record? settings action).toList) := by
  cases hRecord : system.record? settings action with
  | none =>
      rw [step_of_no_record hRecord, Option.toList_none, List.append_nil]
      exact h
  | some record =>
      obtain ⟨hSettles, hNext⟩ := h.settles hChronicle hRecord
      have hOther : ∀ id, id ≠ record.id → own id [record] = [] := fun id hNe =>
        own_eq_nil (by simpa using Ne.symm hNe)
      rw [Option.toList_some]
      refine ⟨?_, ?_⟩
      · rintro ⟨id, task⟩ hEntry
        rw [step_of_record hRecord] at hEntry
        rcases WellFormed.mem_of_mem_settle hEntry with hReplaced | ⟨rfl, hSpawned⟩
        · rcases WellFormed.mem_replace.mp hReplaced with ⟨hOld, hNe⟩ | ⟨rfl, hStep⟩
          · rw [enroll_tasks] at hOld
            rw [own_append, hOther id hNe, List.append_nil]
            exact h.tasks _ hOld
          · exact hNext task hStep
        · -- A stream task is new, so it has no records yet.
          obtain ⟨⟨owner, decoder, body⟩, _, rfl⟩ := Option.map_eq_some_iff.mp hSpawned
          have hFresh : own (system.enroll action).next (history ++ [record]) = [] := by
            apply own_eq_nil
            intro old hOld
            rcases List.mem_append.mp hOld with hPast | hNew
            · exact Nat.ne_of_lt (Nat.lt_of_lt_of_le (hChronicle.numbered old hPast)
                (le_enroll_next system action))
            · rw [List.mem_singleton.mp hNew]
              exact Nat.ne_of_lt (hChronicle.wellFormed.numbered_of_record hRecord)
          exact Intake.shown_start settings.codec owner decoder body (by rw [hFresh]; rfl)
      · rw [step_token hRecord]
        exact h.token.concat hSettles

end Recounts

/-- In every run the token is the id of the frame that was completed last. -/
theorem recounts_run (settings : Settings M) (actions : List (Action M H B)) :
    (run settings {} actions).1.Recounts settings (history settings {} actions) :=
  (run_induction settings
    (motive := fun system past => system.Chronicle settings past ∧ system.Recounts settings past)
    ⟨⟨wellFormed_start, by simp, by simp⟩, .start settings⟩
    (fun _ _ action h => ⟨h.1.step action, h.2.step h.1 action⟩) actions).2

/-- A turn in the middle of a history comes from an action behind those of the turns before. -/
theorem record_of_history {settings : Settings M} {system : System M H B}
    {actions : List (Action M H B)} {past later : List (Record M H B)} {record : Record M H B}
    (h : system.history settings actions = past ++ record :: later) :
    ∃ before action after, actions = before ++ action :: after ∧
      system.history settings before = past ∧
      (system.run settings before).1.record? settings action = some record := by
  induction actions generalizing system past with
  | nil => simp [history] at h
  | cons action actions ih =>
      cases hRecord : system.record? settings action with
      | none =>
          simp only [history, hRecord, Option.toList_none, List.nil_append] at h
          obtain ⟨before, next, after, rfl, hPast, hNext⟩ := ih h
          exact ⟨action :: before, next, after, rfl, by simp [history, hRecord, hPast], hNext⟩
      | some first =>
          simp only [history, hRecord, Option.toList_some, List.singleton_append] at h
          cases past with
          | nil =>
              cases h
              exact ⟨[], action, actions, rfl, rfl, hRecord⟩
          | cons _ past =>
              obtain ⟨rfl, hLater⟩ := List.cons.inj h
              obtain ⟨before, next, after, rfl, hPast, hNext⟩ := ih hLater
              exact ⟨action :: before, next, after, rfl, by simp [history, hRecord, hPast], hNext⟩

theorem token_of_request {settings : Settings M} {system : System M H B}
    {action : Action M H B} {record : Record M H B} {request : Http.Request}
    (h : system.record? settings action = some record)
    (hRequest : record.turn.wait? = some (.answer request)) :
    record.turn.shared.token = system.shared.token := by
  obtain ⟨_, ⟨call, _, _, _, hTurn⟩ | ⟨task, reply, _, _, _, hTurn⟩⟩ := record_cases h
  · rw [hTurn]
    exact (call.holds_start settings system.shared).token
  · exact Task.token_of_request hTurn hRequest

/-- A frame that was completed stays so, whatever comes after. -/
theorem LastCompleted.isSome_mono {codec : Codec M} {history longer : List (Record M H B)}
    {last other : Option String} (hPrefix : history <+: longer)
    (h : LastCompleted codec history last) (h' : LastCompleted codec longer other)
    (hSome : last.isSome = true) : other.isSome = true := by
  cases last with
  | none => cases hSome
  | some id =>
      obtain ⟨past, hPast, hCompletes, _⟩ := h
      cases other with
      | none => exact absurd hCompletes (h' past id (hPast.trans hPrefix))
      | some other => rfl

/-- In every run a request for a stream has the headers that are configured, and behind
them one with the id of the frame that was completed last, over all bodies; without such a
frame it has none. A token that is set is never cleared. -/
theorem last_event_id_of_get (settings : Settings M) (actions : List (Action M H B)) :
    (∀ past record later request,
      history settings {} actions = past ++ record :: later →
      record.turn.wait? = some (.answer request) → request.method = .get →
      ∃ last, (∀ other, LastCompleted settings.codec past other ↔ other = last) ∧
        request.headers = ("Accept", "application/json, text/event-stream") ::
          settings.config.headers ++ (last.map ("Last-Event-ID", ·)).toList) ∧
    ∀ earlier, earlier <+: actions → (run settings {} earlier).1.shared.token.isSome = true →
      (run settings {} actions).1.shared.token.isSome = true := by
  refine ⟨?_, ?_⟩
  · intro past record later request hHistory hRequest hGet
    obtain ⟨before, action, after, rfl, rfl, hRecord⟩ := record_of_history hHistory
    have hLast := (recounts_run settings before).token
    refine ⟨(run settings {} before).1.shared.token, ?_, ?_⟩
    · intro other
      exact ⟨fun hOther => hOther.unique hLast, fun hEq => hEq ▸ hLast⟩
    · rw [(permits_of_record hRecord hRequest).get hGet, token_of_request hRecord hRequest]
      exact settings.headers_openRequest _
  · rintro earlier ⟨later, rfl⟩ hSome
    have hPrefix : history settings {} earlier <+: history settings {} (earlier ++ later) := by
      rw [history_append]
      exact List.prefix_append _ _
    exact (recounts_run settings earlier).token.isSome_mono hPrefix
      (recounts_run settings (earlier ++ later)).token hSome

namespace Sample

/-- The first stream breaks off behind its first line, and the second one brings a frame. -/
def actions : List (Action String String Nat) :=
  [.call (.connect "handler"), .reply 0 (.answer (.ok (response 0))),
    .reply 1 (.item (some (.ok "event: message"))),
    .reply 1 (.item (some (.error (.interrupted "cut")))),
    .reply 1 (.answer (.ok (response 1)))] ++
  ["event: message", "data: \x7b\x7d", "id: 1", ""].map
    (fun line => .reply 1 (.item (some (.ok line)))) ++
  [.reply 1 (.verdict (.ok ()))]

/-- The stream breaks off again, behind its frame. -/
def cut : List (Action String String Nat) :=
  actions ++ [.reply 1 (.item (some (.error (.interrupted "cut"))))]

theorem split_cut :
    let records := history (Settings.plain false) {} cut
    ∃ h : 10 < records.length, records = records.take 10 ++ records[10] :: records.drop 11 ∧
      records[10].turn.wait? = some (.answer ((Settings.plain false).openRequest "1")) := by
  refine ⟨by decide +kernel, ?_, by decide +kernel⟩
  rw [List.getElem_cons_drop, List.take_append_drop]

end Sample

/-- The request behind the second cut names the frame that was handed over before. -/
theorem last_event_id_of_get_after_cut :
    ∃ past record later request,
      history (Settings.plain false) {} Sample.cut = past ++ record :: later ∧
      record.turn.wait? = some (.answer request) ∧ request.method = .get ∧
      request.headers =
        [("Accept", "application/json, text/event-stream"), ("Last-Event-ID", "1")] ∧
      LastCompleted (Settings.plain false).codec past (some "1") ∧
      (run (Settings.plain false) {} Sample.cut).1.shared.token.isSome = true := by
  obtain ⟨hLength, hSplit, hWait⟩ := Sample.split_cut
  obtain ⟨hRequests, hKept⟩ := last_event_id_of_get (Settings.plain false) Sample.cut
  obtain ⟨last, hLast, hHeaders⟩ := hRequests _ _ _ _ hSplit hWait rfl
  refine ⟨_, _, _, _, hSplit, hWait, rfl, rfl, ?_, ?_⟩
  · rw [Settings.headers_openRequest] at hHeaders
    rw [hLast]
    cases last with
    | none => simp at hHeaders
    | some id => simpa using hHeaders
  · exact hKept Sample.actions (List.prefix_append _ _) (by decide +kernel)

end System

end RpcTransport.Transport
