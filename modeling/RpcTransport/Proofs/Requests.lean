import RpcTransport.Proofs.Turn

/-! When a turn sends a request. -/
namespace RpcTransport.Transport

variable {M H B : Type}

namespace Settings

@[simp] theorem openRequest_method (settings : Settings M) (token : ResumptionToken) :
    (settings.openRequest token).method = .get := by
  cases token <;> rfl

@[simp] theorem postRequest_method (settings : Settings M) (body : String) :
    (settings.postRequest body).method = .post :=
  rfl

/-- The request posts the message: the encoded message as JSON, with the headers that all
requests have. -/
structure Posts (settings : Settings M) (message : M) (request : Http.Request) : Prop where
  method : request.method = .post
  url : request.url = settings.config.url
  headers : request.headers =
    ("Accept", "application/json, text/event-stream") :: settings.config.headers ++
      [("Content-Type", "application/json")]
  body : ∃ body, settings.codec.encode message = .ok body ∧ request.body = some body

theorem posts_postRequest {settings : Settings M} {message : M} {body : String}
    (h : settings.codec.encode message = .ok body) :
    settings.Posts message (settings.postRequest body) where
  method := rfl
  url := rfl
  headers := by
    simp [postRequest, request, Http.Request.withHeader, Http.Request.withHeaders,
      Http.Request.withBody]
  body := ⟨body, h, rfl⟩

end Settings

namespace Shared

/-- Requests may be sent. -/
def IsOpen (shared : Shared H) : Prop :=
  shared.latch.tripped = false ∧ shared.isClosed = false

theorem isClosed_eq_true {shared : Shared H} :
    shared.isClosed = true ↔ shared.state = .closed :=
  decide_eq_true_iff

/-- Requests that may be sent now could be sent at any time before. -/
theorem Leads.isOpen {before after : Shared H} (h : before.Leads after) (hOpen : after.IsOpen) :
    before.IsOpen := by
  refine ⟨Bool.eq_false_iff.mpr ?_, Bool.eq_false_iff.mpr ?_⟩
  · intro hTripped
    have hLater := h.latch hTripped
    simp [hOpen.1] at hLater
  · intro hClosed
    have hLater := isClosed_eq_true.mpr (h.closed (isClosed_eq_true.mp hClosed))
    simp [hOpen.2] at hLater

/-- The request may be sent to open the stream of the server. -/
structure Opens (settings : Settings M) (shared : Shared H) (request : Http.Request) : Prop where
  isOpen : shared.IsOpen
  request : request = settings.openRequest shared.token

/-- The request may be sent. -/
structure Permits (settings : Settings M) (shared : Shared H) (request : Http.Request) :
    Prop where
  isOpen : shared.IsOpen
  get : request.method = .get → request = settings.openRequest shared.token

theorem Opens.get {settings : Settings M} {shared : Shared H} {request : Http.Request}
    (h : shared.Opens settings request) : request.method = .get := by
  rw [h.request, settings.openRequest_method]

theorem Opens.permits {settings : Settings M} {shared : Shared H} {request : Http.Request}
    (h : shared.Opens settings request) : shared.Permits settings request :=
  ⟨h.isOpen, fun _ => h.request⟩

end Shared

namespace Opening

theorem settle_not_requesting {settings : Settings M} {retry : Nat}
    {result : Except Error (Opened B)} {point : Opening} {request : Http.Request}
    (h : settle settings retry result = .wait point) :
    (point.wait : Wait M H B) ≠ .answer request := by
  unfold settle at h
  split at h
  · cases h
  · split at h
    · cases h
      simp [wait]
    · cases h

theorem opens_of_attempt {settings : Settings M} {shared : Shared H} {retry : Nat}
    {point : Opening} {request : Http.Request}
    (h : (attempt settings shared retry : Step Opening (Except Error (Opened B))) = .wait point)
    (hRequest : (point.wait : Wait M H B) = .answer request) : shared.Opens settings request := by
  unfold attempt at h
  split at h
  · exact absurd hRequest (settle_not_requesting h)
  · rename_i hClosed
    split at h
    · cases h
    · rename_i hTripped
      cases h
      cases hRequest
      exact ⟨⟨by simpa using hTripped, by simpa using hClosed⟩, rfl⟩

theorem opens_of_resume {settings : Settings M} {shared : Shared H} {point next : Opening}
    {reply : Reply B} {request : Http.Request}
    (h : point.resume settings shared reply = some (.wait next))
    (hRequest : (next.wait : Wait M H B) = .answer request) : shared.Opens settings request := by
  generalize hStep : (Step.wait next : Step Opening (Except Error (Opened B))) = step at h
  cases resumes h with
  | answered retry own answer => exact absurd hRequest (settle_not_requesting hStep.symm)
  | elapsed retry delay => exact opens_of_attempt hStep.symm hRequest

end Opening

namespace Connecting

theorem wait_of_afterOpening {settings : Settings M} {shared : Shared H}
    {step : Step Opening (Except Error (Opened B))} {point : Connecting}
    (h : (afterOpening settings shared step).2 = .wait point) :
    (∃ next, step = .wait next ∧ point = .opening next ∧
        afterOpening settings shared step = (shared, .wait point)) ∨
      (point = .legacy ∧ afterOpening settings shared step = (shared.trip, .wait point)) := by
  rcases step with next | (error | (⟨decoder, body⟩ | _ | reason))
  · cases h
    exact Or.inl ⟨next, rfl, rfl, rfl⟩
  · cases h
  · simp only [afterOpening] at h
    split at h <;> cases h
  · cases h
  · simp only [afterOpening] at h ⊢
    split at h
    · rename_i hLegacy
      cases h
      exact Or.inr ⟨rfl, by simp [hLegacy]⟩
    · cases h

/-- A connect sequence asks only while the attempt that it waits for may. -/
theorem opens_of_afterOpening {settings : Settings M} {shared : Shared H}
    {step : Step Opening (Except Error (Opened B))} {point : Connecting} {handler : Option H}
    {request : Http.Request}
    (hStep : ∀ next, step = .wait next →
      (next.wait : Wait M H B) = .answer request → shared.Opens settings request)
    (h : (afterOpening settings shared step).2 = .wait point)
    (hRequest : (point.wait handler : Wait M H B) = .answer request) :
    (afterOpening settings shared step).1.Opens settings request := by
  rcases wait_of_afterOpening h with ⟨next, hNext, rfl, hTurn⟩ | ⟨rfl, hTurn⟩
  · rw [hTurn]
    exact hStep next hNext hRequest
  · cases hRequest

theorem opens_of_start {settings : Settings M} {shared : Shared H} {handler : Option H}
    {point : Connecting} {request : Http.Request}
    (h : (start settings shared handler : Shared H × Step Connecting (Connected B)).2 = .wait point)
    (hRequest : (point.wait handler : Wait M H B) = .answer request) :
    (start settings shared handler : Shared H × Step Connecting (Connected B)).1.Opens
      settings request :=
  opens_of_afterOpening (fun _ hNext => Opening.opens_of_attempt hNext) h hRequest

theorem opens_of_resume {settings : Settings M} {shared : Shared H} {point next : Connecting}
    {reply : Reply B} {turn : Shared H × Step Connecting (Connected B)} {handler : Option H}
    {request : Http.Request} (h : point.resume settings shared reply = some turn)
    (hNext : turn.2 = .wait next)
    (hRequest : (next.wait handler : Wait M H B) = .answer request) :
    turn.1.Opens settings request := by
  cases resumes h with
  | opening resumed =>
      refine opens_of_afterOpening ?_ hNext hRequest
      intro point hPoint
      subst hPoint
      exact Opening.opens_of_resume resumed
  | legacy result => cases hNext

end Connecting

namespace Sending

theorem forwarding_of_forward {settings : Settings M} {message : M} {point : Sending M H B}
    (h : forward settings message = .wait point) : ∃ next, point = .forwarding next := by
  obtain ⟨next, _, rfl⟩ := Step.mapPoint_eq_wait.mp h
  exact ⟨next, rfl⟩

theorem posting_of_post {settings : Settings M} {message : M} {point : Sending M H B}
    (h : post settings message = .wait point) :
    ∃ body, settings.codec.encode message = .ok body ∧
      point = .posting message (settings.postRequest body) := by
  unfold post at h
  split at h
  · rename_i body hBody
    cases h
    exact ⟨body, hBody, rfl⟩
  · cases h

theorem permits_of_post {settings : Settings M} {shared : Shared H} {message : M}
    {point : Sending M H B} {handler : Option H} {request : Http.Request}
    (hOpen : shared.IsOpen) (h : post settings message = .wait point)
    (hRequest : point.wait handler = .answer request) : shared.Permits settings request := by
  obtain ⟨body, _, rfl⟩ := posting_of_post h
  cases hRequest
  exact ⟨hOpen, nofun⟩

/-- Where a send waits that has connected: still for the connect sequence, for the legacy
transport, or for the answer to its message, which it posts only while it may. -/
theorem wait_of_afterConnecting {settings : Settings M} {message : M}
    {turn : Shared H × Step Connecting (Connected B)} {point : Sending M H B}
    (h : (afterConnecting settings message turn).step = .wait point) :
    (∃ next, turn.2 = .wait next ∧ point = .connecting message next) ∨
      (∃ next, point = .forwarding next) ∨
      (turn.1.IsOpen ∧ post settings message = .wait point) := by
  rcases turn with ⟨shared, next | connected⟩
  · cases h
    exact Or.inl ⟨next, rfl, rfl⟩
  · simp only [afterConnecting] at h
    split at h
    · cases h
    · split at h
      · exact Or.inr (Or.inl (forwarding_of_forward h))
      · rename_i hLatch
        split at h
        · cases h
        · rename_i hClosed
          exact Or.inr (Or.inr ⟨⟨by simpa using hLatch, by simpa using hClosed⟩, h⟩)

theorem permits_of_afterConnecting {settings : Settings M} {message : M}
    {turn : Shared H × Step Connecting (Connected B)} {point : Sending M H B}
    {handler : Option H} {request : Http.Request}
    (hTurn : ∀ next, turn.2 = .wait next →
      (next.wait handler : Wait M H B) = .answer request → turn.1.Opens settings request)
    (h : (afterConnecting settings message turn).step = .wait point)
    (hRequest : point.wait handler = .answer request) : turn.1.Permits settings request := by
  rcases wait_of_afterConnecting h with ⟨next, hNext, rfl⟩ | ⟨next, rfl⟩ | ⟨hOpen, hPost⟩
  · exact (hTurn next hNext hRequest).permits
  · cases hRequest
  · exact permits_of_post hOpen hPost hRequest

theorem permits_of_start {settings : Settings M} {shared : Shared H} {handler : Option H}
    {message : M} {point : Sending M H B} {request : Http.Request}
    (h : (start settings shared handler message : Turn M H B).step = .wait point)
    (hRequest : point.wait handler = .answer request) :
    (start settings shared handler message : Turn M H B).shared.Permits settings request := by
  cases hLatch : shared.latch.tripped with
  | true =>
      simp only [start, hLatch, ite_true] at h
      obtain ⟨next, rfl⟩ := forwarding_of_forward h
      cases hRequest
  | false =>
      cases hState : shared.state with
      | closed =>
          simp [start, hLatch, hState] at h
      | disconnected =>
          cases hConnect : settings.config.connectOnSend with
          | true =>
              simp only [start, hLatch, hState, hConnect, ite_true, Bool.false_eq_true,
                ite_false, afterConnecting_shared] at h ⊢
              exact permits_of_afterConnecting (fun _ hNext => Connecting.opens_of_start hNext)
                h hRequest
          | false =>
              simp only [start, hLatch, hState, hConnect, Bool.false_eq_true, ite_false] at h ⊢
              exact permits_of_post ⟨hLatch, by simp [Shared.isClosed, hState]⟩ h hRequest
      | connecting =>
          simp only [start, hLatch, hState, Bool.false_eq_true, ite_false] at h ⊢
          exact permits_of_post ⟨hLatch, by simp [Shared.isClosed, hState]⟩ h hRequest
      | connected =>
          simp only [start, hLatch, hState, Bool.false_eq_true, ite_false] at h ⊢
          exact permits_of_post ⟨hLatch, by simp [Shared.isClosed, hState]⟩ h hRequest

/-- Where a send waits that takes in its reply: for more of it, or for the legacy transport. -/
theorem wait_of_afterIntake {settings : Settings M} {shared : Shared H} {message : M}
    {step : Step (Intake M H B) (Except Error Nat)} {point : Sending M H B}
    (h : (afterIntake settings shared message step).step = .wait point) :
    (∃ next, point = .receiving message next) ∨ ∃ next, point = .forwarding next := by
  rcases step with next | (error | count)
  · cases h
    exact Or.inl ⟨next, rfl⟩
  · simp only [afterIntake] at h
    split at h
    · exact Or.inr (forwarding_of_forward h)
    · cases h
  · cases h

theorem not_asking_of_afterIntake {settings : Settings M} {shared : Shared H} {message : M}
    {step : Step (Intake M H B) (Except Error Nat)} {point : Sending M H B}
    {handler : Option H} {request : Http.Request}
    (h : (afterIntake settings shared message step).step = .wait point) :
    point.wait handler ≠ .answer request := by
  rcases wait_of_afterIntake h with ⟨next, rfl⟩ | ⟨next, rfl⟩
  · cases next <;> simp [wait, Intake.wait]
  · simp [wait, Forwarding.wait]

theorem permits_of_resume {settings : Settings M} {shared : Shared H} {handler : Option H}
    {point next : Sending M H B} {reply : Reply B} {turn : Turn M H B} {request : Http.Request}
    (h : point.resume settings shared handler reply = some turn)
    (hNext : turn.step = .wait next) (hRequest : next.wait handler = .answer request) :
    turn.shared.Permits settings request := by
  cases resumes h with
  | connecting resumed =>
      rw [afterConnecting_shared]
      exact permits_of_afterConnecting
        (fun _ hPoint => Connecting.opens_of_resume resumed hPoint) hNext hRequest
  | failed message own error => cases hNext
  | answered message own response =>
      exact absurd hRequest (not_asking_of_afterIntake hNext)
  | receiving resumed => exact absurd hRequest (not_asking_of_afterIntake hNext)
  | forwarding inner result =>
      obtain ⟨later, _, rfl⟩ := Step.mapPoint_eq_wait.mp hNext
      cases hRequest

end Sending

namespace Streaming

theorem opens_of_afterOpening {shared : Shared H} {step : Step Opening (Except Error (Opened B))}
    {point : Streaming M H B} {request : Http.Request}
    (hStep : ∀ next, step = .wait next →
      (next.wait : Wait M H B) = .answer request → shared.Opens settings request)
    (h : (afterOpening shared step).2 = .wait point)
    (hRequest : point.wait = .answer request) :
    (afterOpening shared step : Shared H × Step (Streaming M H B) Unit).1.Opens
      settings request := by
  rcases step with next | (error | (⟨decoder, body⟩ | _ | reason))
  · cases h
    exact hStep next rfl hRequest
  · cases h
  · cases h
    cases hRequest
  · cases h
  · cases h

theorem opens_of_afterIntake {settings : Settings M} {shared : Shared H}
    {step : Step (Intake M H B) (Except Error Nat)} {point : Streaming M H B}
    {request : Http.Request} (h : (afterIntake settings shared step).2 = .wait point)
    (hRequest : point.wait = .answer request) :
    (afterIntake settings shared step).1.Opens settings request := by
  unfold afterIntake at h ⊢
  split at h
  · cases h
    rename_i next
    cases next <;> cases hRequest
  · split at h
    · cases h
    · rename_i hClosed
      split at h
      · cases h
      · split at h
        · rename_i hRetry
          simp only [hClosed, hRetry, ite_true]
          exact opens_of_afterOpening (fun _ hNext => Opening.opens_of_attempt hNext) h hRequest
        · cases h

theorem opens_of_resume {settings : Settings M} {shared : Shared H} {handler : Option H}
    {point next : Streaming M H B} {reply : Reply B}
    {turn : Shared H × Step (Streaming M H B) Unit} {request : Http.Request}
    (h : point.resume settings shared handler reply = some turn)
    (hNext : turn.2 = .wait next) (hRequest : next.wait = .answer request) :
    turn.1.Opens settings request := by
  cases resumes h with
  | receiving resumed => exact opens_of_afterIntake hNext hRequest
  | reopening resumed =>
      refine opens_of_afterOpening ?_ hNext hRequest
      intro point hPoint
      subst hPoint
      exact Opening.opens_of_resume resumed

end Streaming

theorem Call.permits_of_start {settings : Settings M} {shared : Shared H} {call : Call M H}
    {request : Http.Request}
    (h : (call.start settings shared : Turn M H B).wait? = some (.answer request)) :
    (call.start settings shared : Turn M H B).shared.Permits settings request := by
  obtain ⟨task, hTask, hRequest⟩ := Turn.wait?_eq_some.mp h
  have hStarts := call.starts (B := B) settings shared
  generalize call.start settings shared = turn at hStarts hTask
  cases hStarts with
  | legacyConnecting handler tripped =>
      cases hTask
      cases hRequest
  | refused handler error => cases hTask
  | connecting handler untripped idle =>
      obtain ⟨point, hPoint, rfl⟩ := Turn.ofConnecting_eq_wait.mp hTask
      rw [Turn.ofConnecting_shared]
      exact (Connecting.opens_of_start hPoint hRequest).permits
  | sending sends =>
      obtain ⟨point, hPoint, rfl⟩ := Turn.ofSending_eq_wait.mp hTask
      exact Sending.permits_of_start hPoint hRequest
  | closing =>
      cases hTask
      cases hRequest
  | closed => cases hTask

theorem Task.permits_of_resume {settings : Settings M} {shared : Shared H} {task : Task M H B}
    {reply : Reply B} {turn : Turn M H B} {request : Http.Request}
    (h : task.resume settings shared reply = some turn)
    (hRequest : turn.wait? = some (.answer request)) : turn.shared.Permits settings request := by
  obtain ⟨next, hNext, hWait⟩ := Turn.wait?_eq_some.mp hRequest
  cases resumes h with
  | connecting resumed =>
      obtain ⟨point, hPoint, rfl⟩ := Turn.ofConnecting_eq_wait.mp hNext
      rw [Turn.ofConnecting_shared]
      exact (Connecting.opens_of_resume resumed hPoint hWait).permits
  | legacyConnecting handler result => cases hNext
  | sending resumed =>
      obtain ⟨point, hPoint, rfl⟩ := Turn.ofSending_eq_wait.mp hNext
      exact Sending.permits_of_resume resumed hPoint hWait
  | closing result => cases hNext
  | streaming resumed =>
      obtain ⟨point, hPoint, rfl⟩ := Turn.ofStreaming_eq_wait.mp hNext
      exact (Streaming.opens_of_resume resumed hPoint hWait).permits

/-- A request follows no close and no tripped latch. -/
theorem System.permits_of_record {settings : Settings M} {system : System M H B}
    {action : Action M H B} {record : Record M H B} {request : Http.Request}
    (h : system.record? settings action = some record)
    (hRequest : record.turn.wait? = some (.answer request)) :
    record.turn.shared.Permits settings request := by
  obtain ⟨_, ⟨call, _, _, _, hTurn⟩ | ⟨task, reply, _, _, _, hTurn⟩⟩ := record_cases h
  · rw [hTurn] at hRequest ⊢
    exact Call.permits_of_start hRequest
  · exact Task.permits_of_resume hTurn hRequest

end RpcTransport.Transport
