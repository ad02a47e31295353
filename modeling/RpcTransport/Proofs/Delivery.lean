import RpcTransport.Proofs.Batches
import RpcTransport.Proofs.Intake
import RpcTransport.Proofs.Requests

/-! A send that succeeds has delivered its message. -/
namespace RpcTransport.Transport

variable {M H B : Type}

/-- A response that can be taken in: status 202, or a success whose content type names
the form of the body. -/
def Readable (response : Http.Response B) : Prop :=
  response.status = 202 ∨ response.isSuccess = true ∧
    ∃ decoder, Decoder.ofContentType? (response.contentType?.getD "") = some decoder

theorem Readable.of_select {response : Http.Response B} {decoder : Option Decoder}
    (h : Decoder.select response = .ok decoder) : Readable response := by
  unfold Decoder.select at h
  split at h
  · rename_i hAccepted
    exact .inl hAccepted
  · split at h
    · cases h
    · rename_i hSuccess
      simp only at h
      split at h
      · rename_i named hNamed
        exact .inr ⟨by simpa using hSuccess, named, hNamed⟩
      · cases h

/-- A response that was taken in without an error is readable. -/
theorem Readable.of_takes {codec : Codec M} {handler : Option H} {response : Http.Response B}
    {intake : List (Exchange M H B)} {count : Nat}
    (h : Intake.Takes codec handler response intake (.done (.ok count))) :
    Readable response := by
  cases hSelect : Decoder.select response with
  | ok decoder => exact .of_select hSelect
  | error error =>
      have hSame : Decoder.select (⟨response.status, response.headers, Exchange.items intake⟩ :
          Http.Response (List BodyItem)) = .error error := hSelect
      simp [Intake.Takes, Decoder.dispatch, hSame] at h

/-- The message was posted, and taking in the response came to the result. -/
def Answered (settings : Settings M) (handler : Option H) (message : M) (request : Http.Request)
    (response : Http.Response B) (delivery : List (Exchange M H B))
    (result : Except Error Nat) : Prop :=
  settings.Posts message request ∧ ∃ intake,
    delivery = (.answer request, .answer (.ok response)) :: intake ∧
    Intake.Takes settings.codec handler response intake (.done result)

/-- The same delivery does not come to two results. -/
theorem Answered.unique {settings : Settings M} {handler : Option H} {message : M}
    {request other : Http.Request} {response response' : Http.Response B}
    {delivery : List (Exchange M H B)} {result result' : Except Error Nat}
    (h : Answered settings handler message request response delivery result)
    (h' : Answered settings handler message other response' delivery result') :
    result = result' := by
  obtain ⟨_, intake, rfl, hTakes, _⟩ := h
  obtain ⟨_, intake', hDelivery, hTakes', _⟩ := h'
  cases hDelivery
  exact hTakes.symm.trans hTakes'

/-- What left before the items: nothing, or the message itself, in a post whose
response asked for the legacy transport. -/
inductive Prelude (settings : Settings M) (handler : Option H) (message : M) :
    List (Wait M H B) → List (Exchange M H B) → Prop where
  | nothing : Prelude settings handler message [] []
  | denied {request : Http.Request} {response : Http.Response B}
      {delivery : List (Exchange M H B)} {error : Error}
      (answered : Answered settings handler message request response delivery (.error error))
      (denies : error.deniesEndpoint = true) :
      Prelude settings handler message [.answer request] delivery

theorem Prelude.length_le {settings : Settings M} {handler : Option H} {message : M}
    {first : List (Wait M H B)} {delivery : List (Exchange M H B)}
    (h : Prelude settings handler message first delivery) : first.length ≤ 1 := by
  cases h with
  | nothing => exact Nat.zero_le 1
  | denied answered denies => exact Nat.le_refl 1

/-- How a message was delivered. -/
inductive Way where
  | dropped
  | posted
  | forwarded
  deriving DecidableEq, Repr

/-- What the records of a send show when the message was delivered in that way. A
batch without items is forwarded without anything that leaves, so a tripped latch
counts as forwarding only with the choice that led there. -/
def Way.Delivers (settings : Settings M) (handler : Option H) (message : M) (shared : Shared H)
    (records : List (Record M H B)) : Way → Prop
  | .dropped =>
    Record.sent records = [] ∧ shared.state = .closed ∧ shared.latch.tripped = false
  | .posted => ∃ request response count, Record.sent records = [.answer request] ∧
    Readable response ∧
    Answered settings handler message request response (Record.delivery records) (.ok count)
  | .forwarded => shared.latch.tripped = true ∧ settings.hasLegacy = true ∧ ∃ first,
      Prelude settings handler message first (Record.delivery records) ∧
      Record.sent records = first ++ (settings.codec.itemsOf message).map .legacySend ∧
      Exchange.legacyReplies (Record.exchanges records) =
        (settings.codec.itemsOf message).map fun _ => .ok ()

/-- A connect sequence neither posts nor takes in a reply. -/
theorem Connecting.not_carries {point : Connecting} {handler : Option H}
    (hGets : ∀ request, (point.wait handler : Wait M H B) = .answer request →
      request.method = .get) :
    (point.wait handler : Wait M H B).carries = false ∧
      (point.wait handler : Wait M H B).delivers = false := by
  rcases point with (⟨retry, request⟩ | ⟨retry, delay⟩) | _
  · have hGet := hGets request rfl
    simp [wait, Opening.wait, Wait.carries, Wait.delivers, Wait.isPost, hGet]
  · exact ⟨rfl, rfl⟩
  · exact ⟨rfl, rfl⟩

namespace Sending

theorem filter_carries (items : List M) :
    (items.map (.legacySend : M → Wait M H B)).filter Wait.carries = items.map .legacySend := by
  simp [Wait.carries]

theorem filter_isPost (items : List M) :
    (items.map (.legacySend : M → Wait M H B)).filter Wait.isPost = [] := by
  simp [Wait.isPost]

/-- What the records of a send show at a step of it. -/
inductive Stage (settings : Settings M) (handler : Option H) (message : M)
    (records : List (Record M H B)) :
    Step (Sending M H B) (Except Error Unit) → Shared H → Prop where
  | connecting {point : Connecting} {shared : Shared H} (unsent : Record.sent records = [])
      (delivery : Record.delivery records = [])
      (replies : Exchange.legacyReplies (Record.exchanges records) = [])
      (gets : ∀ request, (point.wait handler : Wait M H B) = .answer request →
        request.method = .get) :
      Stage settings handler message records (.wait (.connecting message point)) shared
  | posting {body : String} {shared : Shared H}
      (encodes : settings.codec.encode message = .ok body)
      (sent : Record.sent records = [.answer (settings.postRequest body)])
      (delivery : Record.delivery records = [])
      (replies : Exchange.legacyReplies (Record.exchanges records) = []) :
      Stage settings handler message records
        (.wait (.posting message (settings.postRequest body))) shared
  | receiving {body : String} {response : Http.Response B} {intake : List (Exchange M H B)}
      {point : Intake M H B} {shared : Shared H}
      (encodes : settings.codec.encode message = .ok body)
      (sent : Record.sent records = [.answer (settings.postRequest body)])
      (delivery : Record.delivery records =
        (.answer (settings.postRequest body), .answer (.ok response)) :: intake)
      (replies : Exchange.legacyReplies (Record.exchanges records) = [])
      (takes : Intake.Takes settings.codec handler response intake (.wait point)) :
      Stage settings handler message records (.wait (.receiving message point)) shared
  | forwarding (first : List (Wait M H B)) (given : List M)
      {step : Step (Sending M H B) (Except Error Unit)} {shared : Shared H}
      (tripped : shared.latch.tripped = true) (hasLegacy : settings.hasLegacy = true)
      (prelude : Prelude settings handler message first (Record.delivery records))
      (sent : Record.sent records = first ++ given.map .legacySend)
      (reaches : Forwarding.Reaches (settings.codec.itemsOf message) given
        (Exchange.legacyReplies (Record.exchanges records)) step) :
      Stage settings handler message records step shared
  | dropped {shared : Shared H} (unsent : Record.sent records = [])
      (closed : shared.state = .closed) (untripped : shared.latch.tripped = false) :
      Stage settings handler message records (.done (.ok ())) shared
  | posted {request : Http.Request} {response : Http.Response B} {count : Nat}
      {shared : Shared H} (sent : Record.sent records = [.answer request])
      (readable : Readable response)
      (answered : Answered settings handler message request response (Record.delivery records)
        (.ok count)) :
      Stage settings handler message records (.done (.ok ())) shared
  | failed {error : Error} {shared : Shared H} (sent : (Record.sent records).length ≤ 1) :
      Stage settings handler message records (.done (.error error)) shared

namespace Stage

variable {settings : Settings M} {handler : Option H} {message : M}
  {records : List (Record M H B)} {shared : Shared H}

/-- Behind the choice to forward. -/
theorem of_forward {first : List (Wait M H B)} (hTripped : shared.latch.tripped = true)
    (hPrelude : Prelude settings handler message first (Record.delivery records))
    (hSent : Record.sent records =
      first ++ (asks handler (forward settings message)).filter Wait.carries)
    (hReplies : Exchange.legacyReplies (Record.exchanges records) = []) :
    Stage settings handler message records (forward settings message) shared := by
  cases hLegacy : settings.hasLegacy with
  | true =>
      obtain ⟨given, hAsks, hReaches⟩ := Forwarding.reaches_start (B := B) handler message hLegacy
      rw [hAsks, filter_carries] at hSent
      rw [← hReplies] at hReaches
      exact .forwarding first given hTripped hLegacy hPrelude hSent hReaches
  | false =>
      have hForward : (forward settings message : Step (Sending M H B) (Except Error Unit)) =
          .done (.error .noLegacy) := by
        simp [forward, Forwarding.start, hLegacy, Step.mapPoint]
      rw [hForward] at hSent ⊢
      apply Stage.failed
      rw [hSent, asks, List.filter_nil, List.append_nil]
      exact hPrelude.length_le

theorem of_forward_unposted (hTripped : shared.latch.tripped = true)
    (hSent : Record.sent records = (asks handler (forward settings message)).filter Wait.carries)
    (hDelivery : Record.delivery records = [])
    (hReplies : Exchange.legacyReplies (Record.exchanges records) = []) :
    Stage settings handler message records (forward settings message) shared := by
  have hPrelude : Prelude settings handler message [] (Record.delivery records) := by
    rw [hDelivery]
    exact .nothing
  exact .of_forward hTripped hPrelude hSent hReplies

/-- Behind the choice to post. -/
theorem of_post
    (hSent : Record.sent records = (asks handler (post settings message)).filter Wait.carries)
    (hDelivery : Record.delivery records = [])
    (hReplies : Exchange.legacyReplies (Record.exchanges records) = []) :
    Stage settings handler message records (post settings message) shared := by
  cases hEncode : settings.codec.encode message with
  | ok body =>
      simp only [post, hEncode] at hSent ⊢
      exact .posting hEncode hSent hDelivery hReplies
  | error error =>
      simp only [post, hEncode] at hSent ⊢
      exact .failed (by simp [hSent, asks])

/-- Behind a step of the connect sequence of the send. -/
theorem of_afterConnecting {turn : Shared H × Step Connecting (Connected B)}
    (hGets : ∀ point request, turn.2 = .wait point →
      (point.wait handler : Wait M H B) = .answer request → request.method = .get)
    (hSent : Record.sent records =
      (asks handler (afterConnecting settings message turn).step).filter Wait.carries)
    (hDelivery : Record.delivery records = [])
    (hReplies : Exchange.legacyReplies (Record.exchanges records) = []) :
    Stage settings handler message records (afterConnecting settings message turn).step
      (afterConnecting settings message turn).shared := by
  rcases turn with ⟨shared, point | ⟨error | _, stream⟩⟩
  · have hPoint : ∀ request, (point.wait handler : Wait M H B) = .answer request →
        request.method = .get := fun request => hGets point request rfl
    refine .connecting ?_ hDelivery hReplies hPoint
    have hCarries := (Connecting.not_carries hPoint).1
    rw [hSent]
    simp [afterConnecting, asks, wait, hCarries]
  · exact .failed (by simp [hSent, afterConnecting, asks])
  · simp only [afterConnecting] at hSent ⊢
    split
    · rename_i hTripped
      rw [if_pos hTripped] at hSent
      exact .of_forward_unposted hTripped hSent hDelivery hReplies
    · rename_i hTripped
      rw [if_neg hTripped] at hSent
      split
      · rename_i hClosed
        rw [if_pos hClosed] at hSent
        exact .dropped hSent (by simpa [Shared.isClosed] using hClosed) (by simpa using hTripped)
      · rename_i hClosed
        rw [if_neg hClosed] at hSent
        exact .of_post hSent hDelivery hReplies

/-- Behind the first turn of a send. -/
theorem of_start {begun : Shared H} {turn : Turn M H B}
    (hTurn : turn = Sending.start settings begun handler message)
    (hSent : Record.sent records = (asks handler turn.step).filter Wait.carries)
    (hDelivery : Record.delivery records = [])
    (hReplies : Exchange.legacyReplies (Record.exchanges records) = []) :
    Stage settings handler message records turn.step turn.shared := by
  subst hTurn
  cases hLatch : begun.latch.tripped with
  | true =>
      simp only [start, hLatch, ite_true] at hSent ⊢
      exact .of_forward_unposted hLatch hSent hDelivery hReplies
  | false =>
      cases hState : begun.state with
      | closed =>
          simp only [start, hLatch, hState, Bool.false_eq_true, ite_false] at hSent ⊢
          exact .dropped hSent hState hLatch
      | disconnected =>
          cases hConnect : settings.config.connectOnSend with
          | true =>
              simp only [start, hLatch, hState, hConnect, Bool.false_eq_true, ite_false,
                ite_true] at hSent ⊢
              exact .of_afterConnecting (fun _ _ hPoint hRequest =>
                (Connecting.opens_of_start hPoint hRequest).get) hSent hDelivery hReplies
          | false =>
              simp only [start, hLatch, hState, hConnect, Bool.false_eq_true, ite_false] at hSent ⊢
              exact .of_post hSent hDelivery hReplies
      | connecting =>
          simp only [start, hLatch, hState, Bool.false_eq_true, ite_false] at hSent ⊢
          exact .of_post hSent hDelivery hReplies
      | connected =>
          simp only [start, hLatch, hState, Bool.false_eq_true, ite_false] at hSent ⊢
          exact .of_post hSent hDelivery hReplies

/-- Behind a step of taking in the reply. -/
theorem of_afterIntake {body : String} {response : Http.Response B}
    {intake : List (Exchange M H B)} {step : Step (Intake M H B) (Except Error Nat)}
    (hEncode : settings.codec.encode message = .ok body)
    (hSent : Record.sent records = .answer (settings.postRequest body) ::
      (asks handler (afterIntake settings shared message step).step).filter Wait.carries)
    (hDelivery : Record.delivery records =
      (.answer (settings.postRequest body), .answer (.ok response)) :: intake)
    (hReplies : Exchange.legacyReplies (Record.exchanges records) = [])
    (hTakes : Intake.Takes settings.codec handler response intake step) :
    Stage settings handler message records (afterIntake settings shared message step).step
      (afterIntake settings shared message step).shared := by
  rcases step with point | (error | count)
  · have hNone : ((Sending.receiving message point).wait handler).carries = false :=
      point.wait_delivers.1
    simp only [afterIntake, asks, List.filter_cons, hNone] at hSent ⊢
    exact .receiving hEncode hSent hDelivery hReplies hTakes
  · have hAnswered : Answered settings handler message (settings.postRequest body) response
        (Record.delivery records) (.error error) :=
      ⟨Settings.posts_postRequest hEncode, intake, hDelivery, hTakes⟩
    cases hDenies : error.deniesEndpoint with
    | true =>
        simp only [afterIntake, hDenies, ite_true] at hSent ⊢
        exact .of_forward rfl (.denied hAnswered hDenies) hSent hReplies
    | false =>
        simp only [afterIntake, hDenies, Bool.false_eq_true, ite_false] at hSent ⊢
        exact .failed (by simp [hSent, asks])
  · exact .posted hSent (.of_takes hTakes)
      ⟨Settings.posts_postRequest hEncode, intake, hDelivery, hTakes⟩

/-- Behind a later turn of a send. -/
theorem of_resume {id : TaskId} {point : Sending M H B} {before later : Shared H}
    {reply : Reply B} {turn : Turn M H B}
    (h : Stage settings handler message records (.wait point) before)
    (hLeads : before.Leads later)
    (hResume : point.resume settings later handler reply = some turn) :
    Stage settings handler message
      (records ++ [⟨id, later, .resumed (.sending handler point) reply, .ofSending handler turn⟩])
      turn.step turn.shared := by
  cases h with
  | @connecting point _ unsent delivery replies gets =>
      obtain ⟨inner, hInner, rfl⟩ := Option.map_eq_some_iff.mp hResume
      obtain ⟨hCarries, hDelivers⟩ := Connecting.not_carries gets
      have hNoReply := Exchange.legacyReply?_of_not_carries hCarries reply
      refine .of_afterConnecting (fun next request hNext hRequest =>
        (Connecting.opens_of_resume hInner hNext hRequest).get) ?_ ?_ ?_
      · simp [unsent]
      · simp [delivery, Task.wait, wait, hDelivers]
      · simp [replies, Task.wait, wait, hNoReply]
  | @posting body _ encodes sent delivery replies =>
      cases resumes hResume with
      | failed own request error => exact .failed (by simp [sent, asks])
      | answered own request response =>
          refine .of_afterIntake encodes ?_ ?_ ?_ (Intake.takes_ofResponse _ handler response)
          · simp [sent]
          · simp [delivery, Task.wait, wait, Wait.delivers, Wait.isPost]
          · simp [replies, Task.wait, wait, Exchange.legacyReply?]
  | @receiving body response intake point _ encodes sent delivery replies takes =>
      obtain ⟨⟨token, step⟩, hStep, rfl⟩ := Option.map_eq_some_iff.mp hResume
      obtain ⟨hCarries, hDelivers⟩ := point.wait_delivers
      have hNoReply := Exchange.legacyReply?_of_not_carries hCarries reply
      refine .of_afterIntake encodes ?_ ?_ ?_ (Intake.takes_resume takes hStep)
      · simp [sent]
      · simp [delivery, Task.wait, wait, hDelivers]
      · simp [replies, Task.wait, wait, hNoReply]
  | forwarding first given tripped hasLegacy prelude sent reaches =>
      generalize hReplies : Exchange.legacyReplies (Record.exchanges records) = replies at reaches
      cases reaches with
      | @waits earlier _ inner split answered failure =>
          obtain ⟨result, rfl, rfl⟩ := legacy_of_resume hResume
          obtain ⟨more, hAsks, hMore⟩ := Forwarding.reaches_resume result handler
            (.waits (B := B) (H := H) inner split answered failure)
          rw [← hReplies] at hMore
          refine .forwarding first (earlier ++ [inner.item] ++ more) (hLeads.latch tripped)
            hasLegacy ?_ ?_ ?_
          · simpa [Task.wait, wait, Forwarding.wait, Wait.delivers, Wait.isPost] using prelude
          · simp [sent, hAsks, filter_carries]
          · simpa [Task.wait, wait, Forwarding.wait, Exchange.legacyReply?] using hMore

/-- A message is posted once at most. -/
theorem posts_le {step : Step (Sending M H B) (Except Error Unit)}
    (h : Stage settings handler message records step shared) :
    (Record.posts records).length ≤ 1 := by
  have hSome (hSent : (Record.sent records).length ≤ 1) : (Record.posts records).length ≤ 1 := by
    rw [Record.posts_eq]
    exact Nat.le_trans (List.length_filter_le _ _) hSent
  cases h with
  | connecting unsent _ _ _ => exact hSome (by simp [unsent])
  | posting _ sent _ _ => exact hSome (by simp [sent])
  | receiving _ sent _ _ _ => exact hSome (by simp [sent])
  | forwarding _ _ _ _ prelude sent _ =>
      rw [Record.posts_eq, sent, List.filter_append, filter_isPost, List.append_nil]
      exact Nat.le_trans (List.length_filter_le _ _) prelude.length_le
  | dropped unsent _ _ => exact hSome (by simp [unsent])
  | posted sent _ _ => exact hSome (by simp [sent])
  | failed sent => exact hSome sent

/-- A send that succeeds has delivered its message. -/
theorem delivers (h : Stage settings handler message records (.done (.ok ())) shared) :
    ∃ way : Way, way.Delivers settings handler message shared records := by
  cases h with
  | forwarding first given tripped hasLegacy prelude sent reaches =>
      generalize hReplies : Exchange.legacyReplies (Record.exchanges records) = replies at reaches
      cases reaches with
      | ends answered failure =>
          refine ⟨.forwarded, tripped, hasLegacy, _, prelude, sent, ?_⟩
          rw [hReplies, List.map_const', List.eq_replicate_iff]
          exact ⟨answered, firstFailure_eq_none.mp failure⟩
  | dropped unsent closed untripped => exact ⟨.dropped, unsent, closed, untripped⟩
  | posted sent readable answered => exact ⟨.posted, _, _, _, sent, readable, answered⟩

end Stage

/-- What the records of a send show in every run of it. -/
theorem stage_of_life {settings : Settings M} {id : TaskId} {call : Call M H}
    {begun : Shared H} {message : M} {past : List (Record M H B)} {last : Record M H B}
    (hMessage : call.message? = some message) (life : Life settings id call begun past last) :
    ∃ turn : Turn M H B, last.turn = .ofSending (call.replyHandler begun) turn ∧
      Stage settings (call.replyHandler begun) message (past ++ [last]) turn.step turn.shared :=
  life.send_induction hMessage rfl
    (motive := Stage settings (call.replyHandler begun) message)
    (fun _ hTurn => .of_start hTurn (by simp) rfl rfl)
    (fun _ _ _ _ _ _ hStage hLeads hResume => hStage.of_resume hLeads hResume)

end Sending

/-- A message is not delivered in two ways. -/
theorem Way.unique {settings : Settings M} {handler : Option H} {message : M}
    {shared : Shared H} {records : List (Record M H B)} {way other : Way}
    (h : way.Delivers settings handler message shared records)
    (h' : other.Delivers settings handler message shared records) : way = other := by
  have hDropped {way : Way}
      (h : Way.dropped.Delivers settings handler message shared records)
      (h' : way.Delivers settings handler message shared records) : way = .dropped := by
    obtain ⟨hUnsent, _, hUntripped⟩ := h
    cases way with
    | dropped => rfl
    | posted =>
        obtain ⟨_, _, _, hSent, _⟩ := h'
        simp [hUnsent] at hSent
    | forwarded => simp [h'.1] at hUntripped
  have hPosted (h : Way.posted.Delivers settings handler message shared records)
      (h' : Way.forwarded.Delivers settings handler message shared records) : False := by
    obtain ⟨_, _, _, _, _, hAnswered⟩ := h
    obtain ⟨_, _, _, hPrelude, _⟩ := h'
    generalize hDelivery : Record.delivery records = delivery at hAnswered hPrelude
    cases hPrelude with
    | nothing =>
        obtain ⟨_, _, hNone, _⟩ := hAnswered
        cases hNone
    | denied answered denies => cases hAnswered.unique answered
  cases way with
  | dropped => exact (hDropped h h').symm
  | posted =>
      cases other with
      | dropped => exact hDropped h' h
      | posted => rfl
      | forwarded => exact (hPosted h h').elim
  | forwarded =>
      cases other with
      | dropped => exact hDropped h' h
      | posted => exact (hPosted h' h).elim
      | forwarded => rfl

/-- A message for which nothing left was dropped, unless it has no items. -/
theorem Way.dropped_of_unsent {settings : Settings M} {handler : Option H} {message : M}
    {shared : Shared H} {records : List (Record M H B)} {way : Way}
    (h : way.Delivers settings handler message shared records)
    (hUnsent : Record.sent records = []) :
    way = .dropped ∨ settings.codec.itemsOf message = [] := by
  cases way with
  | dropped => exact Or.inl rfl
  | posted =>
      obtain ⟨_, _, _, hSent, _⟩ := h
      simp [hUnsent] at hSent
  | forwarded =>
      obtain ⟨_, _, _, _, hSent, _⟩ := h
      rw [hUnsent, eq_comm, List.append_eq_nil_iff, List.map_eq_nil_iff] at hSent
      exact Or.inr hSent.2

namespace System

/-- A send posts its message once at most. When it returns without an error, its
message was delivered in exactly one way, and it was not dropped unless the
transport is closed. A message with items for which nothing left was dropped. -/
theorem delivered_of_ok (settings : Settings M) (actions : List (Action M H B))
    {record : Record M H B} {call : Call M H} {message : M}
    (hMem : record ∈ history settings {} actions) (hBegan : record.origin = .began call)
    (hMessage : call.message? = some message) :
    let handler := call.replyHandler record.before
    let records := own record.id (history settings {} actions)
    (Record.posts records).length ≤ 1 ∧
      ∀ last ∈ records, last.turn.result? = some (.ok ()) →
        (∃! way : Way, way.Delivers settings handler message last.turn.shared records) ∧
        (last.turn.shared.state ≠ .closed →
          Way.posted.Delivers settings handler message last.turn.shared records ∨
          Way.forwarded.Delivers settings handler message last.turn.shared records) ∧
        (Record.sent records = [] →
          Way.dropped.Delivers settings handler message last.turn.shared records ∨
          settings.codec.itemsOf message = []) := by
  obtain ⟨past, final, hOwn, life, _⟩ := life_of_began hMem hBegan
  obtain ⟨turn, hTurn, hStage⟩ := Sending.stage_of_life hMessage life
  rw [← hOwn] at hStage
  refine ⟨hStage.posts_le, ?_⟩
  intro last hLast hResult
  have hFinal : last = final := by
    rw [hOwn] at hLast
    rcases List.mem_append.mp hLast with hPast | hLast
    · rw [life.not_returned hPast] at hResult
      cases hResult
    · exact List.mem_singleton.mp hLast
  subst hFinal
  have hStep : turn.step = .done (.ok ()) := by
    rw [hTurn] at hResult
    rcases turn with ⟨shared, point | result, stream⟩
    · cases hResult
    · cases hResult
      rfl
  rw [hStep] at hStage
  obtain ⟨way, hWay⟩ := hStage.delivers
  rw [hTurn]
  refine ⟨⟨way, hWay, fun other hOther => Way.unique hOther hWay⟩, ?_, ?_⟩
  · intro hState
    cases way with
    | dropped => exact absurd hWay.2.1 hState
    | posted => exact Or.inl hWay
    | forwarded => exact Or.inr hWay
  · intro hUnsent
    rcases Way.dropped_of_unsent hWay hUnsent with rfl | hNone
    · exact Or.inl hWay
    · exact Or.inr hNone

/-- A message that the server accepts is delivered by its post. -/
theorem delivered_of_ok_of_accepted :
    let settings := Settings.plain true
    let actions : List (Action String String Unit) :=
      [.call (.connect "handler"), .reply 0 (.answer (.ok ⟨202, [], ()⟩)),
        .call (.send "message"), .reply 1 (.answer (.ok ⟨202, [], ()⟩))]
    ∃ record ∈ history settings {} actions, record.origin = .began (.send "message") ∧
      let records := own record.id (history settings {} actions)
      ∃ last ∈ records, last.turn.result? = some (.ok ()) ∧
        ∃! way : Way,
          way.Delivers settings (some "handler") "message" last.turn.shared records := by
  intro settings actions
  have hMem : (history settings {} actions)[2] ∈ history settings {} actions :=
    List.getElem_mem _
  have hLast : (history settings {} actions)[3] ∈ own 1 (history settings {} actions) :=
    List.mem_filter.mpr ⟨List.getElem_mem _, rfl⟩
  have hDelivered := delivered_of_ok settings actions hMem rfl rfl
  exact ⟨_, hMem, rfl, _, hLast, rfl, (hDelivered.2 _ hLast rfl).1⟩

/-- A batch without items is forwarded, and nothing leaves. On a connected transport the send
returns without an error all the same. On a closed one it looks as if the batch were dropped
as well. -/
theorem delivered_without_items :
    let settings := Sample.fallenBack .jsonRpc
    let fallback : List (Action Rpc.Message String Unit) :=
      [.call (.connect "handler"), .reply 0 (.answer (.ok ⟨404, [], ()⟩)),
        .reply 0 (.legacy (.ok ()))]
    let connected := own 1 (history settings {} (fallback ++ [.call (.send (.batch []))]))
    let closed := own 2 (history settings {} (fallback ++
      [.call .close, .reply 1 (.legacy (.ok ())), .call (.send (.batch []))]))
    (∃ last ∈ connected, last.turn.result? = some (.ok ()) ∧
      last.turn.shared.state = .connected ∧ Record.sent connected = []) ∧
    ∃ last ∈ closed, last.turn.result? = some (.ok ()) ∧
      last.turn.shared.state = .closed ∧ Record.sent closed = [] ∧
      Way.forwarded.Delivers settings (some "handler") (.batch []) last.turn.shared closed :=
  ⟨⟨_, .head _, rfl, rfl, rfl⟩, _, .head _, rfl, rfl, rfl, rfl, rfl, [], .nothing, rfl, rfl⟩

end System

end RpcTransport.Transport
