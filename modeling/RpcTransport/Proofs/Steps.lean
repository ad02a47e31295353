import RpcTransport.Transport.Task

namespace RpcTransport.Transport

variable {M H B : Type}

namespace Opening

/-- An attempt goes on. -/
inductive Resumes (settings : Settings M) (shared : Shared H) :
    Opening → Reply B → Step Opening (Except Error (Opened B)) → Prop where
  | answered (retry : Nat) (request : Http.Request)
      (answer : Except Error (Http.Response B)) :
      Resumes settings shared (.requesting retry request) (.answer answer)
        (settle settings retry (judge answer))
  | elapsed (retry : Nat) (delay : Duration) :
      Resumes settings shared (.pausing retry delay) .elapsed
        (attempt settings shared (retry + 1))

theorem resumes {settings : Settings M} {shared : Shared H} {point : Opening} {reply : Reply B}
    {step : Step Opening (Except Error (Opened B))}
    (h : point.resume settings shared reply = some step) :
    Resumes settings shared point reply step := by
  unfold resume at h
  split at h
  · cases h
    exact .answered _ _ _
  · cases h
    exact .elapsed _ _
  · cases h

end Opening

namespace Connecting

/-- A connect sequence goes on. -/
inductive Resumes (settings : Settings M) (shared : Shared H) :
    Connecting → Reply B → Shared H × Step Connecting (Connected B) → Prop where
  | opening {point : Opening} {reply : Reply B} {step : Step Opening (Except Error (Opened B))}
      (resumed : point.resume settings shared reply = some step) :
      Resumes settings shared (.opening point) reply (afterOpening settings shared step)
  | legacy (result : Except Error Unit) :
      Resumes settings shared .legacy (.legacy result)
        (shared.leaveConnecting result.isOk, .done ⟨result, none⟩)

theorem resumes {settings : Settings M} {shared : Shared H} {point : Connecting}
    {reply : Reply B} {turn : Shared H × Step Connecting (Connected B)}
    (h : point.resume settings shared reply = some turn) :
    Resumes settings shared point reply turn := by
  unfold resume at h
  split at h
  · obtain ⟨step, hStep, rfl⟩ := Option.map_eq_some_iff.mp h
    exact .opening hStep
  · cases h
    exact .legacy _
  · cases h

end Connecting

namespace Intake

/-- How taking in a response begins. -/
def ofResponse (response : Http.Response B) : Step (Intake M H B) (Except Error Nat) :=
  match Decoder.select response with
  | .ok (some decoder) => .wait (.start decoder response.body)
  | .ok none => .done (.ok 0)
  | .error error => .done (.error error)

/-- The intake of a body goes on. -/
inductive Resumes (codec : Codec M) (stopped : Bool) (handler : Option H)
    (token : ResumptionToken) : Intake M H B → Reply B →
      ResumptionToken × Step (Intake M H B) (Except Error Nat) → Prop where
  | more {body : B} {reader : Decoder.Reader} {handled : Nat} {item : Option BodyItem}
      {next : Decoder.Reader} (accepts : reader.accept codec stopped item = .more next) :
      Resumes codec stopped handler token (.reading body reader handled) (.item item)
        (token, .wait (.reading body next handled))
  | messages {body : B} {reader : Decoder.Reader} {handled : Nat} {item : Option BodyItem}
      {messages : List M} {id : Option String} {next : Option Decoder.Reader}
      (accepts : reader.accept codec stopped item = .messages messages id next) :
      Resumes codec stopped handler token (.reading body reader handled) (.item item)
        (offer handler token messages id body next handled)
  | finished {body : B} {reader : Decoder.Reader} {handled : Nat} {item : Option BodyItem}
      {result : Except Error Unit}
      (accepts : reader.accept codec stopped item = .finished result) :
      Resumes codec stopped handler token (.reading body reader handled) (.item item)
        (token, .done (result.map fun _ => handled))
  | accepted (owner : H) (message : M) (rest : List M) (id : Option String) (body : B)
      (next : Option Decoder.Reader) (handled : Nat) :
      Resumes codec stopped handler token (.handing owner message rest id body next handled)
        (.verdict (.ok ())) (offer (some owner) token rest id body next (handled + 1))
  | refused (owner : H) (message : M) (rest : List M) (id : Option String) (body : B)
      (next : Option Decoder.Reader) (handled : Nat) (error : Error) :
      Resumes codec stopped handler token (.handing owner message rest id body next handled)
        (.verdict (.error error)) (token, .done (.error error))

theorem resumes {codec : Codec M} {stopped : Bool} {handler : Option H} {token : ResumptionToken}
    {point : Intake M H B} {reply : Reply B}
    {turn : ResumptionToken × Step (Intake M H B) (Except Error Nat)}
    (h : point.resume codec stopped handler token reply = some turn) :
    Resumes codec stopped handler token point reply turn := by
  unfold resume at h
  split at h
  · split at h
    · rename_i hAccept
      cases h
      exact .more hAccept
    · rename_i hAccept
      cases h
      exact .messages hAccept
    · rename_i hAccept
      cases h
      exact .finished hAccept
  · split at h
    · cases h
      exact .accepted ..
    · cases h
      exact .refused ..
  · cases h

theorem item_of_resume {codec : Codec M} {stopped : Bool} {handler : Option H}
    {token : ResumptionToken} {body : B} {reader : Decoder.Reader} {handled : Nat}
    {reply : Reply B} {turn : ResumptionToken × Step (Intake M H B) (Except Error Nat)}
    (h : (reading body reader handled).resume codec stopped handler token reply = some turn) :
    ∃ item, reply = .item item := by
  cases resumes h with
  | more accepts => exact ⟨_, rfl⟩
  | messages accepts => exact ⟨_, rfl⟩
  | finished accepts => exact ⟨_, rfl⟩

theorem verdict_of_resume {codec : Codec M} {stopped : Bool} {handler : Option H}
    {token : ResumptionToken} {owner : H} {message : M} {rest : List M} {id : Option String}
    {body : B} {next : Option Decoder.Reader} {handled : Nat} {reply : Reply B}
    {turn : ResumptionToken × Step (Intake M H B) (Except Error Nat)}
    (h : (handing owner message rest id body next handled).resume codec stopped handler token
      reply = some turn) : ∃ result, reply = .verdict result := by
  cases resumes h with
  | accepted => exact ⟨_, rfl⟩
  | refused => exact ⟨_, rfl⟩

end Intake

namespace Sending

theorem afterPosting_ok (settings : Settings M) (shared : Shared H) (message : M)
    (response : Http.Response B) :
    afterPosting settings shared message (.ok response) =
      (afterIntake settings shared message (Intake.ofResponse response) : Turn M H B) := by
  rcases hSelect : Decoder.select response with error | (_ | decoder) <;>
    simp only [afterPosting, Intake.ofResponse, hSelect]

/-- A send goes on. -/
inductive Resumes (settings : Settings M) (shared : Shared H) (handler : Option H) :
    Sending M H B → Reply B → Turn M H B → Prop where
  | connecting {message : M} {point : Connecting} {reply : Reply B}
      {turn : Shared H × Step Connecting (Connected B)}
      (resumed : point.resume settings shared reply = some turn) :
      Resumes settings shared handler (.connecting message point) reply
        (afterConnecting settings message turn)
  | failed (message : M) (request : Http.Request) (error : Error) :
      Resumes settings shared handler (.posting message request) (.answer (.error error))
        ⟨shared, .done (.error error), none⟩
  | answered (message : M) (request : Http.Request) (response : Http.Response B) :
      Resumes settings shared handler (.posting message request) (.answer (.ok response))
        (afterIntake settings shared message (Intake.ofResponse response))
  | receiving {message : M} {point : Intake M H B} {reply : Reply B} {token : ResumptionToken}
      {step : Step (Intake M H B) (Except Error Nat)}
      (resumed : point.resume settings.codec false handler shared.token reply =
        some (token, step)) :
      Resumes settings shared handler (.receiving message point) reply
        (afterIntake settings { shared with token } message step)
  | forwarding (point : Forwarding M) (result : Except Error Unit) :
      Resumes settings shared handler (.forwarding point) (.legacy result)
        ⟨shared, (point.resume result).mapPoint .forwarding, none⟩

theorem resumes {settings : Settings M} {shared : Shared H} {handler : Option H}
    {point : Sending M H B} {reply : Reply B} {turn : Turn M H B}
    (h : point.resume settings shared handler reply = some turn) :
    Resumes settings shared handler point reply turn := by
  unfold resume at h
  split at h
  · obtain ⟨inner, hInner, rfl⟩ := Option.map_eq_some_iff.mp h
    exact .connecting hInner
  · rename_i answer
    cases h
    cases answer with
    | error error => exact .failed _ _ error
    | ok response =>
        rw [afterPosting_ok]
        exact .answered _ _ response
  · obtain ⟨⟨token, step⟩, hStep, rfl⟩ := Option.map_eq_some_iff.mp h
    exact .receiving hStep
  · cases h
    exact .forwarding _ _
  · cases h

theorem legacy_of_resume {settings : Settings M} {shared : Shared H} {handler : Option H}
    {point : Forwarding M} {reply : Reply B} {turn : Turn M H B}
    (h : (forwarding point).resume settings shared handler reply = some turn) :
    ∃ result, reply = .legacy result ∧
      turn = ⟨shared, (point.resume result).mapPoint .forwarding, none⟩ := by
  cases resumes h with
  | forwarding _ result => exact ⟨result, rfl, rfl⟩

end Sending

namespace Streaming

/-- A stream task goes on. -/
inductive Resumes (settings : Settings M) (shared : Shared H) (handler : Option H) :
    Streaming M H B → Reply B → Shared H × Step (Streaming M H B) Unit → Prop where
  | receiving {point : Intake M H B} {reply : Reply B} {token : ResumptionToken}
      {step : Step (Intake M H B) (Except Error Nat)}
      (resumed : point.resume settings.codec shared.isClosed handler shared.token reply =
        some (token, step)) :
      Resumes settings shared handler (.receiving point) reply
        (afterIntake settings { shared with token } step)
  | reopening {point : Opening} {reply : Reply B}
      {step : Step Opening (Except Error (Opened B))}
      (resumed : point.resume settings shared reply = some step) :
      Resumes settings shared handler (.reopening point) reply (afterOpening shared step)

theorem resumes {settings : Settings M} {shared : Shared H} {handler : Option H}
    {point : Streaming M H B} {reply : Reply B}
    {turn : Shared H × Step (Streaming M H B) Unit}
    (h : point.resume settings shared handler reply = some turn) :
    Resumes settings shared handler point reply turn := by
  unfold resume at h
  split at h
  · obtain ⟨⟨token, step⟩, hStep, rfl⟩ := Option.map_eq_some_iff.mp h
    exact .receiving hStep
  · obtain ⟨step, hStep, rfl⟩ := Option.map_eq_some_iff.mp h
    exact .reopening hStep

end Streaming

namespace Task

/-- A task goes on. -/
inductive Resumes (settings : Settings M) (shared : Shared H) :
    Task M H B → Reply B → Turn M H B → Prop where
  | connecting {handler : H} {point : Connecting} {reply : Reply B}
      {turn : Shared H × Step Connecting (Connected B)}
      (resumed : point.resume settings shared reply = some turn) :
      Resumes settings shared (.connecting handler point) reply (.ofConnecting handler turn)
  | legacyConnecting (handler : H) (result : Except Error Unit) :
      Resumes settings shared (.legacyConnecting handler) (.legacy result)
        (.returned shared result)
  | sending {handler : Option H} {point : Sending M H B} {reply : Reply B}
      {turn : Sending.Turn M H B}
      (resumed : point.resume settings shared handler reply = some turn) :
      Resumes settings shared (.sending handler point) reply (.ofSending handler turn)
  | closing (result : Except Error Unit) :
      Resumes settings shared .closing (.legacy result) (.returned shared result)
  | streaming {handler : Option H} {point : Streaming M H B} {reply : Reply B}
      {turn : Shared H × Step (Streaming M H B) Unit}
      (resumed : point.resume settings shared handler reply = some turn) :
      Resumes settings shared (.streaming handler point) reply (.ofStreaming handler turn)

theorem resumes {settings : Settings M} {shared : Shared H} {task : Task M H B}
    {reply : Reply B} {turn : Turn M H B} (h : task.resume settings shared reply = some turn) :
    Resumes settings shared task reply turn := by
  unfold resume at h
  split at h
  · obtain ⟨inner, hInner, rfl⟩ := Option.map_eq_some_iff.mp h
    exact .connecting hInner
  · cases h
    exact .legacyConnecting _ _
  · obtain ⟨inner, hInner, rfl⟩ := Option.map_eq_some_iff.mp h
    exact .sending hInner
  · cases h
    exact .closing _
  · obtain ⟨inner, hInner, rfl⟩ := Option.map_eq_some_iff.mp h
    exact .streaming hInner
  · cases h

end Task

namespace Call

/-- The message that the call sends. -/
def message? : Call M H → Option M
  | .send message => some message
  | .sendWith _ message => some message
  | _ => none

/-- The handler to which a send gives the messages of the reply. -/
def replyHandler (shared : Shared H) : Call M H → Option H
  | .sendWith handler _ => some handler
  | _ => shared.handler

theorem start_of_message {settings : Settings M} {shared : Shared H} {call : Call M H}
    {message : M} (h : call.message? = some message) :
    (call.start settings shared : Turn M H B) =
      .ofSending (call.replyHandler shared)
        (Sending.start settings shared (call.replyHandler shared) message) := by
  cases call <;> cases h <;> rfl

/-- A call starts. Only the first of several connects starts a connect sequence. -/
inductive Starts (settings : Settings M) (shared : Shared H) :
    Call M H → Turn M H B → Prop where
  | legacyConnecting (handler : H) (tripped : shared.latch.tripped = true) :
      Starts settings shared (.connect handler)
        ⟨shared, .wait (.legacyConnecting handler), none⟩
  | refused (handler : H) (error : Error) :
      Starts settings shared (.connect handler) (.returned shared (.error error))
  | connecting (handler : H) (untripped : shared.latch.tripped = false)
      (idle : shared.state = .disconnected) :
      Starts settings shared (.connect handler)
        (.ofConnecting handler
          (Connecting.start settings { shared with state := .connecting } (some handler)))
  | sending {call : Call M H} {message : M} (sends : call.message? = some message) :
      Starts settings shared call
        (.ofSending (call.replyHandler shared)
          (Sending.start settings shared (call.replyHandler shared) message))
  | closing : Starts settings shared .close
      ⟨{ shared with state := .closed }, .wait .closing, none⟩
  | closed : Starts settings shared .close
      (.returned { shared with state := .closed } (.ok ()))

theorem starts (settings : Settings M) (shared : Shared H) (call : Call M H) :
    Starts settings shared call (call.start settings shared : Turn M H B) := by
  cases call with
  | connect handler =>
      simp only [start, startConnect, ConnectionState.move]
      split
      · rename_i hTripped
        split
        · exact .legacyConnecting handler hTripped
        · exact .refused handler .noLegacy
      · rename_i hTripped
        by_cases hState : shared.state = .disconnected
        · simp only [hState, ite_true]
          exact .connecting handler (by simpa using hTripped) hState
        · simp only [hState, ite_false]
          exact .refused handler _
  | send message =>
      rw [start_of_message rfl]
      exact .sending rfl
  | sendWith handler message =>
      rw [start_of_message rfl]
      exact .sending rfl
  | close =>
      simp only [start, startClose]
      split
      · exact .closing
      · exact .closed

end Call

end RpcTransport.Transport
