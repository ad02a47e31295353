import RpcTransport.Proofs.Alone
import RpcTransport.Proofs.Delivery
import RpcTransport.Proofs.Handing
import RpcTransport.Proofs.Owners

/-! What a send gives to its handler is what dispatching the response to its own post alone would
hand over. -/
namespace RpcTransport.Transport

deriving instance DecidableEq for Http.Response

deriving instance DecidableEq for Reply

variable {M H B : Type}

namespace Exchange

/-- The items that were read of a body. -/
def itemsRead (exchanges : List (Exchange M H B)) : Nat :=
  exchanges.countP (·.1.isItem)

/-- What was read of a body are its contents, item by item, with the end behind the last. -/
def Reads (contents : List BodyItem) (exchanges : List (Exchange M H B)) : Prop :=
  ∀ before body item after, exchanges = before ++ (.item body, .item item) :: after →
    item = contents[itemsRead before]?

/-- The contents that are left to be read. -/
def unread (contents : List BodyItem) (exchanges : List (Exchange M H B)) : List BodyItem :=
  contents.drop (itemsRead exchanges)

variable {contents : List BodyItem} {exchanges : List (Exchange M H B)}

theorem Reads.earlier {last : Exchange M H B} (h : Reads contents (exchanges ++ [last])) :
    Reads contents exchanges := by
  intro before body item after hSplit
  refine h before body item (after ++ [last]) ?_
  rw [hSplit, List.append_assoc, List.cons_append]

/-- The item that was read last is the next one of the contents. -/
theorem Reads.item {body : B} {item : Option BodyItem}
    (h : Reads contents (exchanges ++ [((.item body : Wait M H B), .item item)])) :
    let rest := unread contents (exchanges ++ [((.item body : Wait M H B), .item item)])
    unread contents exchanges = item.toList ++ rest ∧ (item = none → rest = []) := by
  intro rest
  have hRest : rest = contents.drop (itemsRead exchanges + 1) := by
    simp [rest, unread, itemsRead, Wait.isItem, List.countP_append]
  have hItem : item = contents[itemsRead exchanges]? := h exchanges body item [] rfl
  rw [hRest]
  cases item with
  | none =>
      have hLength : contents.length ≤ itemsRead exchanges :=
        List.getElem?_eq_none_iff.mp hItem.symm
      have hOver : contents.drop (itemsRead exchanges + 1) = [] :=
        List.drop_eq_nil_of_le (Nat.le_succ_of_le hLength)
      exact ⟨by rw [hOver, unread, List.drop_eq_nil_of_le hLength]; rfl, fun _ => hOver⟩
  | some item =>
      obtain ⟨hLess, hGet⟩ := List.getElem?_eq_some_iff.mp hItem.symm
      exact ⟨by rw [unread, List.drop_eq_getElem_cons hLess, hGet]; rfl, by rintro ⟨⟩⟩

theorem unread_of_not_item {wait : Wait M H B} (h : wait.isItem = false) (reply : Reply B) :
    unread contents (exchanges ++ [(wait, reply)]) = unread contents exchanges := by
  simp [unread, itemsRead, h]

end Exchange

namespace Intake

open Decoder

/-- The messages that taking in a body will still come to, as far as they are not refused. -/
def ahead (codec : Codec M) (rest : List BodyItem) : Intake M H B → List M
  | .reading _ reader _ => Decoder.ahead codec reader rest
  | .handing _ message messages _ _ next _ =>
    message :: messages ++ next.elim [] (Decoder.ahead codec · rest)

/-- What was given to a handler in the exchanges of taking in a response is what dispatching
the response alone would give, if the handler said the same. -/
structure Gives (codec : Codec M) (handler : Option H) (response : Http.Response (List BodyItem))
    (exchanges : List (Exchange M H B)) (given : List (H × M)) : Prop where
  accepted : Exchange.accepted exchanges = handler.toList.flatMap fun owner =>
    (dispatch (replay codec handler (Exchange.verdicts exchanges)) none response).seen.map
      (owner, ·)
  given : given = handler.toList.flatMap fun owner =>
    (handedOver (replay codec handler (Exchange.verdicts exchanges)) response).map (owner, ·)

/-- Of the messages of a body those that were `seen` were accepted, and `left` are to come. The
`current` one was given and waits for its verdict. -/
structure Hands (codec : Codec M) (handler : Option H) (decoder : Decoder)
    (contents : List BodyItem) (exchanges : List (Exchange M H B)) (given : List (H × M))
    (seen left : List M) (current : Option (H × M)) : Prop where
  messages : messagesOf codec decoder contents = seen ++ left
  accepted : Exchange.accepted exchanges = handler.toList.flatMap fun owner => seen.map (owner, ·)
  verdicts : handler ≠ none → Exchange.verdicts exchanges = .replicate seen.length (.ok ())
  given : given = Exchange.accepted exchanges ++ current.toList

/-- What was given so far of a response: at a wait for more of its body, or at the end. -/
def Gave (codec : Codec M) (handler : Option H) (response : Http.Response B)
    (contents : List BodyItem) (exchanges : List (Exchange M H B)) (given : List (H × M)) :
    Option (Intake M H B) → Prop
  | some point => point.Owned handler ∧ ∃ decoder seen, select response = .ok (some decoder) ∧
      Hands codec handler decoder contents exchanges given seen
        (point.ahead codec (Exchange.unread contents exchanges)) (point.wait : Wait M H B).given?
  | none => Gives codec handler ⟨response.status, response.headers, contents⟩ exchanges given

section Gave

variable {codec : Codec M} {handler : Option H} {decoder : Decoder} {response : Http.Response B}
  {contents : List BodyItem} {exchanges : List (Exchange M H B)} {given : List (H × M)}
  {seen : List M}

theorem select_contents (response : Http.Response B) (contents : List BodyItem) :
    select (⟨response.status, response.headers, contents⟩ : Http.Response (List BodyItem)) =
      select response :=
  rfl

/-- Without a handler nothing is given. -/
theorem gives_none {response : Http.Response (List BodyItem)}
    (hAccepted : Exchange.accepted exchanges = []) (hGiven : given = []) :
    Gives codec none response exchanges given :=
  ⟨hAccepted, hGiven⟩

/-- What dispatching a body comes to, told by its messages. -/
theorem gives_of_messages {owner : H} (hSelect : select response = .ok (some decoder))
    (hAccepted : Exchange.accepted exchanges =
      (deliver (replay codec (some owner) (Exchange.verdicts exchanges)).handler []
        (messagesOf codec decoder contents)).1.map (owner, ·))
    (hGiven : given = (offered (replay codec (some owner) (Exchange.verdicts exchanges)).handler 0
      (messagesOf codec decoder contents)).map (owner, ·)) :
    Gives codec (some owner) ⟨response.status, response.headers, contents⟩ exchanges given := by
  have hSeen : (decode (replay codec (some owner) (Exchange.verdicts exchanges)) none decoder
      contents).seen = _ := seen_decode (fun _ => rfl) none decoder contents
  refine ⟨?_, ?_⟩
  · rw [hAccepted, dispatch, select_contents, hSelect]
    simp only [Option.toList_some, List.flatMap_singleton, hSeen]
    rfl
  · rw [hGiven, handedOver, dispatch, select_contents, hSelect]
    simp only [Option.toList_some, List.flatMap_singleton]
    rfl

/-- The replay accepts again what was accepted. -/
theorem deliver_replay (codec : Codec M) (owner : H) (seen : List M)
    (later : List (Except Error Unit)) :
    deliver (replay codec (some owner) (.replicate seen.length (.ok ()) ++ later)).handler []
      seen = (seen, .ok ()) := by
  refine deliver_of_accepts fun n message hLess => ?_
  have hCount : n < seen.length := by simpa using hLess
  have hKnown : n < (List.replicate seen.length (.ok () : Except Error Unit)).length := by
    simpa using hCount
  simp [replay, List.getElem?_append_left hKnown, hCount]

/-- The end of a body of which all messages were accepted. -/
theorem Hands.ends (h : Hands codec handler decoder contents exchanges given seen [] none)
    (hSelect : select response = .ok (some decoder)) :
    Gives codec handler ⟨response.status, response.headers, contents⟩ exchanges given := by
  have hGiven : given = Exchange.accepted exchanges := by simpa using h.given
  cases handler with
  | none => exact gives_none h.accepted (hGiven.trans h.accepted)
  | some owner =>
      have hAccepted : Exchange.accepted exchanges = seen.map (owner, ·) := by
        simpa using h.accepted
      have hMessages : messagesOf codec decoder contents = seen := by simpa using h.messages
      have hDeliver : deliver (replay codec (some owner) (Exchange.verdicts exchanges)).handler
          [] seen = (seen, .ok ()) := by
        rw [h.verdicts nofun, ← List.append_nil (List.replicate _ _)]
        exact deliver_replay codec owner seen []
      refine gives_of_messages hSelect ?_ ?_
      · rw [hMessages, hDeliver, hAccepted]
      · rw [hGiven, hAccepted, hMessages]
        exact congrArg (List.map (owner, ·)) (offered_of_accepted hDeliver).symm

/-- The refusal of a message. -/
theorem Hands.refused {owner : H} {message : M} {more : List M} {wait : Wait M H B}
    {reply : Reply B} {error : Error}
    (h : Hands codec (some owner) decoder contents exchanges given seen (message :: more)
      (some (owner, message)))
    (hVerdict : Exchange.verdict? (wait, reply) = some (.error error))
    (hAccepted : Exchange.accepted? (wait, reply) = none)
    (hSelect : select response = .ok (some decoder)) :
    Gives codec (some owner) ⟨response.status, response.headers, contents⟩
      (exchanges ++ [(wait, reply)]) given := by
  have hSeen : Exchange.accepted exchanges = seen.map (owner, ·) := by simpa using h.accepted
  have hVerdicts : Exchange.verdicts (exchanges ++ [(wait, reply)]) =
      .replicate seen.length (.ok ()) ++ [.error error] := by
    rw [Exchange.verdicts_concat, hVerdict, h.verdicts nofun]
    rfl
  generalize hReplay : replay codec (some owner)
    (Exchange.verdicts (exchanges ++ [(wait, reply)])) = setting
  have hFirst : deliver setting.handler [] seen = (seen, .ok ()) := by
    rw [← hReplay, hVerdicts]
    exact deliver_replay codec owner seen _
  have hRefuses : setting.handler seen.length message = .error error := by
    rw [← hReplay, hVerdicts]
    simp [replay]
  refine gives_of_messages hSelect ?_ ?_
  · rw [hReplay, h.messages, deliver_append, hFirst, Exchange.accepted_concat, hAccepted, hSeen]
    simp [deliver, hRefuses]
  · rw [hReplay, h.messages, h.given, hSeen]
    have hOffered := (offered_append_of_accepted hFirst (message :: more)).2
    rw [List.length_nil] at hOffered
    simp [hOffered, offered, hRefuses]

/-- Behind an item, or behind an accepted message, the next messages are handed over. -/
theorem gave_offer {messages : List M} {id : Option String} {body : B}
    {next : Option Decoder.Reader} {handled : Nat} {token after : ResumptionToken}
    {step : Step (Intake M H B) (Except Error Nat)}
    (hSelect : select response = .ok (some decoder))
    (h : Hands codec handler decoder contents exchanges given seen
      (messages ++ next.elim [] (Decoder.ahead codec · (Exchange.unread contents exchanges)))
      none)
    (hOffer : offer handler token messages id body next handled = (after, step)) :
    Gave codec handler response contents exchanges (given ++ (given? step).toList)
      step.point? := by
  have hProceed {seen : List M} (count : Nat)
      (h : Hands codec handler decoder contents exchanges given seen
        (next.elim [] (Decoder.ahead codec · (Exchange.unread contents exchanges))) none) :
      Gave codec handler response contents exchanges
        (given ++ (given? (proceed body next count : Step (Intake M H B) _)).toList)
        (proceed body next count : Step (Intake M H B) _).point? := by
    cases next with
    | none =>
        have hEnds := h.ends hSelect
        rwa [← List.append_nil given] at hEnds
    | some reader =>
        rw [proceed, given_reading, Option.toList_none, List.append_nil]
        exact ⟨trivial, decoder, seen, hSelect, h⟩
  cases handler with
  | none =>
      cases hOffer
      have hDropped : Hands codec none decoder contents exchanges given (seen ++ messages)
          (next.elim [] (Decoder.ahead codec · (Exchange.unread contents exchanges))) none :=
        ⟨by rw [h.messages, List.append_assoc], h.accepted, nofun, h.given⟩
      exact hProceed _ hDropped
  | some owner =>
      cases messages with
      | nil =>
          cases hOffer
          exact hProceed _ h
      | cons message messages =>
          cases hOffer
          refine ⟨rfl, decoder, seen, hSelect, h.messages, h.accepted, h.verdicts, ?_⟩
          rw [h.given, Option.toList_none, List.append_nil]
          rfl

/-- Reading an item gives no message yet. What is to come is told by what the reader makes of
the item. -/
theorem Hands.read {body : B} {reader : Reader} {item : Option BodyItem} {progress : Progress M}
    (h : Hands codec handler decoder contents exchanges given seen
      (Decoder.ahead codec reader (Exchange.unread contents exchanges)) none)
    (accepts : reader.accept codec false item = progress)
    (hReads : Exchange.Reads contents (exchanges ++ [(.item body, .item item)])) :
    let later := exchanges ++ [(.item body, .item item)]
    Hands codec handler decoder contents later given seen
      (match progress with
        | .more next => Decoder.ahead codec next (Exchange.unread contents later)
        | .messages messages _ next =>
          messages ++ next.elim [] (Decoder.ahead codec · (Exchange.unread contents later))
        | .finished _ => [])
      none := by
  intro later
  obtain ⟨hUnread, hEnd⟩ := Exchange.Reads.item hReads
  have hAhead := ahead_accept codec reader item hEnd
  rw [← hUnread, accepts] at hAhead
  refine ⟨h.messages.trans (congrArg (seen ++ ·) hAhead), ?_, ?_, ?_⟩
  · simpa [later, Exchange.accepted?] using h.accepted
  · simpa [later, Exchange.verdict?] using h.verdicts
  · simpa [later, Exchange.accepted?] using h.given

theorem gave_resume {point : Intake M H B} {reply : Reply B} {token after : ResumptionToken}
    {step : Step (Intake M H B) (Except Error Nat)}
    (h : Gave codec handler response contents exchanges given (some point))
    (hReads : Exchange.Reads contents (exchanges ++ [(point.wait, reply)]))
    (hResume : point.resume codec false handler token reply = some (after, step)) :
    Gave codec handler response contents (exchanges ++ [(point.wait, reply)])
      (given ++ (given? step).toList) step.point? := by
  obtain ⟨hOwned, decoder, seen, hSelect, hHands⟩ := h
  generalize hTurn : (after, step) = turn at hResume
  cases resumes hResume with
  | @more body reader handled item next accepts =>
      cases hTurn
      refine ⟨trivial, decoder, seen, hSelect, ?_⟩
      rw [given_reading, Option.toList_none, List.append_nil]
      exact hHands.read accepts hReads
  | @messages body reader handled item messages id next accepts =>
      exact gave_offer hSelect (hHands.read accepts hReads) hTurn.symm
  | @finished body reader handled item result accepts =>
      cases hTurn
      have hEnds := (hHands.read accepts hReads).ends hSelect
      rwa [← List.append_nil given] at hEnds
  | accepted owner message rest id body next handled =>
      cases hOwned
      have hGiven : given = Exchange.accepted exchanges ++ [(owner, message)] := hHands.given
      let later : List (Exchange M H B) :=
        exchanges ++ [(.verdict owner message, .verdict (.ok ()))]
      have hAccepted : Hands codec (some owner) decoder contents later given (seen ++ [message])
          (rest ++ next.elim [] (Decoder.ahead codec · (Exchange.unread contents later)))
          none := by
        refine ⟨?_, ?_, ?_, ?_⟩
        · rw [Exchange.unread_of_not_item rfl, hHands.messages]
          simp [ahead]
        · simp [later, hHands.accepted, Exchange.accepted?]
        · intro hSome
          simp [later, hHands.verdicts hSome, Exchange.verdict?, List.replicate_succ']
        · simp [later, hGiven, Exchange.accepted?]
      exact gave_offer hSelect hAccepted hTurn.symm
  | refused owner message rest id body next handled error =>
      cases hTurn
      cases hOwned
      have hRefused : Gives codec (some owner) ⟨response.status, response.headers, contents⟩
          (exchanges ++ [(.verdict owner message, .verdict (.error error))]) given :=
        Hands.refused hHands rfl rfl hSelect
      rwa [← List.append_nil given] at hRefused

theorem gave_ofResponse (codec : Codec M) (handler : Option H) (response : Http.Response B)
    (contents : List BodyItem) :
    Gave codec handler response contents []
      (given? (ofResponse response : Step (Intake M H B) _)).toList
      (ofResponse response).point? := by
  have hSilent : ([] : List (H × M)) =
      handler.toList.flatMap fun owner => ([] : List M).map (owner, ·) := by
    cases handler <;> rfl
  have hOver (h : ∀ setting : Setting M, (dispatch setting none
      (⟨response.status, response.headers, contents⟩ : Http.Response (List BodyItem))).seen = []) :
      Gives codec handler ⟨response.status, response.headers, contents⟩
        ([] : List (Exchange M H B)) [] := by
    refine ⟨?_, ?_⟩
    · rw [h]
      exact hSilent
    · rw [handedOver, h]
      exact hSilent
  unfold ofResponse
  split
  · rename_i decoder hSelect
    refine ⟨trivial, decoder, [], hSelect, ?_, hSilent, fun _ => rfl, rfl⟩
    rfl
  · rename_i hSelect
    exact hOver fun setting => by rw [dispatch, select_contents, hSelect]
  · rename_i error hSelect
    exact hOver fun setting => by rw [dispatch, select_contents, hSelect]

end Gave

end Intake

namespace Record

/-- The response to the message that was posted, with the exchanges in which it was taken in. -/
def reply? (records : List (Record M H B)) :
    Option (Http.Response B × List (Exchange M H B)) :=
  match delivery records with
  | (.answer _, .answer (.ok response)) :: intake => some (response, intake)
  | _ => none

end Record

namespace Sending

/-- Where the taking in of the reply waits, if it is under way. -/
def intake? : Step (Sending M H B) (Except Error Unit) → Option (Intake M H B)
  | .wait (.receiving _ point) => some point
  | _ => none

theorem intake?_afterIntake (settings : Settings M) (shared : Shared H) (message : M)
    (step : Step (Intake M H B) (Except Error Nat)) :
    intake? (afterIntake settings shared message step).step = step.point? := by
  rcases step with point | (error | count)
  · rfl
  · simp only [afterIntake]
    split
    · simp only [forward]
      cases Forwarding.start settings message <;> rfl
    · rfl
  · rfl

/-- Only in the taking in of the reply are messages given. -/
theorem given_ofSending (id : TaskId) (shared : Shared H) (origin : Origin M H B)
    (handler : Option H) (turn : Turn M H B) :
    Record.given [⟨id, shared, origin, .ofSending handler turn⟩] =
      ((intake? turn.step).bind fun point => (point.wait : Wait M H B).given?).toList := by
  rw [Record.given, Record.waits_ofSending]
  rcases turn with ⟨_, (⟨_, (_ | _) | _⟩ | _ | ⟨_, _ | _⟩ | _) | _, _⟩ <;> rfl

/-- Before the post is answered the reply is not taken in. -/
theorem Stage.intake?_eq_none {settings : Settings M} {handler : Option H} {message : M}
    {records : List (Record M H B)} {step : Step (Sending M H B) (Except Error Unit)}
    {shared : Shared H} (h : Stage settings handler message records step shared)
    (hReply : Record.reply? records = none) : intake? step = none := by
  cases h with
  | receiving encodes sent delivery replies takes => simp [Record.reply?, delivery] at hReply
  | forwarding first given tripped hasLegacy prelude sent reaches =>
      generalize Exchange.legacyReplies (Record.exchanges records) = replies at reaches
      cases reaches <;> rfl
  | _ => rfl

/-- What a send has given so far: nothing without a response, and else what it has taken in of
the response. -/
def Gave (settings : Settings M) (handler : Option H) (records : List (Record M H B))
    (step : Step (Sending M H B) (Except Error Unit)) : Prop :=
  match Record.reply? records with
  | none => Record.given records = []
  | some (response, intake) => ∀ contents, Exchange.Reads contents intake →
    Intake.Gave settings.codec handler response contents intake (Record.given records)
      (intake? step)

section Gave

variable {settings : Settings M} {handler : Option H} {message : M}
  {records : List (Record M H B)} {before later : Shared H}

/-- A turn behind which there is still no response. -/
theorem gave_of_unanswered {id : TaskId} {origin : Origin M H B} {turn : Turn M H B}
    (hStage : Stage settings handler message
      (records ++ [⟨id, before, origin, .ofSending handler turn⟩]) turn.step turn.shared)
    (hReply : Record.reply? (records ++ [⟨id, before, origin, .ofSending handler turn⟩]) = none)
    (hGiven : Record.given records = []) :
    Gave settings handler (records ++ [⟨id, before, origin, .ofSending handler turn⟩])
      turn.step := by
  rw [Gave, hReply, Record.given_append, hGiven, given_ofSending, hStage.intake?_eq_none hReply]
  rfl

/-- A turn that takes in the response. -/
theorem gave_of_answered {id : TaskId} {origin : Origin M H B} {turn : Turn M H B}
    {response : Http.Response B} {intake : List (Exchange M H B)}
    {step : Step (Intake M H B) (Except Error Nat)}
    (hReply : Record.reply? (records ++ [⟨id, before, origin, .ofSending handler turn⟩]) =
      some (response, intake))
    (hStep : intake? turn.step = step.point?)
    (hGave : ∀ contents, Exchange.Reads contents intake →
      Intake.Gave settings.codec handler response contents intake
        (Record.given records ++ (Intake.given? step).toList) step.point?) :
    Gave settings handler (records ++ [⟨id, before, origin, .ofSending handler turn⟩])
      turn.step := by
  rw [Gave, hReply, Record.given_append, given_ofSending, hStep]
  exact hGave

theorem gave_resume {id : TaskId} {point : Sending M H B} {reply : Reply B} {turn : Turn M H B}
    (hStage : Stage settings handler message records (.wait point) before)
    (hGave : Gave settings handler records (.wait point)) (hLeads : before.Leads later)
    (hResume : point.resume settings later handler reply = some turn) :
    Gave settings handler
      (records ++ [⟨id, later, .resumed (.sending handler point) reply, .ofSending handler turn⟩])
      turn.step := by
  have hNext : Stage settings handler message (records ++
      [⟨id, later, .resumed (.sending handler point) reply, .ofSending handler turn⟩])
      turn.step turn.shared := hStage.of_resume hLeads hResume
  have hUnanswered (hReply : Record.reply? records = none) : Record.given records = [] := by
    simpa only [Gave, hReply] using hGave
  cases hStage with
  | @connecting point _ unsent delivery replies gets =>
      obtain ⟨_, hDelivers⟩ := Connecting.not_carries gets
      refine gave_of_unanswered hNext ?_ (hUnanswered ?_)
      · simp [Record.reply?, delivery, Task.wait, wait, hDelivers]
      · simp [Record.reply?, delivery]
  | @posting body _ encodes sent delivery replies =>
      have hGiven := hUnanswered (by simp [Record.reply?, delivery])
      cases resumes hResume with
      | failed own request error =>
          refine gave_of_unanswered hNext ?_ hGiven
          simp [Record.reply?, delivery, Task.wait, wait, Wait.delivers, Wait.isPost]
      | answered own request response =>
          have hReply : Record.reply? (records ++ [⟨id, later,
              .resumed (.sending handler (.posting message (settings.postRequest body)))
                (.answer (.ok response)),
              .ofSending handler (afterIntake settings later message
                (Intake.ofResponse response))⟩]) = some (response, []) := by
            simp [Record.reply?, delivery, Task.wait, wait, Wait.delivers, Wait.isPost]
          refine gave_of_answered hReply (intake?_afterIntake ..) fun contents _ => ?_
          rw [hGiven, List.nil_append]
          exact Intake.gave_ofResponse settings.codec handler response contents
  | @receiving body response intake point _ encodes sent delivery replies takes =>
      obtain ⟨⟨token, step⟩, hStep, rfl⟩ := Option.map_eq_some_iff.mp hResume
      have hDelivers := point.wait_delivers.2
      have hReply : Record.reply? (records ++ [⟨id, later,
          .resumed (.sending handler (.receiving message point)) reply,
          .ofSending handler (afterIntake settings { later with token } message step)⟩]) =
            some (response, intake ++ [(point.wait, reply)]) := by
        simp [Record.reply?, delivery, Task.wait, wait, hDelivers]
      refine gave_of_answered hReply (intake?_afterIntake ..) fun contents hReads => ?_
      simp only [Gave, Record.reply?, delivery] at hGave
      exact Intake.gave_resume (hGave contents hReads.earlier) hReads hStep
  | forwarding first given tripped hasLegacy prelude sent reaches =>
      generalize Exchange.legacyReplies (Record.exchanges records) = replies at reaches
      cases reaches with
      | waits inner split answered failure =>
          obtain ⟨result, rfl, rfl⟩ := legacy_of_resume hResume
          have hIntake : intake? ((inner.resume result).mapPoint .forwarding :
              Step (Sending M H B) (Except Error Unit)) = none := by
            cases inner.resume result <;> rfl
          have hReply : Record.reply? (records ++ [⟨id, later,
              .resumed (.sending handler (.forwarding inner)) (.legacy result),
              .ofSending handler
                ⟨later, (inner.resume result).mapPoint .forwarding, none⟩⟩]) =
                  Record.reply? records := by
            simp [Record.reply?, Task.wait, wait, Forwarding.wait, Wait.delivers, Wait.isPost]
          rw [Gave, hReply, Record.given_append, given_ofSending, hIntake]
          simpa [Gave, intake?] using hGave

end Gave

/-- What a send has given in every run of it. -/
theorem gave_of_life {settings : Settings M} {id : TaskId} {call : Call M H}
    {begun : Shared H} {message : M} {past : List (Record M H B)} {last : Record M H B}
    (hMessage : call.message? = some message) (life : Life settings id call begun past last) :
    ∃ turn : Turn M H B, last.turn = .ofSending (call.replyHandler begun) turn ∧
      Gave settings (call.replyHandler begun) (past ++ [last]) turn.step := by
  let handler := call.replyHandler begun
  have hStart (turn : Turn M H B) (hTurn : turn = start settings begun handler message) :
      Stage settings handler message ([] ++ [⟨id, begun, .began call, .ofSending handler turn⟩])
        turn.step turn.shared :=
    .of_start hTurn (by simp) rfl rfl
  obtain ⟨turn, hTurn, -, hGave⟩ := life.send_induction hMessage rfl
    (motive := fun records step shared =>
      Stage settings handler message records step shared ∧ Gave settings handler records step)
    (fun turn hTurn => ⟨hStart turn hTurn, gave_of_unanswered (hStart turn hTurn) rfl rfl⟩)
    (fun _ _ _ _ _ _ hGave hLeads hResume =>
      ⟨hGave.1.of_resume hLeads hResume, gave_resume hGave.1 hGave.2 hLeads hResume⟩)
  exact ⟨turn, hTurn, hGave⟩

end Sending

namespace System

/-- Messages are given to their own handler alone, in every run. A call is for the handler that
it came with, or for the one that was registered when it was made, and what a send gives goes to
that handler. When the send has returned it has given what dispatching the response to its post
alone would give, if the handler said the same. A stream gives each message that it brings to the
handler of the call that opened it. -/
theorem given_to_owner (settings : Settings M) (before after : List (Action M H B))
    (call : Call M H) :
    let actions := before ++ .call call :: after
    let id := (run settings {} before).1.next
    let owner := call.owner (registered (history settings {} before))
    let records := own id (history settings {} actions)
    (∀ message, call.message? = some message →
      (∀ given ∈ Record.given records, owner = some given.1) ∧
      (Record.results records ≠ [] →
        (Record.reply? records = none → Record.given records = []) ∧
        ∀ response intake contents, Record.reply? records = some (response, intake) →
          Exchange.Reads contents intake →
          Intake.Gives settings.codec owner ⟨response.status, response.headers, contents⟩ intake
            (Record.given records))) ∧
    ∀ streamId, Opens settings actions id streamId →
      let stream := own streamId (history settings {} actions)
      Record.given stream = Record.streams settings.codec owner stream := by
  intro actions id owner records
  have hOwned := owned_of_call settings before after call
  refine ⟨fun message hMessage => ⟨fun given => Record.owner_of_given hOwned, fun hReturned => ?_⟩,
    fun streamId => given_of_opens hOwned⟩
  obtain ⟨past, last, hOwn, life, _⟩ := life_of_began (began_mem settings before after call) rfl
  have hRecords : records = past ++ [last] := hOwn
  obtain ⟨turn, hTurn, hGave⟩ := Sending.gave_of_life hMessage life
  rw [Call.owner_of_message hMessage, handler_run] at hGave
  have hIntake : Sending.intake? turn.step = none := by
    cases hStep : turn.step with
    | done result => rfl
    | wait point =>
        refine absurd ?_ hReturned
        have hPast : Record.results past = [] :=
          List.filterMap_eq_nil_iff.mpr fun record => life.not_returned
        have hLast : last.turn.result? = none := by
          simp [hTurn, Turn.ofSending, Turn.result?, hStep, Step.mapPoint, Step.mapResult]
        rw [hRecords, Record.results_append, hPast]
        simp [Record.results, hLast]
  rw [← hRecords, Sending.Gave, hIntake] at hGave
  refine ⟨fun hReply => ?_, fun response intake contents hReply hReads => ?_⟩
  · simpa only [hReply] using hGave
  · simp only [hReply] at hGave
    exact hGave contents hReads

/-- While a stream is read, a send with a handler of its own returns behind a close. -/
theorem given_to_owner_beside_stream :
    let settings := Settings.plain false
    let response : Http.Response Unit := ⟨200, [("Content-Type", "application/json-seq")], ()⟩
    let opening : List (Action String String Unit) :=
      [.call (.connect "first"), .reply 0 (.answer (.ok response))]
    let closing : List (Action String String Unit) :=
      [.reply 2 (.answer (.ok response)), .reply 1 (.item (some (.ok "news"))),
        .reply 2 (.item (some (.ok "answer"))), .call .close, .reply 2 (.verdict (.ok ())),
        .reply 2 (.item none)]
    let all := history settings {} (opening ++ .call (.sendWith "second" "question") :: closing)
    Record.results (own 2 all) ≠ [] ∧ Record.given (own 2 all) = [("second", "answer")] ∧
      Opens settings (opening ++ .call (.sendWith "second" "question") :: closing) 0 1 ∧
      Record.given (own 1 all) = [("first", "news")] := by
  intro settings response opening closing all
  have hReturned : Record.results (own 2 all) ≠ [] := by decide +kernel
  have hOpens : Opens settings (opening ++ .call (.sendWith "second" "question") :: closing) 0 1 :=
    ⟨[.call (.connect "first")], _, _, _, rfl, rfl, rfl, by decide +kernel, by decide +kernel⟩
  have hId : (run settings {} opening).1.next = 2 := by decide +kernel
  have hSend := (given_to_owner settings opening closing (.sendWith "second" "question")).1
    "question" rfl
  rw [hId] at hSend
  have hStream := (given_to_owner settings [] (.reply 0 (.answer (.ok response)) ::
    .call (.sendWith "second" "question") :: closing) (.connect "first")).2 1 hOpens
  refine ⟨hReturned, ?_, hOpens, ?_⟩
  · have hReply : Record.reply? (own 2 all) = some (response,
        [(.item (), .item (some (.ok "answer"))), (.verdict "second" "answer", .verdict (.ok ())),
          (.item (), .item none)]) := by decide +kernel
    have hReads : Exchange.Reads [.ok "answer"]
        ([(.item (), .item (some (.ok "answer"))), (.verdict "second" "answer", .verdict (.ok ())),
          (.item (), .item none)] : List (Exchange String String Unit)) := by
      intro before body item after hSplit
      rcases before with _ | ⟨_, _ | ⟨_, _ | ⟨_, before⟩⟩⟩
      · cases hSplit
        rfl
      · cases hSplit
      · cases hSplit
        rfl
      · simp at hSplit
    have hGives := (hSend.2 hReturned).2 _ _ _ hReply hReads
    exact hGives.given.trans (by decide +kernel)
  · exact hStream.trans (by decide +kernel)

end System

end RpcTransport.Transport
