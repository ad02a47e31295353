import RpcTransport.Decoder.Run
import RpcTransport.Proofs.Conversation

/-! Taking in a body item by item comes to the same as decoding it at once. -/
namespace RpcTransport

namespace Decoder

variable {M : Type}

/-- Messages are handed over one by one while they are accepted. -/
theorem deliver_of_accepts {handler : Handler M} {seen messages : List M}
    (h : ∀ n message, n < seen.length + messages.length → handler n message = .ok ()) :
    deliver handler seen messages = (seen ++ messages, .ok ()) := by
  induction messages generalizing seen with
  | nil => rw [deliver, List.append_nil]
  | cons message messages ih =>
      have hFirst : handler seen.length message = .ok () := h _ _ (by simp)
      rw [deliver, hFirst]
      show deliver handler (seen ++ [message]) messages = _
      rw [ih fun n other hLess => h n other (by simp at hLess ⊢; omega), List.append_assoc]
      rfl

theorem deliver_all {handler : Handler M} (h : ∀ n message, handler n message = .ok ())
    (seen messages : List M) : deliver handler seen messages = (seen ++ messages, .ok ()) :=
  deliver_of_accepts fun n message _ => h n message

theorem deliver_append (handler : Handler M) (seen first more : List M) :
    deliver handler seen (first ++ more) =
      match deliver handler seen first with
      | (all, .ok ()) => deliver handler all more
      | (all, .error error) => (all, .error error) := by
  induction first generalizing seen with
  | nil => rfl
  | cons message first ih =>
      rw [List.cons_append, deliver, deliver]
      cases handler seen.length message with
      | ok => exact ih _
      | error error => rfl

/-- Hands over the messages of an item and goes on behind them. -/
def handOver (setting : Setting M) (next : Option Reader) (asked : Nat) (seen : List M)
    (token : ResumptionToken) (messages : List M) (id : Option String)
    (rest : List BodyItem) : Outcome M :=
  match deliver setting.handler seen messages, next with
  | (seen, .ok ()), some next => run setting next asked seen (token.record id) rest
  | (seen, .ok ()), none => .ended seen (token.record id) (.ok ())
  | (seen, .error error), _ => .ended seen token (.error error)

section HandOver

variable {setting : Setting M} {next : Option Reader} {asked : Nat} {seen : List M}
  {token : ResumptionToken} {id : Option String} {rest : List BodyItem}

theorem handOver_accepted {message : M} {messages : List M}
    (h : setting.handler seen.length message = .ok ()) :
    handOver setting next asked seen token (message :: messages) id rest =
      handOver setting next asked (seen ++ [message]) token messages id rest := by
  simp [handOver, deliver, h]

theorem handOver_refused {message : M} {messages : List M} {error : Error}
    (h : setting.handler seen.length message = .error error) :
    handOver setting next asked seen token (message :: messages) id rest =
      .ended seen token (.error error) := by
  simp [handOver, deliver, h]

/-- Without a handler all messages are accepted. -/
theorem handOver_silent (h : ∀ n message, setting.handler n message = .ok ())
    (messages : List M) :
    handOver setting next asked seen token messages id rest =
      handOver setting next asked (seen ++ messages) token [] id rest := by
  unfold handOver
  rw [deliver_all h]
  rfl

/-- Nothing follows the last messages of a body. -/
theorem handOver_none (asked other : Nat) (messages : List M) :
    handOver setting none asked seen token messages id rest =
      handOver setting none other seen token messages id [] := by
  unfold handOver
  rcases deliver setting.handler seen messages with ⟨seen, error | _⟩ <;> rfl

end HandOver

namespace Reader

/-- A reader that does not ask is not stopped. -/
theorem accept_of_not_asks {codec : Codec M} {reader : Reader} {item : Option BodyItem}
    (h : reader.asks item = false) (stopped other : Bool) :
    reader.accept codec stopped item = reader.accept codec other item := by
  rcases reader with text | _ | draft <;> rcases item with _ | (error | line) <;>
    first | rfl | cases h

/-- The end of a body is the end of its decoding. -/
theorem accept_end (codec : Codec M) (stopped : Bool) (reader : Reader) :
    (∃ messages id, reader.accept codec stopped none = .messages messages id none) ∨
      ∃ result, reader.accept codec stopped none = .finished result := by
  rcases reader with text | _ | draft
  · simp only [accept]
    split
    · exact Or.inr ⟨_, rfl⟩
    · split
      · exact Or.inl ⟨_, _, rfl⟩
      · exact Or.inr ⟨_, rfl⟩
  · exact Or.inr ⟨_, rfl⟩
  · simp only [accept, ofFrame]
    split
    · exact Or.inr ⟨_, rfl⟩
    · split
      · split
        · exact Or.inl ⟨_, _, rfl⟩
        · exact Or.inr ⟨_, rfl⟩
      · exact Or.inr ⟨_, rfl⟩

end Reader

theorem run_end {setting : Setting M} {reader : Reader} {asked : Nat} {seen : List M}
    {token : ResumptionToken} :
    run setting reader asked seen token [] =
      match reader.accept setting.codec (setting.stop asked) none with
      | .more _ => .ended seen token (.ok ())
      | .messages messages id _ => handOver setting none asked seen token messages id []
      | .finished result => .ended seen token result := by
  rw [run]
  cases reader.accept setting.codec (setting.stop asked) none with
  | more next => rfl
  | messages messages id next =>
      simp only [handOver]
      rcases deliver setting.handler seen messages with ⟨seen, error | _⟩ <;> rfl
  | finished result => rfl

theorem run_item {setting : Setting M} {reader : Reader} {asked : Nat} {seen : List M}
    {token : ResumptionToken} {item : BodyItem} {rest : List BodyItem} :
    run setting reader asked seen token (item :: rest) =
      let asked' := asked + (reader.asks (some item)).toNat
      match reader.accept setting.codec (setting.stop asked) (some item) with
      | .more next => run setting next asked' seen token rest
      | .messages messages id next => handOver setting next asked' seen token messages id rest
      | .finished result => .ended seen token result := by
  have hAsked : (if reader.asks (some item) then asked + 1 else asked) =
      asked + (reader.asks (some item)).toNat := by
    cases reader.asks (some item) <;> rfl
  rw [run, hAsked]
  rfl

end Decoder

namespace Transport

variable {M H B : Type}

namespace Intake

open Decoder

/-- What becomes of a decoding from a step on, given the rest of the body. -/
def outcome (setting : Setting M) (asked : Nat) (seen : List M) (token : ResumptionToken)
    (rest : List BodyItem) : Step (Intake M H B) (Except Error Nat) → Outcome M
  | .wait (.reading _ reader _) => run setting reader asked seen token rest
  | .wait (.handing _ message messages id _ next _) =>
    handOver setting next asked seen token (message :: messages) id rest
  | .done result => ⟨seen, token, result⟩

/-- A rest that can still come behind a step. -/
def Continues (rest : List BodyItem) : Step (Intake M H B) (Except Error Nat) → Prop
  | .wait (.reading _ _ _) => True
  | .wait (.handing _ _ _ _ _ next _) => next = none → rest = []
  | .done _ => rest = []

/-- The number of accepted messages is kept, and messages wait for the handler of
the decoding alone. -/
def Accounts (handler : Option H) (handled : Nat) :
    Step (Intake M H B) (Except Error Nat) → Prop
  | .wait (.reading _ _ count) => count = handled
  | .wait (.handing owner _ _ _ _ _ count) => count = handled ∧ handler = some owner
  | .done _ => True

/-- How often the reader asks whether to stop. -/
def asks : Intake M H B → Reply B → Nat
  | .reading _ reader _, .item item => (reader.asks item).toNat
  | _, _ => 0

/-- Taking in a body neither posts nor forwards. -/
theorem wait_delivers (point : Intake M H B) :
    point.wait.carries = false ∧ point.wait.delivers = true := by
  cases point <;> exact ⟨rfl, rfl⟩

/-- What a setting has to answer so that its decoding goes the way of a step. -/
structure Fits (setting : Setting M) (codec : Codec M) (stopped : Bool) (handler : Option H)
    (asked : Nat) (seen : List M) (point : Intake M H B) (reply : Reply B) : Prop where
  codec : setting.codec = codec
  silent : handler = none → ∀ n message, setting.handler n message = .ok ()
  stop : point.asks reply ≠ 0 → setting.stop asked = stopped
  verdict : ∀ result, Exchange.verdict? (point.wait, reply) = some result →
    ∀ message, setting.handler seen.length message = result

section Steps

variable {setting : Setting M} {codec : Codec M} {stopped : Bool} {handler : Option H}
  {asked : Nat} {seen : List M} {token next : ResumptionToken} {rest : List BodyItem}
  {step : Step (Intake M H B) (Except Error Nat)}

theorem outcome_proceed (body : B) (reader : Option Reader) (id : Option String) :
    outcome setting asked seen (token.record id) rest
        (proceed body reader seen.length : Step (Intake M H B) (Except Error Nat)) =
      handOver setting reader asked seen token [] id rest := by
  cases reader <;> rfl

theorem accounts_proceed (body : B) (reader : Option Reader) :
    Accounts handler seen.length
      (proceed body reader seen.length : Step (Intake M H B) (Except Error Nat)) := by
  cases reader <;> trivial

theorem continues_proceed {body : B} {reader : Option Reader} {handled : Nat}
    (h : Continues rest (proceed body reader handled : Step (Intake M H B) (Except Error Nat)))
    (hEnd : reader = none) : rest = [] := by
  subst hEnd
  exact h

/-- Messages go to the handler one by one, or are accepted all at once. -/
theorem outcome_offer {messages : List M} {id : Option String} {body : B}
    {reader : Option Reader}
    (hSilent : handler = none → ∀ n message, setting.handler n message = .ok ())
    (h : offer handler token messages id body reader seen.length = (next, step)) :
    ∃ all, Accounts handler all.length step ∧ (handler ≠ none → all = seen) ∧
      ∀ rest, outcome setting asked all next rest step =
        handOver setting reader asked seen token messages id rest ∧
      (Continues rest step → reader = none → rest = []) := by
  cases handler with
  | none =>
      cases h
      rw [← List.length_append]
      refine ⟨seen ++ messages, accounts_proceed body reader, fun h => absurd rfl h,
        fun rest => ⟨?_, continues_proceed⟩⟩
      rw [handOver_silent (hSilent rfl)]
      exact outcome_proceed body reader id
  | some handler =>
      cases messages with
      | nil =>
          cases h
          exact ⟨seen, accounts_proceed body reader, fun _ => rfl,
            fun rest => ⟨outcome_proceed body reader id, continues_proceed⟩⟩
      | cons message messages =>
          cases h
          exact ⟨seen, ⟨rfl, rfl⟩, fun _ => rfl, fun rest => ⟨rfl, fun hRest => hRest⟩⟩

theorem outcome_reading {body : B} {reader : Reader} {item : Option BodyItem}
    (hCodec : setting.codec = codec)
    (hSilent : handler = none → ∀ n message, setting.handler n message = .ok ())
    (hStop : reader.asks item = true → setting.stop asked = stopped)
    (h : (reading body reader seen.length).resume codec stopped handler token (.item item) =
      some (next, step)) :
    ∃ all, Accounts handler all.length step ∧ (handler ≠ none → all = seen) ∧
      ∀ rest, Continues rest step →
        outcome setting (asked + (reader.asks item).toNat) all next rest step =
          run setting reader asked seen token (item.toList ++ rest) := by
  have hAccept : reader.accept setting.codec (setting.stop asked) item =
      reader.accept codec stopped item := by
    rw [hCodec]
    cases hAsks : reader.asks item with
    | false => exact Reader.accept_of_not_asks hAsks _ _
    | true => rw [hStop hAsks]
  rw [resume, ← hAccept] at h
  cases item with
  | none =>
      rw [Option.toList_none]
      rcases Reader.accept_end setting.codec (setting.stop asked) reader with
        ⟨messages, id, hEnd⟩ | ⟨result, hEnd⟩
      · rw [hEnd] at h
        obtain ⟨all, hAccounts, hSeen, hAll⟩ := outcome_offer hSilent (Option.some.inj h)
        refine ⟨all, hAccounts, hSeen, ?_⟩
        intro rest hRest
        obtain ⟨hOutcome, hOver⟩ := hAll rest
        rw [hOutcome, hOver hRest rfl, List.append_nil, run_end, hEnd]
        exact handOver_none _ _ messages
      · rw [hEnd] at h
        cases h
        refine ⟨seen, trivial, fun _ => rfl, fun rest (hNil : rest = []) => ?_⟩
        rw [hNil, List.append_nil, run_end, hEnd]
        rfl
  | some item =>
      rw [Option.toList_some]
      cases hItem : reader.accept setting.codec (setting.stop asked) (some item) with
      | more following =>
          rw [hItem] at h
          cases h
          refine ⟨seen, rfl, fun _ => rfl, ?_⟩
          intro rest _
          rw [List.singleton_append, run_item, hItem]
          rfl
      | messages messages id following =>
          rw [hItem] at h
          obtain ⟨all, hAccounts, hSeen, hAll⟩ := outcome_offer hSilent (Option.some.inj h)
          refine ⟨all, hAccounts, hSeen, ?_⟩
          intro rest _
          rw [(hAll rest).1, List.singleton_append, run_item, hItem]
      | finished result =>
          rw [hItem] at h
          cases h
          refine ⟨seen, trivial, fun _ => rfl, ?_⟩
          intro rest _
          rw [List.singleton_append, run_item, hItem]
          rfl

theorem outcome_handing {owner : H} {message : M} {messages : List M} {id : Option String}
    {body : B} {reader : Option Reader} {verdict : Except Error Unit}
    (hVerdict : setting.handler seen.length message = verdict)
    (h : (handing owner message messages id body reader seen.length).resume codec stopped handler
      token (.verdict verdict) = some (next, step)) :
    ∃ all, Accounts (some owner) all.length step ∧
      all = seen ++ (match verdict with | .ok () => [message] | .error _ => []) ∧
      ∀ rest, Continues rest step → (reader = none → rest = []) ∧
        outcome setting asked all next rest step =
          handOver setting reader asked seen token (message :: messages) id rest := by
  rcases verdict with error | _
  · cases h
    exact ⟨seen, trivial, (List.append_nil seen).symm,
      fun rest hRest => ⟨fun _ => hRest, (handOver_refused hVerdict).symm⟩⟩
  · have hOffer : offer (some owner) token messages id body reader (seen ++ [message]).length =
        (next, step) := by
      rw [List.length_append]
      exact Option.some.inj h
    have hSilent : some owner = none → ∀ n message, setting.handler n message = .ok () := nofun
    obtain ⟨all, hAccounts, hSeen, hAll⟩ := outcome_offer hSilent hOffer
    refine ⟨all, hAccounts, hSeen nofun, fun rest hRest => ⟨(hAll rest).2 hRest, ?_⟩⟩
    rw [handOver_accepted hVerdict]
    exact (hAll rest).1

/-- A step of the intake does not change what becomes of the decoding. -/
theorem outcome_resume {point : Intake M H B} {reply : Reply B}
    (hFits : Fits setting codec stopped handler asked seen point reply)
    (hAccounts : Accounts handler seen.length (.wait point))
    (h : point.resume codec stopped handler token reply = some (next, step)) :
    let items := (Exchange.item? (point.wait, reply)).toList
    ∃ all, Accounts handler all.length step ∧
      (handler ≠ none → all = seen ++
        ((Exchange.accepted? (point.wait, reply)).map Prod.snd).toList) ∧
      ∀ rest, Continues rest step → Continues (items ++ rest) (.wait point) ∧
        outcome setting (asked + point.asks reply) all next rest step =
          outcome setting asked seen token (items ++ rest) (.wait point) := by
  cases point with
  | reading body reader handled =>
      obtain ⟨item, rfl⟩ := item_of_resume h
      cases hAccounts
      obtain ⟨all, hCount, hSeen, hAll⟩ := outcome_reading hFits.codec hFits.silent
        (fun hAsks => hFits.stop (by simp [asks, hAsks])) h
      exact ⟨all, hCount, fun hSome => by simpa [Exchange.accepted?] using hSeen hSome,
        fun rest hRest => ⟨trivial, hAll rest hRest⟩⟩
  | handing owner message messages id body reader handled =>
      obtain ⟨verdict, rfl⟩ := verdict_of_resume h
      obtain ⟨rfl, rfl⟩ := hAccounts
      obtain ⟨all, hCount, hSeen, hAll⟩ := outcome_handing (hFits.verdict verdict rfl message) h
      refine ⟨all, hCount, ?_, hAll⟩
      intro _
      rw [hSeen]
      rcases verdict with error | _ <;> rfl

/-- Only the token that is left depends on the token that was there. -/
theorem resume_other_token {point : Intake M H B} {reply : Reply B}
    (h : point.resume codec stopped handler token reply = some (next, step))
    (other : ResumptionToken) :
    ∃ later, point.resume codec stopped handler other reply = some (later, step) := by
  have hOffer (owner : Option H) (messages : List M) (id : Option String) (body : B)
      (reader : Option Reader) (handled : Nat) :
      (offer owner token messages id body reader handled).2 =
        (offer owner other messages id body reader handled).2 := by
    rcases owner with _ | owner <;> rcases messages with _ | ⟨message, messages⟩ <;> rfl
  have hSame : (point.resume codec stopped handler token reply).map Prod.snd =
      (point.resume codec stopped handler other reply).map Prod.snd := by
    unfold resume
    split
    · split
      · rfl
      · exact congrArg some (hOffer _ _ _ _ _ _)
      · rfl
    · split
      · exact congrArg some (hOffer _ _ _ _ _ _)
      · rfl
    · rfl
  rw [h] at hSame
  obtain ⟨⟨later, _⟩, hOther, rfl⟩ := Option.map_eq_some_iff.mp hSame.symm
  exact ⟨later, hOther⟩

/-- A message that is refused ends the decoding. -/
theorem accepted_of_wait {point later : Intake M H B} {reply : Reply B}
    (h : point.resume codec stopped handler token reply = some (next, .wait later)) :
    (Exchange.accepted? (point.wait, reply)).toList.length =
      (Exchange.verdict? (point.wait, reply)).toList.length := by
  cases point with
  | reading body reader handled => rfl
  | handing owner message messages id body reader handled =>
      obtain ⟨verdict, rfl⟩ := verdict_of_resume h
      cases verdict with
      | error error => cases h
      | ok _ => rfl

end Steps

/-- A decoding whose handler says what it said before, and nothing without one. -/
def replay (codec : Codec M) (handler : Option H) (verdicts : List (Except Error Unit)) :
    Setting M where
  codec := codec
  handler n _ := match handler with
    | some _ => verdicts[n]?.getD (.ok ())
    | none => .ok ()

/-- The exchanges so far are the beginning of a decoding that has come to the step. -/
def Follows (codec : Codec M) (handler : Option H) (decoder : Decoder)
    (exchanges : List (Exchange M H B)) (step : Step (Intake M H B) (Except Error Nat)) : Prop :=
  ∀ verdicts, Exchange.verdicts exchanges <+: verdicts → ∃ asked seen token,
    Accounts handler seen.length step ∧
    Exchange.accepted exchanges = handler.toList.flatMap (fun owner => seen.map (owner, ·)) ∧
    (∀ point, step = .wait point → handler ≠ none →
      (Exchange.verdicts exchanges).length = seen.length) ∧
    ∀ rest, Continues rest step →
      outcome (replay codec handler verdicts) asked seen token rest step =
        decode (replay codec handler verdicts) none decoder (Exchange.items exchanges ++ rest)

theorem follows_start (codec : Codec M) (handler : Option H) (decoder : Decoder) (body : B) :
    Follows codec handler decoder [] (.wait (.start decoder body)) :=
  fun _ _ => ⟨0, [], none, rfl, by cases handler <;> rfl, fun _ _ _ => rfl, fun _ _ => rfl⟩

/-- The replay says again what a handler says in the next exchange. -/
theorem fits_replay {codec : Codec M} {handler : Option H} (asked : Nat) {seen : List M}
    {point : Intake M H B} {reply : Reply B} {earlier verdicts : List (Except Error Unit)}
    (hVerdicts : earlier ++ (Exchange.verdict? (point.wait, reply)).toList <+: verdicts)
    (hAccounts : Accounts handler seen.length (.wait point))
    (hJudged : handler ≠ none → earlier.length = seen.length) :
    Fits (replay codec handler verdicts) codec false handler asked seen point reply := by
  refine ⟨rfl, ?_, fun _ => rfl, ?_⟩
  · intro hNone n message
    rw [hNone]
    rfl
  · intro result hResult message
    cases point with
    | reading body reader handled => cases hResult
    | handing owner handed messages id body reader handled =>
        obtain ⟨-, rfl⟩ := hAccounts
        obtain ⟨later, rfl⟩ := hVerdicts
        have hLength : earlier.length = seen.length := hJudged nofun
        simp [replay, hResult, ← hLength]

/-- An accepted message has gone to the handler of the decoding. -/
theorem accepted_of_accounts {handler : Option H} {seen : List M} {point : Intake M H B}
    {reply : Reply B} (h : Accounts handler seen.length (.wait point)) :
    (Exchange.accepted? (point.wait, reply)).toList =
      handler.toList.flatMap fun owner =>
        ((Exchange.accepted? (point.wait, reply)).map Prod.snd).toList.map (owner, ·) := by
  cases point with
  | reading body reader handled => cases handler <;> rfl
  | handing owner message messages id body reader handled =>
      obtain ⟨rfl, rfl⟩ := h
      rcases reply with answer | _ | item | (error | _) | legacy <;> rfl

theorem follows_resume {codec : Codec M} {handler : Option H} {decoder : Decoder}
    {exchanges : List (Exchange M H B)} {point : Intake M H B} {reply : Reply B}
    {token next : ResumptionToken} {step : Step (Intake M H B) (Except Error Nat)}
    (h : Follows codec handler decoder exchanges (.wait point))
    (hResume : point.resume codec false handler token reply = some (next, step)) :
    Follows codec handler decoder (exchanges ++ [(point.wait, reply)]) step := by
  intro verdicts hVerdicts
  rw [Exchange.verdicts_concat] at hVerdicts
  obtain ⟨asked, seen, own, hAccounts, hAccepted, hJudged, hOutcome⟩ :=
    h verdicts ((List.prefix_append _ _).trans hVerdicts)
  obtain ⟨later, hLater⟩ := resume_other_token hResume own
  obtain ⟨all, hCount, hSeen, hAll⟩ :=
    outcome_resume (fits_replay asked hVerdicts hAccounts (hJudged point rfl)) hAccounts hLater
  refine ⟨asked + point.asks reply, all, later, hCount, ?_, ?_, ?_⟩
  · rw [Exchange.accepted_concat, hAccepted, accepted_of_accounts hAccounts]
    cases handler with
    | none => rfl
    | some owner => simp [hSeen]
  · intro following hStep hSome
    subst hStep
    have hSame := accepted_of_wait hLater
    rw [Exchange.verdicts_concat, List.length_append, hJudged point rfl hSome, ← hSame,
      hSeen hSome, List.length_append]
    cases Exchange.accepted? (point.wait, reply) <;> rfl
  · intro rest hRest
    obtain ⟨hContinues, hSame⟩ := hAll rest hRest
    rw [hSame, hOutcome _ hContinues, Exchange.items_concat, List.append_assoc]

/-- A decoding that is over has come to what it comes to at once. -/
theorem Follows.decode_eq {codec : Codec M} {handler : Option H} {decoder : Decoder}
    {exchanges : List (Exchange M H B)} {result : Except Error Nat}
    (h : Follows codec handler decoder exchanges (.done result)) :
    let outcome := decode (replay codec handler (Exchange.verdicts exchanges)) none decoder
      (Exchange.items exchanges)
    outcome.result = result ∧
      Exchange.accepted exchanges =
        handler.toList.flatMap fun owner => outcome.seen.map (owner, ·) := by
  obtain ⟨asked, seen, token, _, hAccepted, _, hOutcome⟩ := h _ (List.prefix_refl _)
  have hDecode := hOutcome [] rfl
  rw [List.append_nil] at hDecode
  rw [← hDecode]
  exact ⟨rfl, hAccepted⟩

/-- Where the taking in of a response stands behind the exchanges: at a wait of its
decoding, or at what dispatching it comes to. -/
def Takes (codec : Codec M) (handler : Option H) (response : Http.Response B)
    (exchanges : List (Exchange M H B)) : Step (Intake M H B) (Except Error Nat) → Prop
  | .wait point => ∃ decoder, select response = .ok (some decoder) ∧
      Follows codec handler decoder exchanges (.wait point)
  | .done result =>
    let outcome := dispatch (replay codec handler (Exchange.verdicts exchanges)) none
      ⟨response.status, response.headers, Exchange.items exchanges⟩
    outcome.result = result ∧
      Exchange.accepted exchanges =
        handler.toList.flatMap fun owner => outcome.seen.map (owner, ·)

theorem takes_ofResponse (codec : Codec M) (handler : Option H) (response : Http.Response B) :
    Takes codec handler response [] (ofResponse response) := by
  have hSame : select (⟨response.status, response.headers, []⟩ : Http.Response (List BodyItem)) =
      select response := rfl
  unfold ofResponse
  split
  · rename_i decoder hSelect
    exact ⟨decoder, hSelect, follows_start codec handler decoder response.body⟩
  · rename_i hSelect
    rw [hSelect] at hSame
    simp only [Takes, dispatch, Exchange.items, List.filterMap_nil, hSame]
    cases handler <;> exact ⟨trivial, rfl⟩
  · rename_i error hSelect
    rw [hSelect] at hSame
    simp only [Takes, dispatch, Exchange.items, List.filterMap_nil, hSame]
    cases handler <;> exact ⟨trivial, rfl⟩

theorem takes_resume {codec : Codec M} {handler : Option H} {response : Http.Response B}
    {exchanges : List (Exchange M H B)} {point : Intake M H B} {reply : Reply B}
    {token next : ResumptionToken} {step : Step (Intake M H B) (Except Error Nat)}
    (h : Takes codec handler response exchanges (.wait point))
    (hResume : point.resume codec false handler token reply = some (next, step)) :
    Takes codec handler response (exchanges ++ [(point.wait, reply)]) step := by
  obtain ⟨decoder, hSelect, hFollows⟩ := h
  have hNext := follows_resume hFollows hResume
  cases step with
  | wait later => exact ⟨decoder, hSelect, hNext⟩
  | done result =>
      have hSame : select (⟨response.status, response.headers,
          Exchange.items (exchanges ++ [(point.wait, reply)])⟩ : Http.Response (List BodyItem)) =
          .ok (some decoder) := hSelect
      simp only [Takes, dispatch, hSame]
      exact hNext.decode_eq

end Intake

end Transport

end RpcTransport
