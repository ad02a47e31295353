import RpcTransport.Proofs.Decoding

/-! What a decoding does, one thing after the other, and what is left of it when it is told to stop. -/
namespace RpcTransport.Decoder

variable {M : Type}

/-- What a decoding does. -/
inductive Deed (M : Type) where
  | asked (stop : Bool)
  | gave (message : M) (verdict : Except Error Unit)
  | recorded (id : String)

namespace Deed

def answer? : Deed M → Option Bool
  | .asked stop => some stop
  | _ => none

def given? : Deed M → Option M
  | .gave message _ => some message
  | _ => none

def accepted? : Deed M → Option M
  | .gave message (.ok ()) => some message
  | _ => none

def advance (token : ResumptionToken) : Deed M → ResumptionToken
  | .recorded id => token.advance id
  | _ => token

/-- The answers to the questions whether to stop. -/
def answers (deeds : List (Deed M)) : List Bool :=
  deeds.filterMap answer?

/-- The messages that were given to the handler. -/
def given (deeds : List (Deed M)) : List M :=
  deeds.filterMap given?

/-- The messages that the handler accepted. -/
def accepted (deeds : List (Deed M)) : List M :=
  deeds.filterMap accepted?

/-- The token behind what was done. -/
def tokenBehind (token : ResumptionToken) (deeds : List (Deed M)) : ResumptionToken :=
  deeds.foldl advance token

@[simp] theorem answers_append (first rest : List (Deed M)) :
    answers (first ++ rest) = answers first ++ answers rest :=
  List.filterMap_append

@[simp] theorem given_append (first rest : List (Deed M)) :
    given (first ++ rest) = given first ++ given rest :=
  List.filterMap_append

@[simp] theorem accepted_append (first rest : List (Deed M)) :
    accepted (first ++ rest) = accepted first ++ accepted rest :=
  List.filterMap_append

@[simp] theorem tokenBehind_append (token : ResumptionToken) (first rest : List (Deed M)) :
    tokenBehind token (first ++ rest) = tokenBehind (tokenBehind token first) rest :=
  List.foldl_append

end Deed

/-- Asks whether to stop, if the reader asks at an item. -/
def asking (setting : Setting M) (reader : Reader) (asked : Nat) (item : Option BodyItem) :
    List (Deed M) :=
  if reader.asks item then [.asked (setting.stop asked)] else []

/-- Gives messages to the handler until one is refused. -/
def giving (handler : Handler M) (seen : List M) : List M → List (Deed M)
  | [] => []
  | message :: rest =>
    .gave message (handler seen.length message) ::
      match handler seen.length message with
      | .ok () => giving handler (seen ++ [message]) rest
      | .error _ => []

/-- Gives the messages of an item to the handler. If all are accepted, it records the id and
goes on. -/
def handing (handler : Handler M) (seen messages : List M) (id : Option String)
    (rest : List M → List (Deed M)) : List (Deed M) :=
  giving handler seen messages ++
    match deliver handler seen messages with
    | (all, .ok ()) => id.toList.map .recorded ++ rest all
    | (_, .error _) => []

/-- What is done with the rest of a body. -/
def deeds (setting : Setting M) (reader : Reader) (asked : Nat) (seen : List M) :
    List BodyItem → List (Deed M)
  | [] =>
    asking setting reader asked none ++
      match reader.accept setting.codec (setting.stop asked) none with
      | .messages messages id _ => handing setting.handler seen messages id fun _ => []
      | _ => []
  | item :: rest =>
    let asked' := asked + (reader.asks (some item)).toNat
    asking setting reader asked (some item) ++
      match reader.accept setting.codec (setting.stop asked) (some item) with
      | .more next => deeds setting next asked' seen rest
      | .messages messages id next =>
        handing setting.handler seen messages id fun all =>
          next.elim [] (deeds setting · asked' all rest)
      | .finished _ => []

section Telling

/-- An outcome is what can be read off the deeds that led to it, when some messages had been
accepted before. -/
structure Outcome.Tells (outcome : Outcome M) (seen : List M) (token : ResumptionToken)
    (deeds : List (Deed M)) : Prop where
  seen_eq : outcome.seen = seen ++ Deed.accepted deeds
  token_eq : outcome.token = Deed.tokenBehind token deeds
  count_eq : ∀ count, outcome.result = .ok count → count = (seen ++ Deed.given deeds).length

variable {handler : Handler M} {seen all messages : List M} {token : ResumptionToken}

theorem accepted_giving (handler : Handler M) (seen messages : List M) :
    seen ++ Deed.accepted (giving handler seen messages) =
      (deliver handler seen messages).1 := by
  induction messages generalizing seen with
  | nil => exact List.append_nil seen
  | cons message messages ih =>
      cases hVerdict : handler seen.length message with
      | ok => simp [giving, deliver, hVerdict, Deed.accepted, Deed.accepted?, ← ih]
      | error error => simp [giving, deliver, hVerdict, Deed.accepted, Deed.accepted?]

/-- Where all messages are accepted, all are given. -/
theorem given_giving (h : deliver handler seen messages = (all, .ok ())) :
    seen ++ Deed.given (giving handler seen messages) = all := by
  induction messages generalizing seen with
  | nil =>
      cases h
      exact List.append_nil _
  | cons message messages ih =>
      cases hVerdict : handler seen.length message with
      | ok =>
          simp only [deliver, hVerdict] at h
          simp [giving, hVerdict, Deed.given, Deed.given?, ← ih h]
      | error error => simp [deliver, hVerdict] at h

theorem tokenBehind_giving (handler : Handler M) (seen messages : List M)
    (token : ResumptionToken) :
    Deed.tokenBehind token (giving handler seen messages) = token := by
  induction messages generalizing seen with
  | nil => rfl
  | cons message messages ih =>
      cases hVerdict : handler seen.length message with
      | ok => simpa [giving, hVerdict, Deed.tokenBehind, Deed.advance] using ih _
      | error error => simp [giving, hVerdict, Deed.tokenBehind, Deed.advance]

theorem answers_giving (handler : Handler M) (seen messages : List M) :
    Deed.answers (giving handler seen messages) = [] := by
  induction messages generalizing seen with
  | nil => rfl
  | cons message messages ih =>
      cases hVerdict : handler seen.length message with
      | ok => simpa [giving, hVerdict, Deed.answers, Deed.answer?] using ih _
      | error error => simp [giving, hVerdict, Deed.answers, Deed.answer?]

theorem Outcome.Tells.ended (seen : List M) (token : ResumptionToken) (result : Except Error Unit) :
    (Outcome.ended seen token result).Tells seen token [] := by
  refine ⟨(List.append_nil seen).symm, rfl, fun count hCount => ?_⟩
  cases result with
  | error error => cases hCount
  | ok => simpa [Outcome.ended, Except.map, Deed.given] using hCount.symm

/-- Deeds come before the others if every message that was given has been accepted. -/
theorem Outcome.Tells.after {outcome : Outcome M} {first rest : List (Deed M)}
    (h : outcome.Tells all (Deed.tokenBehind token first) rest)
    (hAccepted : seen ++ Deed.accepted first = all) (hGiven : seen ++ Deed.given first = all) :
    outcome.Tells seen token (first ++ rest) := by
  refine ⟨?_, ?_, fun count hCount => ?_⟩
  · rw [h.seen_eq, Deed.accepted_append, ← List.append_assoc, hAccepted]
  · rw [h.token_eq, Deed.tokenBehind_append]
  · rw [h.count_eq count hCount, Deed.given_append, ← List.append_assoc, hGiven]

theorem Outcome.Tells.after_asking {outcome : Outcome M} {setting : Setting M} {reader : Reader}
    {asked : Nat} {item : Option BodyItem} {rest : List (Deed M)}
    (h : outcome.Tells seen token rest) :
    outcome.Tells seen token (asking setting reader asked item ++ rest) := by
  unfold asking
  split
  · exact .after h (List.append_nil _) (List.append_nil _)
  · exact h

theorem Outcome.Tells.after_recording {outcome : Outcome M} {id : Option String}
    {rest : List (Deed M)} (h : outcome.Tells seen (token.record id) rest) :
    outcome.Tells seen token (id.toList.map .recorded ++ rest) := by
  cases id with
  | none => exact h
  | some id => exact .after h (List.append_nil _) (List.append_nil _)

variable {setting : Setting M} {next : Option Reader} {asked : Nat} {id : Option String}
  {rest : List BodyItem} {after : List M → List (Deed M)}

theorem tells_handOver
    (hNext : ∀ reader, next = some reader → ∀ all token,
      (run setting reader asked all token rest).Tells all token (after all))
    (hEnd : next = none → ∀ all, after all = []) :
    (handOver setting next asked seen token messages id rest).Tells seen token
      (handing setting.handler seen messages id after) := by
  have hSeen := accepted_giving setting.handler seen messages
  have hToken := tokenBehind_giving setting.handler seen messages token
  unfold handOver handing
  rcases hDeliver : deliver setting.handler seen messages with ⟨all, error | _⟩
  · rw [hDeliver] at hSeen
    rw [List.append_nil]
    exact ⟨hSeen.symm, hToken.symm, nofun⟩
  · rw [hDeliver] at hSeen
    refine .after ?_ hSeen (given_giving hDeliver)
    rw [hToken]
    refine .after_recording ?_
    cases next with
    | some reader => exact hNext reader rfl all _
    | none =>
        rw [hEnd rfl all]
        exact .ended all _ _

theorem tells_run (reader : Reader) (asked : Nat) (seen : List M) (token : ResumptionToken)
    (body : List BodyItem) :
    (run setting reader asked seen token body).Tells seen token
      (deeds setting reader asked seen body) := by
  induction body generalizing reader asked seen token with
  | nil =>
      rw [run_end, deeds]
      refine .after_asking ?_
      cases reader.accept setting.codec (setting.stop asked) none with
      | more next => exact .ended seen token _
      | messages messages id next => exact tells_handOver nofun fun _ _ => rfl
      | finished result => exact .ended seen token result
  | cons item rest ih =>
      rw [run_item, deeds]
      refine .after_asking ?_
      cases reader.accept setting.codec (setting.stop asked) (some item) with
      | more next => exact ih ..
      | messages messages id next =>
          refine tells_handOver (fun reader hReader all token => ?_) fun hNone _ => ?_
          · rw [hReader]
            exact ih ..
          · rw [hNone]
            rfl
      | finished result => exact .ended seen token result

end Telling

section Asking

variable {setting : Setting M} {reader : Reader} {asked : Nat} {item : Option BodyItem}
  {seen messages : List M} {id : Option String}

/-- The answers are those of the setting, one after the other. -/
def Asks (setting : Setting M) (asked : Nat) (deeds : List (Deed M)) : Prop :=
  ∃ count, Deed.answers deeds = (List.range' asked count).map setting.stop

theorem asks_nil (setting : Setting M) (asked : Nat) : Asks setting asked [] :=
  ⟨0, rfl⟩

theorem Asks.after_asking {rest : List (Deed M)}
    (h : Asks setting (asked + (reader.asks item).toNat) rest) :
    Asks setting asked (asking setting reader asked item ++ rest) := by
  obtain ⟨count, hAnswers⟩ := h
  refine ⟨(reader.asks item).toNat + count, ?_⟩
  rw [Deed.answers_append, hAnswers, ← List.range'_append_1, List.map_append]
  cases hAsks : reader.asks item <;> simp [asking, hAsks, Deed.answers, Deed.answer?]

theorem asks_handing {after : List M → List (Deed M)} (h : ∀ all, Asks setting asked (after all)) :
    Asks setting asked (handing setting.handler seen messages id after) := by
  have hRecorded : Deed.answers (id.toList.map .recorded : List (Deed M)) = [] := by
    cases id <;> rfl
  unfold Asks handing
  rcases deliver setting.handler seen messages with ⟨all, error | _⟩
  · rw [List.append_nil]
    exact ⟨0, answers_giving _ _ _⟩
  · obtain ⟨count, hAnswers⟩ := h all
    exact ⟨count, by simpa [answers_giving, hRecorded] using hAnswers⟩

theorem asks_deeds (setting : Setting M) (reader : Reader) (asked : Nat) (seen : List M)
    (body : List BodyItem) : Asks setting asked (deeds setting reader asked seen body) := by
  induction body generalizing reader asked seen with
  | nil =>
      rw [deeds]
      refine .after_asking ?_
      cases reader.accept setting.codec (setting.stop asked) none with
      | messages messages id next => exact asks_handing fun _ => asks_nil _ _
      | more next => exact asks_nil _ _
      | finished result => exact asks_nil _ _
  | cons item rest ih =>
      rw [deeds]
      refine .after_asking ?_
      cases reader.accept setting.codec (setting.stop asked) (some item) with
      | more next => exact ih ..
      | messages messages id next =>
          refine asks_handing fun all => ?_
          cases next with
          | none => exact asks_nil _ _
          | some next => exact ih ..
      | finished result => exact asks_nil _ _

end Asking

section Cutting

/-- A reader that is told to stop ends the decoding where it asks. -/
theorem Reader.accept_of_asks {codec : Codec M} {reader : Reader} {item : Option BodyItem}
    (h : reader.asks item = true) : reader.accept codec true item = .finished (.ok ()) := by
  rcases reader with text | _ | draft <;> rcases item with _ | (error | line) <;>
    first | rfl | cases h

/-- What a stop makes of a decoding: it does the same as the unstopped one, or the same up to
a question that is answered otherwise, and then it is over without an error. -/
inductive CutsOff (outcome free : Outcome M) : List (Deed M) → List (Deed M) → Prop where
  | same (deeds : List (Deed M)) (outcome_eq : outcome = free) : CutsOff outcome free deeds deeds
  | stopped (before after : List (Deed M)) (count : Nat) (result_eq : outcome.result = .ok count) :
      CutsOff outcome free (before ++ [.asked true]) (before ++ .asked false :: after)

theorem CutsOff.after {outcome free : Outcome M} {deeds others : List (Deed M)}
    (h : CutsOff outcome free deeds others) (first : List (Deed M)) :
    CutsOff outcome free (first ++ deeds) (first ++ others) := by
  cases h with
  | same deeds outcome_eq => exact .same _ outcome_eq
  | stopped before after count result_eq =>
      rw [← List.append_assoc, ← List.append_assoc]
      exact .stopped _ after count result_eq

variable {setting : Setting M} {seen messages : List M}

/-- The decoding that nobody stops. -/
def Setting.free (setting : Setting M) : Setting M :=
  unstopped setting.codec setting.handler

theorem cutsOff_handOver {next : Option Reader} {asked : Nat} {token : ResumptionToken}
    {id : Option String} {rest : List BodyItem} {after others : List M → List (Deed M)}
    (hNext : ∀ reader, next = some reader → ∀ all token,
      CutsOff (run setting reader asked all token rest)
        (run setting.free reader asked all token rest) (after all) (others all))
    (hEnd : next = none → after = others) :
    CutsOff (handOver setting next asked seen token messages id rest)
      (handOver setting.free next asked seen token messages id rest)
      (handing setting.handler seen messages id after)
      (handing setting.handler seen messages id others) := by
  have hHandler : setting.free.handler = setting.handler := rfl
  unfold handOver handing
  rw [hHandler]
  rcases deliver setting.handler seen messages with ⟨all, error | _⟩
  · exact .same _ rfl
  · refine .after (.after ?_ _) _
    cases next with
    | some reader => exact hNext reader rfl all _
    | none =>
        rw [hEnd rfl]
        exact .same _ rfl

theorem stops_or_goes_on (setting : Setting M) (reader : Reader) (asked : Nat)
    (item : Option BodyItem) :
    (reader.asks item = true ∧ setting.stop asked = true) ∨
      (reader.accept setting.codec (setting.stop asked) item =
          reader.accept setting.codec false item ∧
        asking setting reader asked item = asking setting.free reader asked item) := by
  cases hAsks : reader.asks item with
  | false => exact .inr ⟨Reader.accept_of_not_asks hAsks _ _, by simp [asking, hAsks]⟩
  | true =>
      cases hStop : setting.stop asked with
      | true => exact .inl ⟨rfl, rfl⟩
      | false => exact .inr ⟨rfl, by simp [asking, hAsks, hStop, Setting.free, unstopped]⟩

theorem cutsOff_stopped {reader : Reader} {asked : Nat} {item : Option BodyItem}
    {token : ResumptionToken} {free : Outcome M} (hAsks : reader.asks item = true)
    (hStop : setting.stop asked = true) (others : List (Deed M)) :
    CutsOff (.ended seen token (.ok ())) free (asking setting reader asked item ++ [])
      (asking setting.free reader asked item ++ others) := by
  have hTold : asking setting reader asked item = [.asked true] := by
    rw [asking, if_pos hAsks, hStop]
  have hGoesOn : asking setting.free reader asked item = [.asked false] := if_pos hAsks
  rw [hTold, hGoesOn]
  exact .stopped [] others seen.length rfl

theorem cutsOff_run (reader : Reader) (asked : Nat) (seen : List M) (token : ResumptionToken)
    (body : List BodyItem) :
    CutsOff (run setting reader asked seen token body)
      (run setting.free reader asked seen token body)
      (deeds setting reader asked seen body) (deeds setting.free reader asked seen body) := by
  have hCodec : setting.free.codec = setting.codec := rfl
  have hFree (asked : Nat) : setting.free.stop asked = false := rfl
  induction body generalizing reader asked seen token with
  | nil =>
      rw [run_end, run_end, deeds, deeds, hCodec, hFree]
      -- Either the stop falls here, or both decodings take the same step.
      obtain ⟨hAsks, hStop⟩ | ⟨hAccept, hAsking⟩ := stops_or_goes_on setting reader asked none
      · rw [hStop, Reader.accept_of_asks hAsks]
        exact cutsOff_stopped hAsks hStop _
      · rw [hAccept, hAsking]
        refine .after ?_ _
        cases reader.accept setting.codec false none with
        | messages messages id next => exact cutsOff_handOver nofun fun _ => rfl
        | more next => exact .same _ rfl
        | finished result => exact .same _ rfl
  | cons item rest ih =>
      rw [run_item, run_item, deeds, deeds, hCodec, hFree]
      obtain ⟨hAsks, hStop⟩ | ⟨hAccept, hAsking⟩ :=
        stops_or_goes_on setting reader asked (some item)
      · rw [hStop, Reader.accept_of_asks hAsks]
        exact cutsOff_stopped hAsks hStop _
      · rw [hAccept, hAsking]
        refine .after ?_ _
        cases reader.accept setting.codec false (some item) with
        | more next => exact ih ..
        | messages messages id next =>
            refine cutsOff_handOver (fun reader hReader all token => ?_) fun hNone => ?_
            · rw [hReader]
              exact ih ..
            · rw [hNone]
              rfl
        | finished result => exact .same _ rfl

/-- Up to its stop a decoding has given the same messages as the unstopped one, and the token
stands where it stood there. -/
theorem CutsOff.beginning {outcome free : Outcome M} {deeds others : List (Deed M)}
    (h : CutsOff outcome free deeds others) :
    ∃ same, same <+: others ∧ Deed.given same = Deed.given deeds ∧
      Deed.accepted same = Deed.accepted deeds ∧
      ∀ token, Deed.tokenBehind token same = Deed.tokenBehind token deeds := by
  cases h with
  | same deeds outcome_eq => exact ⟨deeds, List.prefix_refl _, rfl, rfl, fun _ => rfl⟩
  | stopped before after count result_eq =>
      refine ⟨before, List.prefix_append _ _, ?_, ?_, fun token => ?_⟩
      · rw [Deed.given_append]
        exact (List.append_nil _).symm
      · rw [Deed.accepted_append]
        exact (List.append_nil _).symm
      · rw [Deed.tokenBehind_append]
        rfl

/-- Nothing is done behind the answer to stop. -/
theorem CutsOff.last {outcome free : Outcome M} {deeds others : List (Deed M)}
    (h : CutsOff outcome free deeds others) (hOthers : .asked true ∉ others)
    {before after : List (Deed M)} (hTold : deeds = before ++ .asked true :: after) :
    after = [] := by
  cases h with
  | same deeds outcome_eq => simp [hTold] at hOthers
  | stopped first rest count result_eq =>
      rcases List.eq_nil_or_concat after with hNil | ⟨inner, last, rfl⟩
      · exact hNil
      · -- Otherwise the same answer would stand among the deeds before the last one.
        have hFirst : first = before ++ .asked true :: inner := by
          rw [List.concat_eq_append, ← List.cons_append, ← List.append_assoc] at hTold
          exact (List.append_inj' hTold rfl).1
        simp [hFirst] at hOthers

theorem CutsOff.told {outcome free : Outcome M} {deeds others : List (Deed M)}
    (h : CutsOff outcome free deeds others) (hOthers : .asked true ∉ others)
    (hTold : .asked true ∈ deeds) : ∃ count, outcome.result = .ok count := by
  cases h with
  | same deeds outcome_eq => exact absurd hTold hOthers
  | stopped before after count result_eq => exact ⟨count, result_eq⟩

theorem CutsOff.untold {outcome free : Outcome M} {deeds others : List (Deed M)}
    (h : CutsOff outcome free deeds others) (hUntold : .asked true ∉ deeds) : outcome = free := by
  cases h with
  | same deeds outcome_eq => exact outcome_eq
  | stopped before after count result_eq => simp at hUntold

end Cutting

section Stopped

variable {setting : Setting M}

theorem not_told_free (reader : Reader) (asked : Nat) (seen : List M) (body : List BodyItem) :
    .asked true ∉ deeds setting.free reader asked seen body := by
  intro hTold
  have hMem : true ∈ Deed.answers (deeds setting.free reader asked seen body) :=
    List.mem_filterMap.mpr ⟨_, hTold, rfl⟩
  obtain ⟨count, hAnswers⟩ := asks_deeds setting.free reader asked seen body
  rw [hAnswers] at hMem
  obtain ⟨n, -, hAnswer⟩ := List.mem_map.mp hMem
  cases hAnswer

/-- What is done when a body is decoded. -/
def deedsOf (setting : Setting M) (decoder : Decoder) (body : List BodyItem) : List (Deed M) :=
  deeds setting (.start decoder) 0 [] body

/-- A stop only cuts off. The questions are answered by the setting one after the other, and
nothing is done behind the answer to stop. The messages that are given to the handler until
then are the first ones of those that the unstopped decoding gives, and the token is where it
is behind these messages there. The count that is returned is that of the messages given. A
decoding that is told to stop returns one, and one that is not told ends as the unstopped one. -/
theorem decode_stopped (setting : Setting M) (token : ResumptionToken) (decoder : Decoder)
    (body : List BodyItem) :
    let outcome := decode setting token decoder body
    let done := deedsOf setting decoder body
    let unstopped := decode setting.free token decoder body
    let free := deedsOf setting.free decoder body
    (outcome.seen = Deed.accepted done ∧ outcome.token = Deed.tokenBehind token done) ∧
      (unstopped.seen = Deed.accepted free ∧ unstopped.token = Deed.tokenBehind token free) ∧
      (∃ count, Deed.answers done = (List.range count).map setting.stop) ∧
      (∀ before after, done = before ++ .asked true :: after → after = []) ∧
      Deed.given done <+: Deed.given free ∧
      (∃ same, same <+: free ∧ Deed.given same = Deed.given done ∧
        Deed.accepted same = outcome.seen ∧ Deed.tokenBehind token same = outcome.token) ∧
      (∀ count, outcome.result = .ok count → count = (Deed.given done).length) ∧
      (.asked true ∈ done → ∃ count, outcome.result = .ok count) ∧
      (.asked true ∉ done → outcome = unstopped) := by
  intro outcome done unstopped free
  have hTells : outcome.Tells [] token done := tells_run _ 0 [] token body
  have hTellsFree : unstopped.Tells [] token free := tells_run _ 0 [] token body
  have hCuts : CutsOff outcome unstopped done free := cutsOff_run _ 0 [] token body
  have hFree : .asked true ∉ free := not_told_free _ 0 [] body
  obtain ⟨same, hSame, hGiven, hAccepted, hToken⟩ := hCuts.beginning
  refine ⟨⟨hTells.seen_eq, hTells.token_eq⟩, ⟨hTellsFree.seen_eq, hTellsFree.token_eq⟩, ?_,
    fun _ _ => hCuts.last hFree, ?_, ⟨same, hSame, hGiven, ?_, ?_⟩, hTells.count_eq,
    hCuts.told hFree, hCuts.untold⟩
  · simp only [List.range_eq_range']
    exact asks_deeds setting _ 0 [] body
  · rw [← hGiven]
    exact hSame.filterMap _
  · exact hAccepted.trans hTells.seen_eq.symm
  · exact (hToken token).trans hTells.token_eq.symm

/-- A stop within a frame. Neither is its message given nor its id recorded. -/
example :
    let frame (id : String) : List String :=
      ["event: message", "id: " ++ id, "data: \x7b\x7d", ""]
    let setting : Setting Json := ⟨Codec.value, fun _ _ => .ok (), (6 ≤ ·)⟩
    let body := Body.ofLines (frame "1" ++ frame "2")
    Deed.answers (deedsOf setting .eventStream body) = List.replicate 6 false ++ [true] ∧
      (Deed.given (deedsOf setting .eventStream body)).length = 1 ∧
      (decode setting none .eventStream body).token = some "1" := by
  decide +kernel

end Stopped

end RpcTransport.Decoder
