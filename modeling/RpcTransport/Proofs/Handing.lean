import RpcTransport.Proofs.Intake

namespace RpcTransport.Decoder

variable {M : Type}

/-- The decoding in which no message is refused. -/
def accepting (codec : Codec M) : Setting M :=
  { codec, handler := fun _ _ => .ok () }

/-- The messages that a body carries, as far as it can be decoded. -/
def messagesOf (codec : Codec M) (decoder : Decoder) (body : List BodyItem) : List M :=
  (decode (accepting codec) none decoder body).seen

/-- The messages that a handler is given: all of them, up to the first one that it refuses.
It has accepted `count` messages before. -/
def offered (handler : Handler M) (count : Nat) : List M → List M
  | [] => []
  | message :: rest => message :: match handler count message with
    | .ok () => offered handler (count + 1) rest
    | .error _ => []

/-- The messages that a reader will still find. -/
def ahead (codec : Codec M) (reader : Reader) (rest : List BodyItem) : List M :=
  (run (accepting codec) reader 0 [] none rest).seen

section Offered

variable {handler : Handler M} {seen all messages : List M}

/-- Behind messages that were all accepted come the next ones. -/
theorem offered_append_of_accepted (h : deliver handler seen messages = (all, .ok ()))
    (more : List M) : all = seen ++ messages ∧ offered handler seen.length (messages ++ more) =
      messages ++ offered handler all.length more := by
  induction messages generalizing seen with
  | nil =>
      cases h
      exact ⟨(List.append_nil _).symm, rfl⟩
  | cons message messages ih =>
      cases hVerdict : handler seen.length message with
      | error error => simp [deliver, hVerdict] at h
      | ok =>
          simp only [deliver, hVerdict] at h
          obtain ⟨hAll, hRest⟩ := ih h
          rw [List.length_append] at hRest
          refine ⟨by simp [hAll], ?_⟩
          simp [offered, hVerdict, ← hRest]

theorem offered_of_accepted (h : deliver handler seen messages = (all, .ok ())) :
    offered handler seen.length messages = messages := by
  have hNone := (offered_append_of_accepted h []).2
  rwa [offered, List.append_nil] at hNone

/-- Behind a message that was refused comes nothing. -/
theorem offered_append_of_refused {error : Error}
    (h : deliver handler seen messages = (all, .error error)) (more : List M) :
    offered handler seen.length (messages ++ more) = offered handler seen.length messages := by
  induction messages generalizing seen with
  | nil => cases h
  | cons message messages ih =>
      cases hVerdict : handler seen.length message with
      | error error => simp [offered, hVerdict]
      | ok =>
          simp only [deliver, hVerdict] at h
          have hRest := ih h
          rw [List.length_append] at hRest
          simpa [offered, hVerdict] using hRest

end Offered

section Ahead

variable {codec : Codec M}

theorem handOver_accepting (next : Option Reader) (asked : Nat) (seen messages : List M)
    (token : ResumptionToken) (id : Option String) (rest : List BodyItem) :
    handOver (accepting codec) next asked seen token messages id rest =
      match next with
      | some next => run (accepting codec) next asked (seen ++ messages) (token.record id) rest
      | none => .ended (seen ++ messages) (token.record id) (.ok ()) := by
  rw [handOver_silent fun _ _ => rfl]
  cases next <;> rfl

/-- What a reader finds is independent of what was found before. -/
theorem seen_run (reader : Reader) (asked : Nat) (seen : List M) (token : ResumptionToken)
    (rest : List BodyItem) :
    (run (accepting codec) reader asked seen token rest).seen =
      seen ++ ahead codec reader rest := by
  unfold ahead
  have hAccept (asked : Nat) (reader : Reader) (item : Option BodyItem) :
      reader.accept (accepting codec).codec ((accepting codec).stop asked) item =
        reader.accept codec false item := rfl
  induction rest generalizing reader asked seen token with
  | nil =>
      simp only [run_end, hAccept, handOver_accepting]
      cases reader.accept codec false none <;> simp [Outcome.ended]
  | cons item rest ih =>
      simp only [run_item, hAccept, handOver_accepting]
      cases reader.accept codec false (some item) with
      | more next => rw [ih, ih _ (0 + _) []]; simp
      | messages messages id next =>
          cases next with
          | none => simp [Outcome.ended]
          | some next => simp only [ih next _ (seen ++ messages), ih next _ ([] ++ messages)]; simp
      | finished result => simp [Outcome.ended]

theorem ahead_nil (codec : Codec M) (reader : Reader) :
    ahead codec reader [] = match reader.accept codec false none with
      | .messages messages _ _ => messages
      | _ => [] := by
  have hAccept : reader.accept (accepting codec).codec ((accepting codec).stop 0) none =
      reader.accept codec false none := rfl
  rw [ahead, run_end, hAccept]
  cases reader.accept codec false none <;> simp [handOver_accepting, Outcome.ended]

theorem ahead_cons (codec : Codec M) (reader : Reader) (item : BodyItem) (rest : List BodyItem) :
    ahead codec reader (item :: rest) = match reader.accept codec false (some item) with
      | .more next => ahead codec next rest
      | .messages messages _ next => messages ++ next.elim [] (ahead codec · rest)
      | .finished _ => [] := by
  have hAccept : reader.accept (accepting codec).codec ((accepting codec).stop 0) (some item) =
      reader.accept codec false (some item) := rfl
  rw [ahead, run_item, hAccept]
  cases reader.accept codec false (some item) with
  | more next => exact seen_run next _ [] none rest
  | messages messages id next =>
      cases next <;> simp [handOver_accepting, Outcome.ended, seen_run]
  | finished result => rfl

/-- What a reader finds from an item on. Nothing is found behind the end of a body. -/
theorem ahead_accept (codec : Codec M) (reader : Reader) (item : Option BodyItem)
    {rest : List BodyItem} (hEnd : item = none → rest = []) :
    ahead codec reader (item.toList ++ rest) = match reader.accept codec false item with
      | .more next => ahead codec next rest
      | .messages messages _ next => messages ++ next.elim [] (ahead codec · rest)
      | .finished _ => [] := by
  cases item with
  | some item => exact ahead_cons codec reader item rest
  | none =>
      rw [hEnd rfl, Option.toList_none, List.append_nil, ahead_nil]
      rcases Reader.accept_end codec false reader with ⟨messages, id, hAccept⟩ | ⟨result, hAccept⟩
      · simp [hAccept]
      · rw [hAccept]

end Ahead

section Seen

variable {setting : Setting M}

theorem seen_handOver {next : Option Reader} {asked : Nat} {seen messages : List M}
    {token : ResumptionToken} {id : Option String} {rest : List BodyItem}
    (hNext : ∀ reader, next = some reader → ∀ asked seen token,
      (run setting reader asked seen token rest).seen =
        (deliver setting.handler seen (ahead setting.codec reader rest)).1) :
    (handOver setting next asked seen token messages id rest).seen =
      (deliver setting.handler seen
        (messages ++ next.elim [] (ahead setting.codec · rest))).1 := by
  unfold handOver
  rw [deliver_append]
  rcases deliver setting.handler seen messages with ⟨all, error | _⟩
  · rfl
  · cases next with
    | none => rfl
    | some reader => exact hNext reader rfl _ _ _

/-- A decoding that is never stopped hands over the messages of the body one by one. -/
theorem seen_run_of_unstopped (hStop : ∀ n, setting.stop n = false) (reader : Reader)
    (asked : Nat) (seen : List M) (token : ResumptionToken) (rest : List BodyItem) :
    (run setting reader asked seen token rest).seen =
      (deliver setting.handler seen (ahead setting.codec reader rest)).1 := by
  induction rest generalizing reader asked seen token with
  | nil =>
      rw [run_end, hStop, ahead_nil]
      cases hAccept : reader.accept setting.codec false none with
      | more next => rfl
      | messages messages id next =>
          have hHandOver : (handOver setting none asked seen token messages id []).seen = _ :=
            seen_handOver nofun
          rwa [Option.elim_none, List.append_nil] at hHandOver
      | finished result => rfl
  | cons item rest ih =>
      rw [run_item, hStop, ahead_cons]
      cases reader.accept setting.codec false (some item) with
      | more next => exact ih ..
      | messages messages id next => exact seen_handOver fun reader _ => ih reader
      | finished result => rfl

theorem seen_decode (hStop : ∀ n, setting.stop n = false) (token : ResumptionToken)
    (decoder : Decoder) (body : List BodyItem) :
    (decode setting token decoder body).seen =
      (deliver setting.handler [] (messagesOf setting.codec decoder body)).1 :=
  seen_run_of_unstopped hStop _ 0 [] token body

end Seen

/-- The messages that are handed over when a response is dispatched: those of its body up to
the first one that is refused. -/
def handedOver (setting : Setting M) (response : Http.Response (List BodyItem)) : List M :=
  offered setting.handler 0 (dispatch (accepting setting.codec) none response).seen

end RpcTransport.Decoder
