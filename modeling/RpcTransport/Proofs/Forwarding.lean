import RpcTransport.Proofs.Conversation

/-! Sends, turn by turn, and how far forwarding has come. -/
namespace RpcTransport.Transport

variable {M H B : Type}

namespace Sending

/-- What a send waits for behind a turn. -/
def asks (handler : Option H) (step : Step (Sending M H B) (Except Error Unit)) :
    List (Wait M H B) :=
  match step with
  | .wait point => [point.wait handler]
  | .done _ => []

/-- What a send returns in a turn. -/
def answers (step : Step (Sending M H B) (Except Error Unit)) : List (Except Error Unit) :=
  match step with
  | .wait _ => []
  | .done result => [result]

end Sending

namespace Record

variable (id : TaskId) (shared : Shared H) (origin : Origin M H B) (handler : Option H)
  (turn : Sending.Turn M H B)

@[simp] theorem waits_ofSending :
    waits [⟨id, shared, origin, .ofSending handler turn⟩] =
      Sending.asks handler turn.step := by
  rcases turn with ⟨_, point | result, _⟩ <;> rfl

@[simp] theorem results_ofSending :
    results [⟨id, shared, origin, .ofSending handler turn⟩] =
      (Sending.answers turn.step : List (Except Error Unit)) := by
  rcases turn with ⟨_, point | result, _⟩ <;> rfl

@[simp] theorem exchanges_resumed (task : Task M H B) (reply : Reply B) (turn : Turn M H B) :
    exchanges [⟨id, shared, .resumed task reply, turn⟩] = [(task.wait, reply)] :=
  rfl

@[simp] theorem sent_ofSending :
    sent [⟨id, shared, origin, .ofSending handler turn⟩] =
      (Sending.asks handler turn.step).filter Wait.carries := by
  rw [sent, waits_ofSending]

@[simp] theorem delivery_resumed (task : Task M H B) (reply : Reply B) (turn : Turn M H B) :
    delivery [⟨id, shared, .resumed task reply, turn⟩] =
      if task.wait.delivers then [(task.wait, reply)] else [] := by
  rw [delivery, exchanges_resumed, List.filter_cons, List.filter_nil]

end Record

/-- What holds behind the first turn of a send and is kept by its other turns
holds behind every turn. -/
theorem Life.send_induction {settings : Settings M} {id : TaskId} {call : Call M H}
    {begun : Shared H} {message : M} {handler : Option H}
    (hMessage : call.message? = some message) (hHandler : call.replyHandler begun = handler)
    {motive : List (Record M H B) → Step (Sending M H B) (Except Error Unit) → Shared H → Prop}
    (start : ∀ turn : Sending.Turn M H B, turn = Sending.start settings begun handler message →
      motive [⟨id, begun, .began call, .ofSending handler turn⟩] turn.step turn.shared)
    (resume : ∀ records point before shared reply, ∀ turn : Sending.Turn M H B,
      motive records (.wait point) before → before.Leads shared →
      point.resume settings shared handler reply = some turn →
      motive (records ++
        [⟨id, shared, .resumed (.sending handler point) reply, .ofSending handler turn⟩])
        turn.step turn.shared)
    {past : List (Record M H B)} {last : Record M H B}
    (life : Life settings id call begun past last) :
    ∃ turn : Sending.Turn M H B, last.turn = .ofSending handler turn ∧
      motive (past ++ [last]) turn.step turn.shared := by
  induction life with
  | start =>
      have hStart := start _ rfl
      rw [Call.start_of_message hMessage, hHandler]
      exact ⟨_, rfl, hStart⟩
  | @resume past last task shared reply turn prior waits leads resumes ih =>
      obtain ⟨inner, hTurn, hMotive⟩ := ih
      rw [hTurn] at waits leads
      obtain ⟨point, hPoint, rfl⟩ := Turn.ofSending_eq_wait.mp waits
      rw [hPoint] at hMotive
      obtain ⟨next, hNext, rfl⟩ := Option.map_eq_some_iff.mp resumes
      exact ⟨next, rfl, resume _ point _ shared reply next hMotive leads hNext⟩

namespace Forwarding

/-- How far the forwarding of items has come: which of them the legacy transport
was given, and what it said to them. -/
inductive Reaches (items : List M) :
    List M → List (Except Error Unit) → Step (Sending M H B) (Except Error Unit) → Prop where
  | waits {earlier : List M} {replies : List (Except Error Unit)} (point : Forwarding M)
      (split : items = earlier ++ point.item :: point.rest)
      (answered : replies.length = earlier.length)
      (failure : point.failure = firstFailure replies) :
      Reaches items (earlier ++ [point.item]) replies (.wait (.forwarding point))
  | ends {replies : List (Except Error Unit)} {result : Except Error Unit}
      (answered : replies.length = items.length)
      (failure : firstFailure replies = match result with
        | .error error => some error
        | .ok () => none) :
      Reaches items items replies (.done result)

/-- Behind the replies to all items that were given, the next item is given. -/
theorem reaches_next (handler : Option H) {items : List M} (given rest : List M)
    (replies : List (Except Error Unit)) (hItems : items = given ++ rest)
    (hReplies : replies.length = given.length) :
    ∃ more, Sending.asks handler ((next (firstFailure replies) rest).mapPoint .forwarding) =
        more.map (.legacySend : M → Wait M H B) ∧
      Reaches items (given ++ more) replies
        ((next (firstFailure replies) rest).mapPoint .forwarding :
          Step (Sending M H B) (Except Error Unit)) := by
  cases rest with
  | cons item rest =>
      exact ⟨[item], rfl, .waits ⟨item, rest, firstFailure replies⟩ hItems hReplies rfl⟩
  | nil =>
      refine ⟨[], rfl, ?_⟩
      rw [List.append_nil] at hItems ⊢
      subst hItems
      apply Reaches.ends hReplies
      cases firstFailure replies <;> rfl

theorem reaches_start {settings : Settings M} (handler : Option H) (message : M)
    (hLegacy : settings.hasLegacy = true) :
    ∃ given, Sending.asks handler (Sending.forward settings message) =
        given.map (.legacySend : M → Wait M H B) ∧
      Reaches (settings.codec.itemsOf message) given []
        (Sending.forward settings message : Step (Sending M H B) (Except Error Unit)) := by
  have hNext := reaches_next (B := B) handler [] (settings.codec.itemsOf message) [] rfl rfl
  simpa [Sending.forward, start, hLegacy, firstFailure] using hNext

/-- A reply to the item that was given last. -/
theorem reaches_resume {items given : List M} {replies : List (Except Error Unit)}
    {point : Forwarding M} (result : Except Error Unit) (handler : Option H)
    (h : Reaches items given replies
      (.wait (.forwarding point) : Step (Sending M H B) (Except Error Unit))) :
    ∃ more, Sending.asks handler ((point.resume result).mapPoint .forwarding) =
        more.map (.legacySend : M → Wait M H B) ∧
      Reaches items (given ++ more) (replies ++ [result])
        ((point.resume result).mapPoint .forwarding :
          Step (Sending M H B) (Except Error Unit)) := by
  cases h with
  | @waits earlier _ _ split answered failure =>
      have hItems : items = (earlier ++ [point.item]) ++ point.rest := by simp [split]
      have hNext := reaches_next (B := B) handler _ _ (replies ++ [result]) hItems
        (by simp [answered])
      rw [firstFailure_append, ← failure] at hNext
      exact hNext

end Forwarding

end RpcTransport.Transport
