import RpcTransport.Proofs.Conversation

namespace RpcTransport.Transport

variable {M : Type}

theorem firstFailure_eq_some {replies : List (Except Error Unit)} {error : Error} :
    firstFailure replies = some error ↔
      ∃ i : Nat, replies[i]? = some (.error error) ∧ ∀ j < i, replies[j]? = some (.ok ()) := by
  induction replies with
  | nil => simp [firstFailure]
  | cons reply rest ih =>
      cases reply with
      | error earlier =>
          have hFirst : firstFailure (.error earlier :: rest) = some earlier := rfl
          rw [hFirst]
          constructor
          · intro h
            cases h
            exact ⟨0, rfl, fun j hj => absurd hj j.not_lt_zero⟩
          · rintro ⟨i, hError, hEarlier⟩
            cases i with
            | zero => simpa using hError
            | succ i => exact absurd (hEarlier 0 (by omega)) (by simp)
      | ok _ =>
          have hRest : firstFailure (.ok () :: rest) = firstFailure rest := rfl
          rw [hRest, ih]
          constructor
          · rintro ⟨i, hError, hEarlier⟩
            refine ⟨i + 1, hError, ?_⟩
            intro j hj
            cases j with
            | zero => rfl
            | succ j => exact hEarlier j (by omega)
          · rintro ⟨i, hError, hEarlier⟩
            cases i with
            | zero => simp at hError
            | succ i => exact ⟨i, hError, fun j hj => hEarlier (j + 1) (by omega)⟩

namespace Forwarding

/-- The items that are still to be answered. -/
def unanswered : Step (Forwarding M) (Except Error Unit) → Nat
  | .wait point => point.rest.length + 1
  | .done _ => 0

theorem unanswered_next (failure : Option Error) (items : List M) :
    unanswered (next failure items) = items.length := by
  cases items <;> rfl

/-- A forwarding up to its result. `send` gives an item to the legacy transport and has its
reply, and the forwarding goes on with this reply. It looks at nothing else, so it makes no
difference what other tasks do meanwhile. -/
def serve {m : Type → Type} [Monad m] (send : M → m (Except Error Unit))
    (step : Step (Forwarding M) (Except Error Unit)) : m (Except Error Unit) :=
  match step with
  | .wait point => do
    let reply ← send point.item
    serve send (point.resume reply)
  | .done result => pure result
termination_by unanswered step
decreasing_by
  show unanswered (next _ point.rest) < point.rest.length + 1
  rw [unanswered_next]
  omega

/-- The result that the first failure calls for. -/
def verdict : Option Error → Except Error Unit
  | some error => .error error
  | none => .ok ()

theorem next_nil (failure : Option Error) :
    (next failure [] : Step (Forwarding M) (Except Error Unit)) = .done (verdict failure) := by
  cases failure <;> rfl

theorem next_cons (failure : Option Error) (item : M) (rest : List M) :
    next failure (item :: rest) = .wait ⟨item, rest, failure⟩ :=
  rfl

/-- The reply to an item joins the earlier ones. -/
theorem resume_eq (item : M) (rest : List M) (replies : List (Except Error Unit))
    (reply : Except Error Unit) :
    resume ⟨item, rest, firstFailure replies⟩ reply =
      next (firstFailure (replies ++ [reply])) rest := by
  rw [firstFailure_append]
  rfl

/-- Behind some replies the other items are given away one after the other. A failure among
the replies is kept, and it does not shorten the loop. -/
theorem serve_next {m : Type → Type} [Monad m] [LawfulMonad m]
    (send : M → m (Except Error Unit)) (replies : List (Except Error Unit)) (items : List M) :
    serve send (next (firstFailure replies) items) =
      (fun more => verdict (firstFailure (replies ++ more))) <$> items.mapM send := by
  induction items generalizing replies with
  | nil =>
      rw [next_nil, serve, List.mapM_nil, map_pure, List.append_nil]
  | cons item rest ih =>
      rw [next_cons, serve, List.mapM_cons, map_bind]
      -- The item is given away on both sides, and its reply joins the earlier ones.
      congr 1
      funext reply
      rw [resume_eq, ih, bind_pure_comp, Functor.map_map]
      simp only [List.append_assoc, List.singleton_append]

/-- With a legacy transport the items are given away in order, each once, and the replies are
gone through behind the last one. Without one nothing happens. -/
theorem serve_start {m : Type → Type} [Monad m] [LawfulMonad m]
    (send : M → m (Except Error Unit)) (settings : Settings M) (message : M) :
    serve send (start settings message) =
      if settings.hasLegacy then
        (fun replies => verdict (firstFailure replies)) <$>
          (settings.codec.itemsOf message).mapM send
      else pure (.error .noLegacy) := by
  unfold start
  split
  · exact serve_next send [] _
  · rw [serve]

/-- A legacy transport with a log of the items that it was given. `outcome` numbers its
replies. -/
def logged (outcome : Nat → Except Error Unit) (item : M) :
    StateM (List M) (Except Error Unit) := do
  let given ← get
  set (given ++ [item])
  return outcome given.length

theorem mapM_logged (outcome : Nat → Except Error Unit) (given items : List M) :
    (items.mapM (logged outcome)).run given =
      ((List.range' given.length items.length).map outcome, given ++ items) := by
  induction items generalizing given with
  | nil =>
      rw [List.mapM_nil, List.append_nil]
      rfl
  | cons item rest ih =>
      have hFirst : ((item :: rest).mapM (logged outcome)).run given =
          (outcome given.length :: ((rest.mapM (logged outcome)).run (given ++ [item])).1,
            ((rest.mapM (logged outcome)).run (given ++ [item])).2) := by
        rw [List.mapM_cons]
        rfl
      have hRest := ih (given ++ [item])
      rw [List.length_append, List.length_singleton, List.append_assoc] at hRest
      rw [hFirst, hRest]
      rfl

theorem verdict_eq_ok {failure : Option Error} : verdict failure = .ok () ↔ failure = none := by
  cases failure <;> simp [verdict]

theorem verdict_eq_error {failure : Option Error} {error : Error} :
    verdict failure = .error error ↔ failure = some error := by
  cases failure <;> simp [verdict]

/-- For every codec, every message and all replies of the legacy transport: it is given every
item of the message, each once and in order, also behind items that failed. The result is the
error of the first item that failed, and it is no error exactly if no item failed. Without a
legacy transport nothing is given away, and that is the result. -/
theorem every_item_is_tried (settings : Settings M) (message : M)
    (outcome : Nat → Except Error Unit) :
    let items := settings.codec.itemsOf message
    let run := (serve (logged outcome) (start settings message)).run []
    (settings.hasLegacy = true → ∃ result, run = (result, items) ∧
      (result = .ok () ↔ ∀ i < items.length, outcome i = .ok ()) ∧
      ∀ error, result = .error error ↔
        ∃ i < items.length, outcome i = .error error ∧ ∀ j < i, outcome j = .ok ()) ∧
    (settings.hasLegacy = false → run = (.error .noLegacy, [])) := by
  intro items run
  constructor
  · intro hLegacy
    let replies := (List.range' 0 items.length).map outcome
    have hReplies : (items.mapM (logged outcome)).run [] = (replies, items) :=
      mapM_logged outcome [] items
    refine ⟨verdict (firstFailure replies), ?_, ?_, ?_⟩
    · simp only [run, serve_start, hLegacy, if_true, StateT.run_map]
      rw [hReplies]
      rfl
    · rw [verdict_eq_ok, firstFailure_eq_none]
      simp [replies]
    · intro error
      have hReply (i : Nat) (reply : Except Error Unit) :
          replies[i]? = some reply ↔ i < items.length ∧ outcome i = reply := by
        simp [replies, List.getElem?_eq_some_iff]
      rw [verdict_eq_error, firstFailure_eq_some]
      constructor
      · rintro ⟨i, hError, hEarlier⟩
        obtain ⟨hLength, hError⟩ := (hReply i _).mp hError
        exact ⟨i, hLength, hError, fun j hj => ((hReply j _).mp (hEarlier j hj)).2⟩
      · rintro ⟨i, hLength, hError, hEarlier⟩
        refine ⟨i, (hReply i _).mpr ⟨hLength, hError⟩, ?_⟩
        exact fun j hj => (hReply j _).mpr ⟨by omega, hEarlier j hj⟩
  · intro hLegacy
    simp only [run, serve_start, hLegacy]
    rfl

namespace Sample

def settings (hasLegacy : Bool) : Settings Rpc.Message :=
  { config := { baseUri := "http://host" }, codec := .jsonRpc, policy := {}, hasLegacy }

def items : List Rpc.Message :=
  [.mkNotification "a" none, .mkNotification "b" none, .mkNotification "c" none]

/-- The second item fails, and the third one for another reason. -/
def outcome : Nat → Except Error Unit
  | 1 => .error (.legacy "down")
  | 2 => .error (.legacy "gone")
  | _ => .ok ()

end Sample

theorem every_item_is_tried_behind_failures :
    let run := fun hasLegacy =>
      (serve (logged Sample.outcome) (start (Sample.settings hasLegacy) (.batch Sample.items))).run []
    run true = (.error (.legacy "down"), Sample.items) ∧ run false = (.error .noLegacy, []) := by
  obtain ⟨hTries, -⟩ := every_item_is_tried (Sample.settings true) (.batch Sample.items)
    Sample.outcome
  obtain ⟨-, hNone⟩ := every_item_is_tried (Sample.settings false) (.batch Sample.items)
    Sample.outcome
  obtain ⟨result, hRun, -, hError⟩ := hTries rfl
  have hResult : result = .error (.legacy "down") := by
    refine (hError _).mpr ⟨1, by decide, rfl, ?_⟩
    intro j hj
    obtain rfl : j = 0 := by omega
    rfl
  rw [hResult] at hRun
  exact ⟨hRun, hNone rfl⟩

end Forwarding

end RpcTransport.Transport
