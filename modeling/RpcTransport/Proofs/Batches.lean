import Mathlib.Data.List.Basic
import RpcTransport.Proofs.Forwarding

namespace RpcTransport

namespace Rpc

mutual

/-- The messages in a message that are no batches, in order. -/
def Message.leaves : Message → List Message
  | .batch items => leavesOf items
  | .request request => [.request request]
  | .notification notification => [.notification notification]
  | .response response => [.response response]

def leavesOf : List Message → List Message
  | [] => []
  | message :: rest => message.leaves ++ leavesOf rest

end

end Rpc

namespace Json

def isArray : Json → Bool
  | .array _ => true
  | _ => false

mutual

/-- The values in arrays of arrays that are no arrays, in order. -/
def leaves : Json → List Json
  | .array items => leavesOf items
  | .null => [.null]
  | .bool value => [.bool value]
  | .number value => [.number value]
  | .string value => [.string value]
  | .object members => [.object members]

def leavesOf : List Json → List Json
  | [] => []
  | json :: rest => json.leaves ++ leavesOf rest

end

end Json

/-! Leaves are no batches. -/

namespace Rpc

mutual

theorem Message.isBatch_leaf : (message : Message) →
    ∀ leaf ∈ message.leaves, leaf.isBatch = false
  | .batch items => by
      rw [Message.leaves]
      exact isBatch_leafOf items
  | .request _ => by simp [Message.leaves, Message.isBatch]
  | .notification _ => by simp [Message.leaves, Message.isBatch]
  | .response _ => by simp [Message.leaves, Message.isBatch]

theorem isBatch_leafOf : (items : List Message) →
    ∀ leaf ∈ leavesOf items, leaf.isBatch = false
  | [] => nofun
  | message :: rest => by
      intro leaf hLeaf
      rw [leavesOf, List.mem_append] at hLeaf
      exact hLeaf.elim (message.isBatch_leaf leaf) (isBatch_leafOf rest leaf)

end

theorem leavesOf_eq (items : List Message) : leavesOf items = items.flatMap Message.leaves := by
  induction items with
  | nil => rfl
  | cons message rest ih => rw [leavesOf, ih, List.flatMap_cons]

end Rpc

namespace Json

mutual

theorem isArray_leaf : (json : Json) → ∀ leaf ∈ json.leaves, leaf.isArray = false
  | .array items => by
      rw [leaves]
      exact isArray_leafOf items
  | .null => by simp [leaves, isArray]
  | .bool _ => by simp [leaves, isArray]
  | .number _ => by simp [leaves, isArray]
  | .string _ => by simp [leaves, isArray]
  | .object _ => by simp [leaves, isArray]

theorem isArray_leafOf : (items : List Json) → ∀ leaf ∈ leavesOf items, leaf.isArray = false
  | [] => nofun
  | json :: rest => by
      intro leaf hLeaf
      rw [leavesOf, List.mem_append] at hLeaf
      exact hLeaf.elim (json.isArray_leaf leaf) (isArray_leafOf rest leaf)

end

theorem leavesOf_eq (items : List Json) : leavesOf items = items.flatMap leaves := by
  induction items with
  | nil => rfl
  | cons json rest ih => rw [leavesOf, ih, List.flatMap_cons]

end Json

namespace Codec

/-- What a batch is for a codec, and which leaves a message has. -/
inductive Nesting : {M : Type} → Codec M → (M → Bool) → (M → List M) → Prop
  | jsonRpc : Nesting jsonRpc Rpc.Message.isBatch Rpc.Message.leaves
  | value : Nesting value Json.isArray Json.leaves

namespace Nesting

variable {M : Type} {codec : Codec M} {isBatch : M → Bool} {leaves : M → List M}

theorem isBatch_leaf (h : Nesting codec isBatch leaves) (message : M) :
    ∀ leaf ∈ leaves message, isBatch leaf = false := by
  cases h with
  | jsonRpc => exact message.isBatch_leaf
  | value => exact message.isArray_leaf

theorem leaves_of_single (h : Nesting codec isBatch leaves) {message : M}
    (hSingle : isBatch message = false) : leaves message = [message] := by
  cases h with
  | jsonRpc =>
      cases message with
      | batch items => cases hSingle
      | _ => rw [Rpc.Message.leaves]
  | value =>
      cases message with
      | array items => cases hSingle
      | _ => rw [Json.leaves]

/-- The leaves of a message are those of its items. -/
theorem leaves_eq (h : Nesting codec isBatch leaves) (message : M) :
    leaves message = (codec.itemsOf message).flatMap leaves := by
  cases h with
  | jsonRpc =>
      cases message with
      | batch items =>
          rw [Rpc.Message.leaves]
          exact Rpc.leavesOf_eq items
      | _ => exact (List.flatMap_singleton ..).symm
  | value =>
      cases message with
      | array items =>
          rw [Json.leaves]
          exact Json.leavesOf_eq items
      | _ => exact (List.flatMap_singleton ..).symm

/-- The items of a message are its leaves unless one of them is a batch again. -/
theorem items_eq_leaves_iff (h : Nesting codec isBatch leaves) (message : M) :
    codec.itemsOf message = leaves message ↔
      ∀ item ∈ codec.itemsOf message, isBatch item = false := by
  constructor
  · intro hItems
    rw [hItems]
    exact h.isBatch_leaf message
  · intro hSingle
    rw [h.leaves_eq message,
      List.flatMap_congr fun item hItem => h.leaves_of_single (hSingle item hItem)]
    exact (List.flatMap_singleton' _).symm

end Nesting

end Codec

namespace Transport

variable {M H B : Type}

/-- The message that is with the legacy transport. -/
def Wait.forwarded? : Wait M H B → Option M
  | .legacySend message => some message
  | _ => none

/-- What the legacy transport was given, in order. -/
def Record.forwarded (records : List (Record M H B)) : List M :=
  (waits records).filterMap Wait.forwarded?

@[simp] theorem Record.forwarded_append (records more : List (Record M H B)) :
    forwarded (records ++ more) = forwarded records ++ forwarded more := by
  simp [forwarded]

@[simp] theorem Record.forwarded_ofSending (id : TaskId) (shared : Shared H)
    (origin : Origin M H B) (handler : Option H) (turn : Sending.Turn M H B) :
    forwarded [⟨id, shared, origin, .ofSending handler turn⟩] =
      (Sending.asks handler turn.step).filterMap Wait.forwarded? := by
  rw [forwarded, waits_ofSending]

/-- Only what the legacy transport was given can it reply to. -/
theorem Exchange.legacyReply?_of_not_forwarded {wait : Wait M H B} (h : wait.forwarded? = none)
    (reply : Reply B) : legacyReply? (wait, reply) = none := by
  cases wait <;> first | rfl | cases h

theorem Wait.forwarded_map (items : List M) :
    (items.map (.legacySend : M → Wait M H B)).filterMap forwarded? = items := by
  rw [List.filterMap_map]
  exact List.filterMap_some

namespace Sending

/-- A send has its whole message still, or it is over. -/
def Unsplit (message : M) : Step (Sending M H B) (Except Error Unit) → Prop
  | .wait (.connecting kept _) | .wait (.posting kept _) | .wait (.receiving kept _) =>
    kept = message
  | .wait (.forwarding _) => False
  | .done _ => True

variable {settings : Settings M} {handler : Option H} {message : M}

theorem Unsplit.not_forwarded {point : Sending M H B} (h : Unsplit message (.wait point)) :
    (point.wait handler).forwarded? = none := by
  rcases point with ⟨kept, point⟩ | ⟨kept, request⟩ | ⟨kept, point⟩ | point
  · cases point with
    | opening opening => cases opening <;> rfl
    | legacy => rfl
  · rfl
  · cases point <;> rfl
  · cases h

/-- The legacy transport is given nothing of a message that is kept. -/
theorem Unsplit.forwards_nothing {step : Step (Sending M H B) (Except Error Unit)}
    (h : Unsplit message step) : (asks handler step).filterMap Wait.forwarded? = [] := by
  cases step with
  | wait point => simp [asks, Unsplit.not_forwarded h]
  | done result => rfl

theorem unsplit_post : Unsplit message (post settings message : Step (Sending M H B) _) := by
  unfold post
  cases settings.codec.encode message <;> trivial

/-- A turn of a send that has its whole message begins to forward it, or keeps it. -/
theorem unsplit_afterConnecting (turn : Shared H × Step Connecting (Connected B)) :
    (afterConnecting settings message turn).step = forward settings message ∨
      Unsplit message (afterConnecting settings message turn).step := by
  rcases turn with ⟨shared, point | ⟨error | _, stream⟩⟩
  · exact .inr rfl
  · exact .inr trivial
  · simp only [afterConnecting]
    split
    · exact .inl rfl
    · split
      · exact .inr trivial
      · exact .inr unsplit_post

theorem unsplit_start (shared : Shared H) :
    (start settings shared handler message : Turn M H B).step = forward settings message ∨
      Unsplit message (start settings shared handler message : Turn M H B).step := by
  unfold start
  split
  · exact .inl rfl
  · split
    · exact .inr trivial
    · split
      · exact unsplit_afterConnecting _
      · exact .inr unsplit_post
    · exact .inr unsplit_post

theorem unsplit_afterIntake (shared : Shared H) (step : Step (Intake M H B) (Except Error Nat)) :
    (afterIntake settings shared message step).step = forward settings message ∨
      Unsplit message (afterIntake settings shared message step).step := by
  rcases step with point | (error | count)
  · exact .inr rfl
  · simp only [afterIntake]
    split
    · exact .inl rfl
    · exact .inr trivial
  · exact .inr trivial

theorem unsplit_resume {shared : Shared H} {point : Sending M H B} {reply : Reply B}
    {turn : Turn M H B} (h : point.resume settings shared handler reply = some turn)
    (hUnsplit : Unsplit message (.wait point)) :
    turn.step = forward settings message ∨ Unsplit message turn.step := by
  cases resumes h with
  | connecting resumed =>
      cases hUnsplit
      exact unsplit_afterConnecting _
  | failed kept own error => exact .inr trivial
  | answered kept own response =>
      cases hUnsplit
      exact unsplit_afterIntake shared _
  | receiving resumed =>
      cases hUnsplit
      exact unsplit_afterIntake _ _
  | forwarding inner result => cases hUnsplit

/-- The items of the message go to the legacy transport, as far as the records show. -/
def Passes (settings : Settings M) (message : M) (records : List (Record M H B))
    (step : Step (Sending M H B) (Except Error Unit)) : Prop :=
  Forwarding.Reaches (settings.codec.itemsOf message) (Record.forwarded records)
    (Exchange.legacyReplies (Record.exchanges records)) step

/-- Nothing of the message has gone to the legacy transport. -/
structure Holds (message : M) (records : List (Record M H B))
    (step : Step (Sending M H B) (Except Error Unit)) : Prop where
  forwarded : Record.forwarded records = []
  replies : Exchange.legacyReplies (Record.exchanges records) = []
  unsplit : Unsplit message step

variable {records : List (Record M H B)} {id : TaskId} {shared : Shared H}
  {origin : Origin M H B} {turn : Turn M H B}

/-- Behind the choice to forward the first item is with the legacy transport. -/
theorem passes_of_forward (records : List (Record M H B))
    (hForward : turn.step = forward settings message)
    (hLegacy : settings.hasLegacy = true) (hNone : Record.forwarded records = [])
    (hReplies : Exchange.legacyReplies (Record.exchanges (records ++
      [⟨id, shared, origin, .ofSending handler turn⟩])) = []) :
    Passes settings message (records ++ [⟨id, shared, origin, .ofSending handler turn⟩])
      turn.step := by
  obtain ⟨given, hAsks, hReaches⟩ := Forwarding.reaches_start (B := B) handler message hLegacy
  unfold Passes
  rw [Record.forwarded_append, hNone, List.nil_append, Record.forwarded_ofSending, hReplies,
    hForward, hAsks, Wait.forwarded_map]
  exact hReaches

/-- Behind a turn of a send that had its whole message before. -/
theorem holds_or_passes (records : List (Record M H B))
    (hTurn : turn.step = forward settings message ∨ Unsplit message turn.step)
    (hNone : Record.forwarded records = [])
    (hReplies : Exchange.legacyReplies (Record.exchanges (records ++
      [⟨id, shared, origin, .ofSending handler turn⟩])) = []) :
    Holds message (records ++ [⟨id, shared, origin, .ofSending handler turn⟩]) turn.step ∨
      Passes settings message (records ++ [⟨id, shared, origin, .ofSending handler turn⟩])
        turn.step := by
  have hHolds (hUnsplit : Unsplit message turn.step) :
      Holds message (records ++ [⟨id, shared, origin, .ofSending handler turn⟩]) turn.step :=
    ⟨by simp [hNone, hUnsplit.forwards_nothing], hReplies, hUnsplit⟩
  obtain hForward | hUnsplit := hTurn
  · cases hLegacy : settings.hasLegacy with
    | true => exact .inr (passes_of_forward records hForward hLegacy hNone hReplies)
    | false =>
        -- Without a legacy transport the send is over before anything is given away.
        have hStep : turn.step = .done (.error .noLegacy) := by
          simp [hForward, forward, Forwarding.start, hLegacy, Step.mapPoint]
        exact .inl (hHolds (hStep ▸ trivial))
  · exact .inl (hHolds hUnsplit)

theorem Holds.resume {point : Sending M H B} {reply : Reply B}
    (hHolds : Holds message records (.wait point))
    (h : point.resume settings shared handler reply = some turn) :
    let next : Record M H B :=
      ⟨id, shared, .resumed (.sending handler point) reply, .ofSending handler turn⟩
    Holds message (records ++ [next]) turn.step ∨
      Passes settings message (records ++ [next]) turn.step := by
  refine holds_or_passes records (unsplit_resume h hHolds.unsplit) hHolds.forwarded ?_
  have hReply : Exchange.legacyReply? (point.wait handler, reply) = none :=
    Exchange.legacyReply?_of_not_forwarded hHolds.unsplit.not_forwarded reply
  rw [Record.exchanges_append, Record.exchanges_resumed, Exchange.legacyReplies_concat,
    hHolds.replies]
  exact congrArg Option.toList hReply

theorem Passes.resume {point : Sending M H B} {reply : Reply B}
    (hPasses : Passes settings message records (.wait point))
    (h : point.resume settings shared handler reply = some turn) :
    Passes settings message (records ++
      [⟨id, shared, .resumed (.sending handler point) reply, .ofSending handler turn⟩])
      turn.step := by
  unfold Passes at hPasses ⊢
  rw [Record.forwarded_append, Record.forwarded_ofSending, Record.exchanges_append,
    Record.exchanges_resumed, Exchange.legacyReplies_concat]
  generalize Record.forwarded records = given at hPasses
  generalize Exchange.legacyReplies (Record.exchanges records) = replies at hPasses
  cases hPasses with
  | waits inner split answered failure =>
      obtain ⟨result, rfl, rfl⟩ := legacy_of_resume h
      obtain ⟨more, hAsks, hMore⟩ := Forwarding.reaches_resume (B := B) result handler
        (.waits inner split answered failure)
      rw [hAsks, Wait.forwarded_map]
      exact hMore

end Sending

namespace System

/-- While its items pass, each reply of the legacy transport is followed by the next item. -/
theorem forwarded_of_passes {settings : Settings M} {message : M}
    {records : List (Record M H B)} {step : Step (Sending M H B) (Except Error Unit)}
    (h : Sending.Passes settings message records step) :
    Record.forwarded records = (settings.codec.itemsOf message).take
        ((Exchange.legacyReplies (Record.exchanges records)).length + 1) ∧
      (Sending.answers step = [] ∨
        Record.forwarded records = settings.codec.itemsOf message) := by
  unfold Sending.Passes at h
  generalize Record.forwarded records = given at h ⊢
  generalize Exchange.legacyReplies (Record.exchanges records) = replies at h ⊢
  generalize settings.codec.itemsOf message = items at h ⊢
  cases h with
  | @waits earlier _ point split answered failure =>
      have hLength : replies.length + 1 = (earlier ++ [point.item]).length := by
        simp [answered]
      have hSplit : items = (earlier ++ [point.item]) ++ point.rest := by simp [split]
      rw [hLength, hSplit, List.take_left]
      exact ⟨rfl, .inl rfl⟩
  | ends answered failure =>
      exact ⟨(List.take_of_length_le (answered ▸ Nat.le_succ _)).symm, .inr rfl⟩

/-- The legacy transport is given nothing of a message or its items one by one, and all of
them where the send is over. -/
theorem forwarded_of_life {settings : Settings M} {id : TaskId} {call : Call M H}
    {begun : Shared H} {message : M} {past : List (Record M H B)} {last : Record M H B}
    (hMessage : call.message? = some message) (life : Life settings id call begun past last) :
    let records := past ++ [last]
    let items := settings.codec.itemsOf message
    let passed := items.take ((Exchange.legacyReplies (Record.exchanges records)).length + 1)
    (Record.forwarded records = [] ∨ Record.forwarded records = passed) ∧
      (begun.latch.tripped = true → settings.hasLegacy = true →
        Record.forwarded records = passed) ∧
      (Record.results records = [] ∨ Record.forwarded records = [] ∨
        Record.forwarded records = items) := by
  obtain ⟨turn, _, hResults, hStage, hTripped⟩ := life.send_induction hMessage rfl
    (motive := fun records step _ => Record.results records = Sending.answers step ∧
      (Sending.Holds message records step ∨ Sending.Passes settings message records step) ∧
      (begun.latch.tripped = true → settings.hasLegacy = true →
        Sending.Passes settings message records step))
    (by
      intro turn hTurn
      refine ⟨by simp, ?_, fun hTripped hLegacy => ?_⟩
      · exact Sending.holds_or_passes [] (hTurn ▸ Sending.unsplit_start begun) rfl rfl
      · refine Sending.passes_of_forward [] ?_ hLegacy rfl rfl
        simp [hTurn, Sending.start, hTripped])
    (by
      rintro records point before shared reply turn ⟨hResults, hStage, hTripped⟩ _ hResume
      refine ⟨by simp [hResults, Sending.answers], ?_, fun hBegun hLegacy =>
        (hTripped hBegun hLegacy).resume hResume⟩
      obtain hHolds | hPasses := hStage
      · exact hHolds.resume hResume
      · exact .inr (hPasses.resume hResume))
  refine ⟨?_, fun hBegun hLegacy => (forwarded_of_passes (hTripped hBegun hLegacy)).1, ?_⟩
  · exact hStage.imp (·.forwarded) fun hPasses => (forwarded_of_passes hPasses).1
  · rw [hResults]
    obtain hHolds | hPasses := hStage
    · exact .inr (.inl hHolds.forwarded)
    · exact (forwarded_of_passes hPasses).2.imp_right .inr

/-- Whatever the legacy transport says, it is given nothing of a message or its items in their
order, the next one behind each reply, and all of them where the send returns. A send that
begins with a tripped latch does forward. Nothing gets lost, since the leaves of the items are
those of the message. The items are single messages, and so the leaves themselves, unless one
of them is a batch again. -/
theorem forwarded_of_began {settings : Settings M} {actions : List (Action M H B)}
    {record : Record M H B} {call : Call M H} {message : M} {isBatch : M → Bool}
    {leaves : M → List M} (hNesting : settings.codec.Nesting isBatch leaves)
    (hMem : record ∈ history settings {} actions) (hBegan : record.origin = .began call)
    (hMessage : call.message? = some message) :
    let records := own record.id (history settings {} actions)
    let items := settings.codec.itemsOf message
    let passed := items.take ((Exchange.legacyReplies (Record.exchanges records)).length + 1)
    (Record.forwarded records = [] ∨ Record.forwarded records = passed) ∧
      (record.before.latch.tripped = true → settings.hasLegacy = true →
        Record.forwarded records = passed) ∧
      (Record.results records = [] ∨ Record.forwarded records = [] ∨
        Record.forwarded records = items) ∧
      items.flatMap leaves = leaves message ∧
      (items = leaves message ↔ ∀ item ∈ items, isBatch item = false) := by
  intro records items passed
  obtain ⟨past, last, hOwn, life, _⟩ := life_of_began hMem hBegan
  have hRecords : records = past ++ [last] := hOwn
  obtain ⟨hPassed, hTripped, hAll⟩ := forwarded_of_life hMessage life
  rw [← hRecords] at hPassed hTripped hAll
  exact ⟨hPassed, hTripped, hAll, (hNesting.leaves_eq message).symm,
    hNesting.items_eq_leaves_iff message⟩

namespace Sample

def fallenBack (codec : Codec M) : Settings M :=
  { config := { baseUri := "http://host" }, codec, policy := {}, hasLegacy := true }

/-- A connect finds no endpoint, and the first of two items of a message fails. -/
def sending (message : M) : List (Action M String Unit) :=
  [.call (.connect "handler"), .reply 0 (.answer (.ok ⟨404, [], ()⟩)), .reply 0 (.legacy (.ok ())),
    .call (.send message), .reply 1 (.legacy (.error (.legacy "down"))),
    .reply 1 (.legacy (.ok ()))]

/-- A batch of a batch and a notification. -/
def nested : Rpc.Message :=
  .batch [.batch [.mkNotification "a" none, .mkNotification "b" none], .mkNotification "c" none]

end Sample

theorem forwarded_of_began_flat :
    let a := Rpc.Message.mkNotification "a" none
    let b := Rpc.Message.mkNotification "b" none
    let all := history (Sample.fallenBack .jsonRpc) {} (Sample.sending (.batch [a, b]))
    Record.results (own 1 all) = [.error (.legacy "down")] ∧
      Record.forwarded (own 1 all) = [a, b] ∧
      Record.forwarded (own 1 all) = Rpc.Message.leaves (.batch [a, b]) := by
  intro a b all
  have hResults : Record.results (own 1 all) = [.error (.legacy "down")] := rfl
  have hMem : all.get ⟨3, by decide⟩ ∈ all := List.get_mem all _
  obtain ⟨_, _, hAll, _, hSingle⟩ := forwarded_of_began .jsonRpc hMem rfl rfl
  have hForwarded : Record.forwarded (own 1 all) = [a, b] :=
    (hAll.resolve_left nofun).resolve_left nofun
  refine ⟨hResults, hForwarded, hForwarded.trans (hSingle.mpr fun item hItem => ?_)⟩
  rcases List.mem_pair.mp hItem with rfl | rfl <;> rfl

/-- The legacy transport is given a batch when it is an item of a batch. -/
theorem forwarded_batch :
    (∃ item ∈ Record.forwarded (own 1 (history (Sample.fallenBack .jsonRpc) {}
      (Sample.sending Sample.nested))), item.isBatch = true) ∧
    ∃ item ∈ Record.forwarded (own 1 (history (Sample.fallenBack .value) {}
      (Sample.sending (.array [.array [.null], .null])))), item.isArray = true :=
  ⟨⟨_, .head _, rfl⟩, ⟨_, .head _, rfl⟩⟩

end System

end Transport

end RpcTransport
