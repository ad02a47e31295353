import RpcTransport.Proofs.Life

namespace RpcTransport.Transport

variable {M H B : Type}

namespace Wait

/-- The wait for the answer to a posted message. -/
def isPost : Wait M H B → Bool
  | .answer request => request.method = .post
  | _ => false

/-- The waits in which a message, or an item of it, leaves. -/
def carries : Wait M H B → Bool
  | .legacySend _ => true
  | wait => wait.isPost

/-- The waits in which a message is posted and the reply to it is taken in. -/
def delivers : Wait M H B → Bool
  | .item _ => true
  | .verdict _ _ => true
  | wait => wait.isPost

end Wait

/-- A wait that is over, with the reply that ended it. -/
abbrev Exchange (M H B : Type) := Wait M H B × Reply B

namespace Exchange

def item? : Exchange M H B → Option BodyItem
  | (.item _, .item item) => item
  | _ => none

def verdict? : Exchange M H B → Option (Except Error Unit)
  | (.verdict _ _, .verdict result) => some result
  | _ => none

/-- A message that a handler accepted. -/
def accepted? : Exchange M H B → Option (H × M)
  | (.verdict handler message, .verdict (.ok ())) => some (handler, message)
  | _ => none

def legacyReply? : Exchange M H B → Option (Except Error Unit)
  | (.legacySend _, .legacy result) => some result
  | _ => none

/-- The items that were read of a body. -/
def items (exchanges : List (Exchange M H B)) : List BodyItem :=
  exchanges.filterMap item?

/-- What handlers said to the messages that they were given. -/
def verdicts (exchanges : List (Exchange M H B)) : List (Except Error Unit) :=
  exchanges.filterMap verdict?

def accepted (exchanges : List (Exchange M H B)) : List (H × M) :=
  exchanges.filterMap accepted?

/-- What the legacy transport said to the messages that it was given. -/
def legacyReplies (exchanges : List (Exchange M H B)) : List (Except Error Unit) :=
  exchanges.filterMap legacyReply?

theorem legacyReply?_of_not_carries {wait : Wait M H B} (h : wait.carries = false)
    (reply : Reply B) : legacyReply? (wait, reply) = none := by
  cases wait <;> first | rfl | cases h

theorem filterMap_concat {β γ : Type} (f : β → Option γ) (list : List β) (last : β) :
    (list ++ [last]).filterMap f = list.filterMap f ++ (f last).toList := by
  rw [List.filterMap_append]
  cases h : f last <;> simp [h]

@[simp] theorem items_concat (exchanges : List (Exchange M H B)) (last : Exchange M H B) :
    items (exchanges ++ [last]) = items exchanges ++ (item? last).toList :=
  filterMap_concat _ _ _

@[simp] theorem verdicts_concat (exchanges : List (Exchange M H B)) (last : Exchange M H B) :
    verdicts (exchanges ++ [last]) = verdicts exchanges ++ (verdict? last).toList :=
  filterMap_concat _ _ _

@[simp] theorem accepted_concat (exchanges : List (Exchange M H B)) (last : Exchange M H B) :
    accepted (exchanges ++ [last]) = accepted exchanges ++ (accepted? last).toList :=
  filterMap_concat _ _ _

@[simp] theorem legacyReplies_concat (exchanges : List (Exchange M H B))
    (last : Exchange M H B) :
    legacyReplies (exchanges ++ [last]) =
      legacyReplies exchanges ++ (legacyReply? last).toList :=
  filterMap_concat _ _ _

end Exchange

namespace Record

/-- What the task had waited for, and the reply to it. -/
def exchange? (record : Record M H B) : Option (Exchange M H B) :=
  match record.origin with
  | .began _ => none
  | .resumed task reply => some (task.wait, reply)

/-- All waits that began, in order. -/
def waits (records : List (Record M H B)) : List (Wait M H B) :=
  records.filterMap (·.turn.wait?)

/-- What was returned. A call returns once at most. -/
def results (records : List (Record M H B)) : List (Except Error Unit) :=
  records.filterMap (·.turn.result?)

def exchanges (records : List (Record M H B)) : List (Exchange M H B) :=
  records.filterMap exchange?

def posts (records : List (Record M H B)) : List (Wait M H B) :=
  (waits records).filter Wait.isPost

/-- All that left for the message of a send. -/
def sent (records : List (Record M H B)) : List (Wait M H B) :=
  (waits records).filter Wait.carries

/-- The posting of a message, up to the last verdict on the reply to it. -/
def delivery (records : List (Record M H B)) : List (Exchange M H B) :=
  (exchanges records).filter (·.1.delivers)

@[simp] theorem waits_append (records more : List (Record M H B)) :
    waits (records ++ more) = waits records ++ waits more :=
  List.filterMap_append

@[simp] theorem results_append (records more : List (Record M H B)) :
    results (records ++ more) = results records ++ results more :=
  List.filterMap_append

@[simp] theorem exchanges_append (records more : List (Record M H B)) :
    exchanges (records ++ more) = exchanges records ++ exchanges more :=
  List.filterMap_append

@[simp] theorem sent_append (records more : List (Record M H B)) :
    sent (records ++ more) = sent records ++ sent more := by
  simp [sent]

@[simp] theorem delivery_append (records more : List (Record M H B)) :
    delivery (records ++ more) = delivery records ++ delivery more := by
  simp [delivery]

/-- Posts are among what left. -/
theorem posts_eq (records : List (Record M H B)) :
    posts records = (sent records).filter Wait.isPost := by
  rw [posts, sent, List.filter_filter]
  apply List.filter_congr
  intro wait _
  cases wait <;> simp [Wait.carries, Wait.isPost]

end Record

/-- The error of the first reply that is one. -/
def firstFailure (replies : List (Except Error Unit)) : Option Error :=
  replies.findSome? fun
    | .error error => some error
    | .ok () => none

/-- A later failure does not replace an earlier one. -/
theorem firstFailure_append (replies : List (Except Error Unit)) (reply : Except Error Unit) :
    firstFailure (replies ++ [reply]) =
      match firstFailure replies, reply with
      | some earlier, _ => some earlier
      | none, .error error => some error
      | none, .ok () => none := by
  rw [firstFailure, List.findSome?_append, ← firstFailure]
  cases firstFailure replies <;> rcases reply with error | _ <;> rfl

theorem firstFailure_eq_none {replies : List (Except Error Unit)} :
    firstFailure replies = none ↔ ∀ reply ∈ replies, reply = .ok () := by
  rw [firstFailure, List.findSome?_eq_none_iff]
  constructor
  · intro h reply hMem
    have hNone := h reply hMem
    rcases reply with error | _
    · cases hNone
    · rfl
  · intro h reply hMem
    rw [h reply hMem]

end RpcTransport.Transport
