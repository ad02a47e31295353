import RpcTransport.Proofs.Conversation
import RpcTransport.Proofs.Resumption

/-! A turn moves the token exactly if it completes a frame of messages that has an id. -/
namespace RpcTransport

namespace Frame

/-- The frame that an item closes behind the lines of a body. A line closes one if it is
blank, and the end of the body closes the last one. -/
def closedBy (lines : List String) : Option BodyItem → Option Frame
  | some (.ok line) => ((Draft.empty.addAll lines).2.add line).1
  | some (.error _) => none
  | none => (Draft.empty.addAll lines).2.close.1

theorem resumptionId_eq_some {frame : Frame} {id : String} :
    frame.resumptionId = some id ↔ frame.id = some id ∧ id ≠ "" := by
  simp [resumptionId, Option.filter_eq_some_iff]

end Frame

namespace Decoder

variable {M : Type} {codec : Codec M} {stopped : Bool} {lines : List String}
  {item : Option BodyItem} {messages : List M} {id : Option String}

/-- The reader that goes on. -/
def Progress.next? : Progress M → Option Reader
  | .more next => some next
  | .messages _ _ next => next
  | .finished _ => none

namespace Reader

/-- The reader of an event stream keeps what the lines leave open. -/
def Behind (lines : List String) : Reader → Prop
  | .events draft => draft = (Frame.Draft.empty.addAll lines).2
  | _ => True

theorem behind_start (decoder : Decoder) : (start decoder).Behind [] := by
  cases decoder with
  | singleDocument => exact True.intro
  | jsonSequence => exact True.intro
  | eventStream => exact rfl

@[simp] theorem next?_skip (next : Option Reader) : (skip next : Progress M).next? = next := by
  cases next <;> rfl

/-- Behind a frame the reader goes on, unless the data of the frame are malformed. -/
theorem next_of_ofFrame {frame : Option Frame} {next : Option Reader} {reader : Reader}
    (h : (ofFrame codec frame next).next? = some reader) : next = some reader := by
  unfold ofFrame at h
  split at h
  · simpa using h
  · split at h
    · split at h
      · exact h
      · cases h
    · simpa using h

theorem messages_of_ofFrame {frame : Option Frame} {next after : Option Reader}
    (h : ofFrame codec frame next = .messages messages id after) :
    ∃ closed, frame = some closed ∧ closed.isMessage = true ∧
      codec.readDocument closed.data = .ok messages ∧ closed.resumptionId = id := by
  unfold ofFrame at h
  split at h
  · cases next <;> cases h
  · rename_i closed
    split at h
    · rename_i hMessage
      split at h
      · rename_i hData
        cases h
        exact ⟨closed, rfl, hMessage, hData, rfl⟩
      · cases h
    · cases next <;> cases h

theorem accept_stream_end (codec : Codec M) (stopped : Bool) (draft : Frame.Draft) :
    (events draft).accept codec stopped none = ofFrame codec draft.close.1 none := by
  rw [accept]

theorem accept_stream_line (codec : Codec M) (draft : Frame.Draft) (line : String) :
    (events draft).accept codec false (some (.ok line)) =
      ofFrame codec (draft.add line).1 (some (.events (draft.add line).2)) := by
  simp only [accept, Bool.false_eq_true, ite_false]

/-- An item brings the reader of an event stream behind its line. -/
theorem behind_accept {reader next : Reader} (hBehind : reader.Behind lines)
    (h : (reader.accept codec stopped item).next? = some next) :
    next.Behind (lines ++ (item.bind Except.toOption).toList) := by
  rcases reader with text | _ | draft
  · rcases item with _ | (error | line)
    · simp only [accept] at h
      split at h
      · cases h
      · split at h <;> cases h
    · cases h
    · cases h
      exact True.intro
  · rcases item with _ | (error | line)
    · cases h
    · simp only [accept] at h
      split at h
      · cases h
        exact True.intro
      · cases h
    · simp only [accept] at h
      split at h
      · cases h
      · split at h
        · cases h
          exact True.intro
        · split at h <;> cases h <;> exact True.intro
  · rcases item with _ | (error | line)
    · rw [accept_stream_end] at h
      cases next_of_ofFrame h
    · cases h
    · cases stopped with
      | true => cases h
      | false =>
          rw [accept_stream_line] at h
          cases next_of_ofFrame h
          cases hBehind
          simp [Behind, Except.toOption, Frame.Draft.addAll_append, Frame.Draft.addAll]

/-- Only frames have ids. -/
theorem events_of_accept {reader : Reader} {next : Option Reader} {id : String}
    (h : reader.accept codec stopped item = .messages messages (some id) next) :
    ∃ draft, reader = .events draft := by
  rcases reader with text | _ | draft
  · rcases item with _ | (error | line)
    · simp only [accept] at h
      split at h
      · cases h
      · split at h <;> cases h
    · cases h
    · cases h
  · rcases item with _ | (error | line)
    · cases h
    · simp only [accept] at h
      split at h <;> cases h
    · simp only [accept] at h
      split at h
      · cases h
      · split at h
        · cases h
        · split at h <;> cases h
  · exact ⟨draft, rfl⟩

/-- The messages of an event stream are those of a frame that the item closes. -/
theorem frame_of_accept {next : Option Reader}
    (h : (events (Frame.Draft.empty.addAll lines).2).accept codec stopped item =
      .messages messages id next) :
    (stopped = true → item = none) ∧ ∃ frame, Frame.closedBy lines item = some frame ∧
      frame.isMessage = true ∧ codec.readDocument frame.data = .ok messages ∧
      frame.resumptionId = id := by
  rcases item with _ | (error | line)
  · rw [accept_stream_end] at h
    exact ⟨fun _ => rfl, messages_of_ofFrame h⟩
  · cases h
  · cases stopped with
    | true => cases h
    | false =>
        rw [accept_stream_line] at h
        exact ⟨nofun, messages_of_ofFrame h⟩

theorem accept_of_frame {frame : Frame} (hUnstopped : stopped = true → item = none)
    (hCloses : Frame.closedBy lines item = some frame) (hMessage : frame.isMessage = true)
    (hData : codec.readDocument frame.data = .ok messages) :
    ∃ next, (events (Frame.Draft.empty.addAll lines).2).accept codec stopped item =
      .messages messages frame.resumptionId next := by
  have hFrame : ∀ next, ofFrame codec (some frame) next =
      .messages messages frame.resumptionId next := by
    intro next
    simp [ofFrame, hMessage, hData]
  rcases item with _ | (error | line)
  · rw [Frame.closedBy] at hCloses
    rw [accept_stream_end, hCloses]
    exact ⟨none, hFrame none⟩
  · cases hCloses
  · cases stopped with
    | true => cases hUnstopped rfl
    | false =>
        rw [Frame.closedBy] at hCloses
        rw [accept_stream_line, hCloses]
        exact ⟨_, hFrame _⟩

end Reader

end Decoder

namespace Transport

variable {M H B : Type}

namespace Exchange

/-- The lines of a body behind a wait. An answer begins a new body. -/
def linesBehind (before : List String) : Exchange M H B → List String
  | (.answer _, _) => []
  | (.item _, .item item) => before ++ (item.bind Except.toOption).toList
  | _ => before

/-- A handler accepts messages one after the other. Without a handler nothing is asked. -/
def accepting (handler : Option H) (messages : List M) : List (Exchange M H B) :=
  match handler with
  | some handler => messages.map fun message => (.verdict handler message, .verdict (.ok ()))
  | none => []

/-- A handler that accepted all messages has no message left. -/
theorem all_accepted {handler : Option H} {given rest : List M}
    (h : (accepting handler given : List (Exchange M H B)) = accepting handler (given ++ rest)) :
    handler = none ∨ rest = [] := by
  cases handler with
  | none => exact Or.inl rfl
  | some handler =>
      have hLength := congrArg List.length h
      simp only [accepting, List.length_map, List.length_append] at hLength
      exact Or.inr (List.length_eq_zero_iff.mp (by omega))

end Exchange

/-- A task takes in a body for a handler. The reply to a post is taken in to its end, and a
stream until the transport is closed. -/
inductive Task.TakesIn (shared : Shared H) :
    Task M H B → (stopped : Bool) → Option H → Intake M H B → Prop where
  | reply (handler : Option H) (message : M) (point : Intake M H B) :
      TakesIn shared (.sending handler (.receiving message point)) false handler point
  | stream (handler : Option H) (point : Intake M H B) :
      TakesIn shared (.streaming handler (.receiving point)) shared.isClosed handler point

namespace Task

/-- The task is at a body. -/
def isTaking : Task M H B → Bool
  | .sending _ (.receiving _ _) => true
  | .streaming _ (.receiving _) => true
  | _ => false

variable {shared : Shared H} {task : Task M H B} {stopped : Bool} {handler : Option H}
  {point : Intake M H B}

theorem TakesIn.wait_eq (h : task.TakesIn shared stopped handler point) :
    task.wait = point.wait := by
  cases h <;> rfl

theorem TakesIn.isTaking (h : task.TakesIn shared stopped handler point) :
    task.isTaking = true := by
  cases h <;> rfl

/-- Only a task at a body waits for a verdict. -/
theorem isTaking_of_verdict {owner : H} {message : M} (h : task.wait = .verdict owner message) :
    task.isTaking = true := by
  rcases task with ⟨_, (_ | _) | _⟩ | _ | ⟨_, ⟨_, (_ | _) | _⟩ | _ | _ | _⟩ | _ | ⟨_, _ | _ | _⟩
  all_goals first | rfl | cases h

end Task

namespace Record

/-- The lines that a task has read of the body that it takes in. -/
def lines (records : List (Record M H B)) : List String :=
  (exchanges records).foldl Exchange.linesBehind []

/-- A turn closes a frame of an event stream that has the given lines before. A task that
is to stop takes no further line. -/
inductive Closes (lines : List String) (record : Record M H B) (handler : Option H)
    (frame : Frame) : Prop where
  | intro {task : Task M H B} {stopped : Bool} {body : B} {draft : Frame.Draft} {handled : Nat}
      {item : Option BodyItem} (origin : record.origin = .resumed task (.item item))
      (takes : task.TakesIn record.before stopped handler (.reading body (.events draft) handled))
      (unstopped : stopped = true → item = none)
      (closed : Frame.closedBy lines item = some frame)

/-- The last of the records of a task completes a frame of messages that has the id: the
task closed the frame, its data were decoded as a whole, and since then the handler has
accepted each of the messages. -/
inductive Completes (codec : Codec M) (records : List (Record M H B)) (id : String) : Prop where
  | intro {before after : List (Record M H B)} {closing : Record M H B} {handler : Option H}
      {frame : Frame} {messages : List M} (split : records = before ++ closing :: after)
      (closes : closing.Closes (lines before) handler frame) (isMessage : frame.isMessage = true)
      (decodes : codec.readDocument frame.data = .ok messages)
      (accepted : exchanges after = Exchange.accepting handler messages)
      (named : frame.id = some id) (nonempty : id ≠ "")

/-- A turn moves the token to the id of the frame that it completes, and otherwise leaves
it alone. -/
def Settles (codec : Codec M) (records : List (Record M H B))
    (before after : ResumptionToken) : Prop :=
  (∃ id, Completes codec records id ∧ after = some id) ∨
    ((∀ id, ¬Completes codec records id) ∧ after = before)

/-- A turn takes an item that has messages for the handler. Behind the last of them the id
counts. -/
inductive Yields (codec : Codec M) (lines : List String) (record : Record M H B)
    (handler : Option H) (messages : List M) (id : Option String) : Prop where
  | intro {task : Task M H B} {stopped : Bool} {body : B} {reader : Decoder.Reader}
      {handled : Nat} {item : Option BodyItem} {next : Option Decoder.Reader}
      (origin : record.origin = .resumed task (.item item))
      (takes : task.TakesIn record.before stopped handler (.reading body reader handled))
      (behind : reader.Behind lines)
      (accepts : reader.accept codec stopped item = .messages messages id next)

/-- Of the messages of the last item the handler accepted those that are given, and `rest`
are still to come. -/
inductive Offers (codec : Codec M) (records : List (Record M H B)) (handler : Option H)
    (given rest : List M) (id : Option String) : Prop where
  | intro {before after : List (Record M H B)} {closing : Record M H B}
      (split : records = before ++ closing :: after)
      (yields : closing.Yields codec (lines before) handler (given ++ rest) id)
      (accepted : exchanges after = Exchange.accepting handler given)

/-- The turn takes an item of a body, or its end. -/
def TakesItem (record : Record M H B) : Prop :=
  ∃ task item, record.origin = .resumed task (.item item)

variable {codec : Codec M} {records before after : List (Record M H B)}
  {record closing : Record M H B} {handler : Option H} {frame : Frame} {messages : List M}
  {id : Option String}

theorem lines_concat {exchange : Exchange M H B} (h : record.exchange? = some exchange) :
    lines (records ++ [record]) = exchange.linesBehind (lines records) := by
  simp [lines, exchanges, h]

theorem exchanges_concat {exchange : Exchange M H B} (h : record.exchange? = some exchange) :
    exchanges (records ++ [record]) = exchanges records ++ [exchange] := by
  simp [exchanges, h]

theorem Closes.takesItem {lines : List String} (h : record.Closes lines handler frame) :
    record.TakesItem := by
  obtain ⟨origin, _, _, _⟩ := h
  exact ⟨_, _, origin⟩

theorem Yields.takesItem {lines : List String} (h : record.Yields codec lines handler messages id) :
    record.TakesItem := by
  obtain ⟨origin, _, _, _⟩ := h
  exact ⟨_, _, origin⟩

/-- An item closes one frame at most. -/
theorem Closes.unique {lines : List String} {other : Frame} {owner : Option H}
    (h : record.Closes lines handler frame) (h' : record.Closes lines owner other) :
    frame = other := by
  obtain ⟨origin, _, _, closed⟩ := h
  obtain ⟨origin', _, _, closed'⟩ := h'
  rw [origin] at origin'
  cases origin'
  exact Option.some.inj (closed.symm.trans closed')

/-- The verdicts of a handler take no item. -/
theorem not_takesItem_of_accepting (h : exchanges after = Exchange.accepting handler messages) :
    ∀ record ∈ after, ¬record.TakesItem := by
  rintro record hMem ⟨task, item, hOrigin⟩
  have hExchange : (task.wait, .item item) ∈ exchanges after :=
    List.mem_filterMap.mpr ⟨record, hMem, by simp [exchange?, hOrigin]⟩
  rw [h] at hExchange
  cases handler with
  | none => cases hExchange
  | some handler => simp [Exchange.accepting] at hExchange

/-- The last turn of a task that takes an item splits its records in one way. -/
theorem split_unique {before' after' : List (Record M H B)} {closing' : Record M H B}
    (h : before ++ closing :: after = before' ++ closing' :: after')
    (hItem : closing.TakesItem) (hItem' : closing'.TakesItem)
    (hAfter : ∀ record ∈ after, ¬record.TakesItem)
    (hAfter' : ∀ record ∈ after', ¬record.TakesItem) :
    before = before' ∧ closing = closing' ∧ after = after' := by
  rcases List.append_eq_append_iff.mp h with ⟨mid, rfl, hMid⟩ | ⟨mid, rfl, hMid⟩
  · cases mid with
    | nil => simpa using hMid
    | cons first mid =>
        obtain ⟨_, rfl⟩ := List.cons.inj hMid
        exact absurd hItem' (hAfter closing' (by simp))
  · cases mid with
    | nil => simpa [eq_comm] using hMid
    | cons first mid =>
        obtain ⟨_, rfl⟩ := List.cons.inj hMid
        exact absurd hItem (hAfter' closing (by simp))

/-- A turn completes one frame at most. -/
theorem Completes.unique {id other : String} (h : Completes codec records id)
    (h' : Completes codec records other) : id = other := by
  obtain ⟨split, closes, _, _, accepted, named, _⟩ := h
  obtain ⟨split', closes', _, _, accepted', named', _⟩ := h'
  obtain ⟨rfl, rfl, _⟩ := split_unique (split.symm.trans split') closes.takesItem closes'.takesItem
    (not_takesItem_of_accepting accepted) (not_takesItem_of_accepting accepted')
  obtain rfl := closes.unique closes'
  exact Option.some.inj (named.symm.trans named')

/-- An id counts only behind the messages of a frame. -/
theorem Yields.closes {lines : List String} {id : String}
    (h : record.Yields codec lines handler messages (some id)) :
    ∃ frame, record.Closes lines handler frame ∧ frame.isMessage = true ∧
      codec.readDocument frame.data = .ok messages ∧ frame.id = some id ∧ id ≠ "" := by
  obtain ⟨origin, takes, behind, accepts⟩ := h
  obtain ⟨draft, rfl⟩ := Decoder.Reader.events_of_accept accepts
  cases behind
  obtain ⟨hUnstopped, frame, hCloses, hMessage, hData, hId⟩ :=
    Decoder.Reader.frame_of_accept accepts
  obtain ⟨hNamed, hNonempty⟩ := Frame.resumptionId_eq_some.mp hId
  exact ⟨frame, ⟨origin, takes, hUnstopped, hCloses⟩, hMessage, hData, hNamed, hNonempty⟩

/-- A frame that a turn closes is the one whose messages it has for the handler. -/
theorem Closes.yields {lines : List String} {task : Task M H B} {stopped : Bool} {owner : Option H}
    {body : B} {reader : Decoder.Reader} {handled : Nat} {item : Option BodyItem}
    (h : record.Closes lines handler frame) (hMessage : frame.isMessage = true)
    (hData : codec.readDocument frame.data = .ok messages)
    (hOrigin : record.origin = .resumed task (.item item))
    (hTakes : task.TakesIn record.before stopped owner (.reading body reader handled))
    (hBehind : reader.Behind lines) :
    handler = owner ∧ ∃ next,
      reader.accept codec stopped item = .messages messages frame.resumptionId next := by
  obtain ⟨origin, takes, unstopped, closed⟩ := h
  rw [hOrigin] at origin
  cases origin
  cases hTakes <;> cases takes <;> cases hBehind <;>
    exact ⟨rfl, Decoder.Reader.accept_of_frame unstopped closed hMessage hData⟩

section Offers

variable {given rest : List M} {token : ResumptionToken}

theorem Offers.completes {id : String}
    (h : Offers codec records handler messages [] (some id)) : Completes codec records id := by
  obtain ⟨split, yields, accepted⟩ := h
  obtain ⟨frame, hCloses, hMessage, hData, hNamed, hNonempty⟩ := yields.closes
  rw [List.append_nil] at hData
  exact ⟨split, hCloses, hMessage, hData, accepted, hNamed, hNonempty⟩

/-- What is complete is the frame of the last item, and its handler has no message left. -/
theorem Offers.of_completes {id : Option String} {completed : String}
    (h : Offers codec records handler given rest id)
    (hCompletes : Completes codec records completed) :
    id = some completed ∧ (handler = none ∨ rest = []) := by
  obtain ⟨hSplit, hYields, hGiven⟩ := h
  obtain ⟨split, closes, isMessage, decodes, accepted, named, nonempty⟩ := hCompletes
  obtain ⟨rfl, rfl, rfl⟩ := split_unique (split.symm.trans hSplit) closes.takesItem
    hYields.takesItem (not_takesItem_of_accepting accepted) (not_takesItem_of_accepting hGiven)
  obtain ⟨origin, takes, behind, accepts⟩ := hYields
  obtain ⟨rfl, next, hAccepts⟩ := closes.yields isMessage decodes origin takes behind
  rw [accepts] at hAccepts
  cases hAccepts
  exact ⟨Frame.resumptionId_eq_some.mpr ⟨named, nonempty⟩,
    Exchange.all_accepted (hGiven.symm.trans accepted)⟩

/-- Behind the last message of an item the id counts. -/
theorem Offers.settles (h : Offers codec records handler messages [] id)
    (token : ResumptionToken) : Settles codec records token (token.record id) := by
  cases id with
  | none =>
      refine Or.inr ⟨fun completed hCompletes => ?_, rfl⟩
      cases (h.of_completes hCompletes).1
  | some id =>
      have hCompletes := h.completes
      obtain ⟨_, _, _, _, _, _, nonempty⟩ := hCompletes
      exact Or.inl ⟨id, h.completes, by simp [ResumptionToken.record, ResumptionToken.advance,
        nonempty]⟩

/-- While a message is with the handler its frame is not complete. -/
theorem Offers.unsettled {owner : H} {message : M}
    (h : Offers codec records (some owner) given (message :: rest) id) (token : ResumptionToken) :
    Settles codec records token token := by
  refine Or.inr ⟨fun completed hCompletes => ?_, rfl⟩
  rcases (h.of_completes hCompletes).2 with hNone | hNil
  · cases hNone
  · cases hNil

/-- Each message that is accepted is one less to come. -/
theorem Offers.accept {owner : H} {message : M}
    (h : Offers codec records (some owner) given (message :: rest) id)
    (hExchange : record.exchange? = some (.verdict owner message, .verdict (.ok ()))) :
    Offers codec (records ++ [record]) (some owner) (given ++ [message]) rest id := by
  obtain @⟨before, after, closing, rfl, yields, accepted⟩ := h
  have hSplit : before ++ closing :: after ++ [record] = before ++ closing :: (after ++ [record]) :=
    by simp
  refine ⟨hSplit, ?_, ?_⟩
  · rw [List.append_assoc]
    exact yields
  · rw [exchanges_concat hExchange, accepted]
    simp [Exchange.accepting]

end Offers

/-- The last turn closes the frame itself, or a handler accepts a message in it. -/
theorem Completes.last {completed : String} {task : Task M H B} {reply : Reply B}
    (h : Completes codec (records ++ [record]) completed)
    (hOrigin : record.origin = .resumed task reply) :
    (∃ handler frame messages, record.Closes (lines records) handler frame ∧
        frame.isMessage = true ∧ codec.readDocument frame.data = .ok messages) ∨
      ∃ handler message, task.wait = .verdict handler message ∧ reply = .verdict (.ok ()) := by
  obtain @⟨before, after, closing, handler, frame, messages, split, closes, isMessage, decodes,
    accepted, _, _⟩ := h
  rcases List.eq_nil_or_concat after with rfl | ⟨after, last, rfl⟩
  · obtain ⟨rfl, hLast⟩ := List.append_inj' split rfl
    cases hLast
    exact Or.inl ⟨handler, frame, messages, closes, isMessage, decodes⟩
  · right
    have hSplit : records ++ [record] = (before ++ closing :: after) ++ [last] := by simp [split]
    obtain ⟨_, hLast⟩ := List.append_inj' hSplit rfl
    cases hLast
    rw [List.concat_eq_append, exchanges_concat (by rw [exchange?, hOrigin])] at accepted
    have hMem : (task.wait, reply) ∈ Exchange.accepting handler messages := by simp [← accepted]
    cases handler with
    | none => cases hMem
    | some handler =>
        obtain ⟨message, _, hEq⟩ := List.mem_map.mp hMem
        obtain ⟨hWait, hReply⟩ := Prod.mk.inj hEq
        exact ⟨handler, message, hWait.symm, hReply.symm⟩

/-- A call completes nothing when it begins. -/
theorem settles_began {call : Call M H} (hOrigin : record.origin = .began call)
    (token : ResumptionToken) : Settles codec [record] token token := by
  refine Or.inr ⟨fun completed hCompletes => ?_, rfl⟩
  obtain ⟨split, closes, _, _, _, _, _⟩ := hCompletes
  obtain ⟨task, item, hResumed⟩ := closes.takesItem
  rcases List.cons_eq_append_iff.mp split with ⟨rfl, hLast⟩ | ⟨_, rfl, hLast⟩
  · cases hLast
    rw [hOrigin] at hResumed
    cases hResumed
  · simp at hLast

/-- A turn of a task that takes in no body completes nothing. -/
theorem settles_silent {task : Task M H B} {reply : Reply B}
    (hOrigin : record.origin = .resumed task reply) (hSilent : task.isTaking = false)
    (token : ResumptionToken) : Settles codec (records ++ [record]) token token := by
  refine Or.inr ⟨fun completed hCompletes => Bool.eq_false_iff.mp hSilent ?_, rfl⟩
  rcases hCompletes.last hOrigin with ⟨_, _, _, ⟨origin, takes, _, _⟩, _, _⟩ | ⟨_, _, hWait, _⟩
  · rw [hOrigin] at origin
    cases origin
    exact takes.isTaking
  · exact Task.isTaking_of_verdict hWait

/-- An item without messages completes nothing. -/
theorem settles_item {task : Task M H B} {stopped : Bool} {body : B} {reader : Decoder.Reader}
    {handled : Nat} {item : Option BodyItem} (hOrigin : record.origin = .resumed task (.item item))
    (hTakes : task.TakesIn record.before stopped handler (.reading body reader handled))
    (hBehind : reader.Behind (lines records))
    (hAccept : ∀ messages id next, reader.accept codec stopped item ≠ .messages messages id next)
    (token : ResumptionToken) : Settles codec (records ++ [record]) token token := by
  refine Or.inr ⟨fun completed hCompletes => ?_, rfl⟩
  rcases hCompletes.last hOrigin with ⟨_, _, _, hCloses, hMessage, hData⟩ | ⟨_, _, _, hReply⟩
  · obtain ⟨_, next, hMessages⟩ := hCloses.yields hMessage hData hOrigin hTakes hBehind
    exact hAccept _ _ _ hMessages
  · cases hReply

/-- A message that is refused completes nothing. -/
theorem settles_refused {task : Task M H B} {error : Error}
    (hOrigin : record.origin = .resumed task (.verdict (.error error)))
    (token : ResumptionToken) : Settles codec (records ++ [record]) token token := by
  refine Or.inr ⟨fun completed hCompletes => ?_, rfl⟩
  rcases hCompletes.last hOrigin with ⟨_, _, _, hCloses, _, _⟩ | ⟨_, _, _, hReply⟩
  · obtain ⟨_, _, hItem⟩ := hCloses.takesItem
    rw [hOrigin] at hItem
    cases hItem
  · cases hReply

end Record

namespace Intake

variable {codec : Codec M} {handler : Option H} {token after : ResumptionToken}
  {records : List (Record M H B)} {record : Record M H B}
  {step : Step (Intake M H B) (Except Error Nat)}

/-- What the records of a task show of the point at which it takes in its body. -/
def Shown (codec : Codec M) (handler : Option H) (records : List (Record M H B)) :
    Intake M H B → Prop
  | .reading _ reader _ => reader.Behind (Record.lines records)
  | .handing owner message rest id _ next _ => handler = some owner ∧
      (∀ reader, next = some reader → reader.Behind (Record.lines records)) ∧
      ∃ given, Record.Offers codec records handler given (message :: rest) id

theorem shown_proceed {body : B} {next : Option Decoder.Reader} {handled : Nat}
    (hNext : ∀ reader, next = some reader → reader.Behind (Record.lines records)) :
    ∀ later : Intake M H B, proceed body next handled = .wait later →
      later.Shown codec handler records := by
  intro later hLater
  cases next with
  | none => cases hLater
  | some reader =>
      cases hLater
      exact hNext reader rfl

/-- The token is moved by who hands over the last message. -/
theorem settles_offer {given messages : List M} {id : Option String} {body : B}
    {next : Option Decoder.Reader} {handled : Nat}
    (hOffers : Record.Offers codec records handler given messages id)
    (hNext : ∀ reader, next = some reader → reader.Behind (Record.lines records))
    (h : offer handler token messages id body next handled = (after, step)) :
    Record.Settles codec records token after ∧
      ∀ later, step = .wait later → later.Shown codec handler records := by
  cases handler with
  | none =>
      cases h
      obtain ⟨split, yields, accepted⟩ := hOffers
      rw [← List.append_nil (given ++ messages)] at yields
      have hOffers : Record.Offers codec records none (given ++ messages) [] id :=
        ⟨split, yields, accepted⟩
      exact ⟨hOffers.settles token, shown_proceed hNext⟩
  | some owner =>
      cases messages with
      | nil =>
          cases h
          exact ⟨hOffers.settles token, shown_proceed hNext⟩
      | cons message messages =>
          cases h
          refine ⟨hOffers.unsettled token, ?_⟩
          intro later hLater
          cases hLater
          exact ⟨rfl, hNext, given, hOffers⟩

/-- A turn that takes in a body moves the token by the frame that it completes. -/
theorem settles_resume {stopped : Bool} {point : Intake M H B} {reply : Reply B}
    {task : Task M H B} (hOrigin : record.origin = .resumed task reply)
    (hTakes : task.TakesIn record.before stopped handler point)
    (hShown : point.Shown codec handler records)
    (h : point.resume codec stopped handler token reply = some (after, step)) :
    Record.Settles codec (records ++ [record]) token after ∧
      ∀ later, step = .wait later → later.Shown codec handler (records ++ [record]) := by
  have hExchange : record.exchange? = some (point.wait, reply) := by
    rw [Record.exchange?, hOrigin, ← hTakes.wait_eq]
  have hLines : Record.lines (records ++ [record]) = _ := Record.lines_concat hExchange
  generalize hTurn : (after, step) = turn at h
  cases resumes h with
  | more accepts =>
      cases hTurn
      refine ⟨Record.settles_item hOrigin hTakes hShown (by simp [accepts]) token, ?_⟩
      intro later hLater
      cases hLater
      rw [Shown, hLines]
      exact Decoder.Reader.behind_accept hShown (by rw [accepts]; rfl)
  | messages accepts =>
      have hOffers : Record.Offers codec (records ++ [record]) handler [] _ _ :=
        ⟨rfl, ⟨hOrigin, hTakes, hShown, accepts⟩, by cases handler <;> rfl⟩
      refine settles_offer hOffers ?_ hTurn.symm
      intro reader hReader
      rw [hLines]
      exact Decoder.Reader.behind_accept hShown (by rw [accepts]; exact hReader)
  | finished accepts =>
      cases hTurn
      exact ⟨Record.settles_item hOrigin hTakes hShown (by simp [accepts]) token, nofun⟩
  | accepted owner message rest id body next handled =>
      obtain ⟨rfl, hNext, given, hOffers⟩ := hShown
      refine settles_offer (hOffers.accept hExchange) ?_ hTurn.symm
      rw [hLines]
      exact hNext
  | refused owner message rest id body next handled error =>
      cases hTurn
      exact ⟨Record.settles_refused hOrigin token, nofun⟩

/-- A reader that starts has read nothing. -/
theorem shown_start (codec : Codec M) (handler : Option H) (decoder : Decoder) (body : B)
    (hLines : Record.lines records = []) : (start decoder body).Shown codec handler records := by
  rw [start, Shown, hLines]
  exact Decoder.Reader.behind_start decoder

end Intake

/-- What the records of a task show of the body that it takes in, if it takes in one. -/
def Task.Shown (codec : Codec M) (records : List (Record M H B)) : Task M H B → Prop
  | .sending handler (.receiving _ point) => point.Shown codec handler records
  | .streaming handler (.receiving point) => point.Shown codec handler records
  | _ => True

namespace Sending

variable {settings : Settings M} {shared : Shared H} {handler : Option H} {message : M}
  {records : List (Record M H B)} {record : Record M H B}

theorem shown_forward {next : Sending M H B} (h : forward settings message = .wait next) :
    (Task.sending handler next).Shown settings.codec records := by
  obtain ⟨point, rfl⟩ := forwarding_of_forward h
  exact True.intro

theorem shown_post {next : Sending M H B} (h : post settings message = .wait next) :
    (Task.sending handler next).Shown settings.codec records := by
  obtain ⟨body, _, rfl⟩ := posting_of_post h
  exact True.intro

/-- Behind its connect sequence a send has not begun to take in a reply. -/
theorem shown_afterConnecting {turn : Shared H × Step Connecting (Connected B)}
    {next : Sending M H B} (h : (afterConnecting settings message turn).step = .wait next) :
    (Task.sending handler next).Shown settings.codec records := by
  rcases wait_of_afterConnecting h with ⟨point, _, rfl⟩ | ⟨point, rfl⟩ | ⟨_, hPost⟩
  · exact True.intro
  · exact True.intro
  · exact shown_post hPost

theorem shown_begin {next : Sending M H B}
    (h : (start settings shared handler message : Turn M H B).step = .wait next) :
    (Task.sending handler next).Shown settings.codec records := by
  unfold start at h
  split at h
  · exact shown_forward h
  · split at h
    · cases h
    · split at h
      · exact shown_afterConnecting h
      · exact shown_post h
    · exact shown_post h

theorem shown_afterIntake {step : Step (Intake M H B) (Except Error Nat)}
    {next : Sending M H B}
    (hStep : ∀ later, step = .wait later → later.Shown settings.codec handler records)
    (h : (afterIntake settings shared message step).step = .wait next) :
    (Task.sending handler next).Shown settings.codec records := by
  rcases step with later | (error | count)
  · cases h
    exact hStep later rfl
  · simp only [afterIntake] at h
    split at h
    · exact shown_forward h
    · cases h
  · cases h

/-- A turn of a send moves the token by the frame that it completes. -/
theorem settles_resume {point : Sending M H B} {reply : Reply B} {turn : Turn M H B}
    (hOrigin : record.origin = .resumed (.sending handler point) reply)
    (hShown : (Task.sending handler point).Shown settings.codec records)
    (h : point.resume settings record.before handler reply = some turn) :
    Record.Settles settings.codec (records ++ [record]) record.before.token turn.shared.token ∧
      ∀ next, turn.step = .wait next →
        (Task.sending handler next).Shown settings.codec (records ++ [record]) := by
  cases resumes h with
  | connecting resumed =>
      rw [afterConnecting_shared, (Connecting.holds_resume resumed).token]
      exact ⟨Record.settles_silent hOrigin rfl _, fun next => shown_afterConnecting⟩
  | failed message request error => exact ⟨Record.settles_silent hOrigin rfl _, nofun⟩
  | answered message request response =>
      rw [(holds_afterIntake settings record.before message _).token]
      refine ⟨Record.settles_silent hOrigin rfl _, ?_⟩
      intro next
      apply shown_afterIntake
      intro later hLater
      unfold Intake.ofResponse at hLater
      split at hLater
      · cases hLater
        apply Intake.shown_start
        rw [Record.lines_concat (by rw [Record.exchange?, hOrigin])]
        rfl
      · cases hLater
      · cases hLater
  | @receiving message inner reply token step resumed =>
      obtain ⟨hSettles, hNext⟩ := Intake.settles_resume hOrigin (.reply ..) hShown resumed
      rw [(holds_afterIntake settings { record.before with token } message step).token]
      exact ⟨hSettles, fun next => shown_afterIntake hNext⟩
  | forwarding inner result =>
      refine ⟨Record.settles_silent hOrigin rfl _, ?_⟩
      intro next hNext
      obtain ⟨later, _, rfl⟩ := Step.mapPoint_eq_wait.mp hNext
      exact True.intro

end Sending

namespace Streaming

variable {settings : Settings M} {shared : Shared H} {handler : Option H}
  {records : List (Record M H B)} {record : Record M H B}

theorem shown_afterOpening {step : Step Opening (Except Error (Opened B))}
    {next : Streaming M H B}
    (hStream : ∀ decoder body, step = .done (.ok (.stream decoder body)) →
      Record.lines records = [])
    (h : (afterOpening shared step).2 = .wait next) :
    (Task.streaming handler next).Shown settings.codec records := by
  rcases step with point | (error | (⟨decoder, body⟩ | _ | reason))
  · cases h
    exact True.intro
  · cases h
  · cases h
    exact Intake.shown_start settings.codec handler decoder body (hStream decoder body rfl)
  · cases h
  · cases h

theorem shown_afterIntake {step : Step (Intake M H B) (Except Error Nat)}
    {next : Streaming M H B}
    (hStep : ∀ later, step = .wait later → later.Shown settings.codec handler records)
    (h : (afterIntake settings shared step).2 = .wait next) :
    (Task.streaming handler next).Shown settings.codec records := by
  unfold afterIntake at h
  split at h
  · cases h
    exact hStep _ rfl
  · split at h
    · cases h
    · split at h
      · cases h
      · split at h
        · refine shown_afterOpening ?_ h
          intro decoder body hDone
          cases Opening.done_of_attempt hDone
        · cases h

/-- A turn of a stream task moves the token by the frame that it completes. -/
theorem settles_resume {point : Streaming M H B} {reply : Reply B}
    {turn : Shared H × Step (Streaming M H B) Unit}
    (hOrigin : record.origin = .resumed (.streaming handler point) reply)
    (hShown : (Task.streaming handler point).Shown settings.codec records)
    (h : point.resume settings record.before handler reply = some turn) :
    Record.Settles settings.codec (records ++ [record]) record.before.token turn.1.token ∧
      ∀ next, turn.2 = .wait next →
        (Task.streaming handler next).Shown settings.codec (records ++ [record]) := by
  cases resumes h with
  | @receiving inner reply token step resumed =>
      obtain ⟨hSettles, hNext⟩ := Intake.settles_resume hOrigin (.stream ..) hShown resumed
      rw [(holds_afterIntake settings { record.before with token } step).token]
      exact ⟨hSettles, fun next => shown_afterIntake hNext⟩
  | @reopening inner reply step resumed =>
      rw [(holds_afterOpening record.before step).token]
      refine ⟨Record.settles_silent hOrigin rfl _, ?_⟩
      intro next
      apply shown_afterOpening
      rintro decoder body rfl
      obtain ⟨retry, request, response, rfl, rfl, _⟩ := Opening.stream_of_resume resumed
      rw [Record.lines_concat (by rw [Record.exchange?, hOrigin])]
      rfl

end Streaming

namespace Task

variable {settings : Settings M} {records : List (Record M H B)} {record : Record M H B}

/-- No call begins with a body. -/
theorem shown_begin {shared : Shared H} {call : Call M H} {task : Task M H B}
    (h : (call.start settings shared : Turn M H B).step = .wait task) :
    task.Shown settings.codec records := by
  have hStarts := call.starts (B := B) settings shared
  generalize call.start settings shared = turn at hStarts h
  cases hStarts with
  | legacyConnecting handler tripped =>
      cases h
      exact True.intro
  | refused handler error => cases h
  | connecting handler untripped idle =>
      obtain ⟨point, _, rfl⟩ := Turn.ofConnecting_eq_wait.mp h
      exact True.intro
  | sending sends =>
      obtain ⟨point, hPoint, rfl⟩ := Turn.ofSending_eq_wait.mp h
      exact Sending.shown_begin hPoint
  | closing =>
      cases h
      exact True.intro
  | closed => cases h

/-- Every turn of a task moves the token by the frame that it completes. -/
theorem settles_resume {task : Task M H B} {reply : Reply B} {turn : Turn M H B}
    (hOrigin : record.origin = .resumed task reply) (hShown : task.Shown settings.codec records)
    (h : task.resume settings record.before reply = some turn) :
    Record.Settles settings.codec (records ++ [record]) record.before.token turn.shared.token ∧
      ∀ next, turn.step = .wait next → next.Shown settings.codec (records ++ [record]) := by
  cases resumes h with
  | connecting resumed =>
      rw [Turn.ofConnecting_shared, (Connecting.holds_resume resumed).token]
      refine ⟨Record.settles_silent hOrigin rfl _, ?_⟩
      intro next hNext
      obtain ⟨point, _, rfl⟩ := Turn.ofConnecting_eq_wait.mp hNext
      exact True.intro
  | legacyConnecting handler result =>
      refine ⟨Record.settles_silent hOrigin rfl _, ?_⟩
      intro next hNext
      cases hNext
  | sending resumed =>
      obtain ⟨hSettles, hShown⟩ := Sending.settles_resume hOrigin hShown resumed
      refine ⟨hSettles, ?_⟩
      intro next hNext
      obtain ⟨point, hPoint, rfl⟩ := Turn.ofSending_eq_wait.mp hNext
      exact hShown point hPoint
  | closing result =>
      refine ⟨Record.settles_silent hOrigin rfl _, ?_⟩
      intro next hNext
      cases hNext
  | streaming resumed =>
      obtain ⟨hSettles, hShown⟩ := Streaming.settles_resume hOrigin hShown resumed
      refine ⟨hSettles, ?_⟩
      intro next hNext
      obtain ⟨point, hPoint, rfl⟩ := Turn.ofStreaming_eq_wait.mp hNext
      exact hShown point hPoint

end Task

end Transport

end RpcTransport
