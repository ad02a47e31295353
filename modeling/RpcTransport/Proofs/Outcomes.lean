import Mathlib.Data.List.Forall2
import RpcTransport.Proofs.Decoding

namespace RpcTransport

/-- The frames of a body: those of its lines, without the one that is open when the body
breaks off. -/
def Frame.ofBody (body : List BodyItem) : List Frame :=
  match Body.fault? (fun _ => true) body with
  | none => Frame.ofLines (Body.linesBefore (fun _ => true) body)
  | some _ => (Draft.empty.addAll (Body.linesBefore (fun _ => true) body)).1

namespace Decoder

variable {M : Type}

section Verdicts

/-- The handler accepts the messages one after the other, `count` of them have been
accepted before. -/
def Accepts (handler : Handler M) (count : Nat) : List M → Prop
  | [] => True
  | message :: rest => handler count message = .ok () ∧ Accepts handler (count + 1) rest

/-- The handler accepts the earlier messages and refuses the one behind them. -/
def Refuses (handler : Handler M) (count : Nat) (messages earlier : List M) (error : Error) :
    Prop :=
  ∃ message later, messages = earlier ++ message :: later ∧ Accepts handler count earlier ∧
    handler (count + earlier.length) message = .error error

variable {handler : Handler M} {seen messages earlier : List M} {error : Error}

theorem accepts_append {count : Nat} {first more : List M} :
    Accepts handler count (first ++ more) ↔
      Accepts handler count first ∧ Accepts handler (count + first.length) more := by
  induction first generalizing count with
  | nil => simp [Accepts]
  | cons message first ih =>
      rw [List.cons_append, Accepts, Accepts, ih, List.length_cons, and_assoc,
        Nat.add_assoc, Nat.add_comm 1]

theorem deliver_accepted (h : Accepts handler seen.length messages) :
    deliver handler seen messages = (seen ++ messages, .ok ()) := by
  induction messages generalizing seen with
  | nil => rw [deliver, List.append_nil]
  | cons message messages ih =>
      have hRest : Accepts handler (seen ++ [message]).length messages := by
        simpa using h.2
      rw [deliver, h.1]
      show deliver handler (seen ++ [message]) messages = _
      rw [ih hRest, List.append_assoc, List.singleton_append]

theorem deliver_refused (h : Refuses handler seen.length messages earlier error) :
    deliver handler seen messages = (seen ++ earlier, .error error) := by
  obtain ⟨message, later, rfl, hAccepts, hError⟩ := h
  rw [deliver_append, deliver_accepted hAccepts]
  rw [← List.length_append] at hError
  simp only [deliver, hError]

/-- The messages are all accepted, or there is a first one that is refused. -/
theorem accepts_or_refuses (handler : Handler M) (count : Nat) (messages : List M) :
    Accepts handler count messages ∨
      ∃ earlier error, Refuses handler count messages earlier error := by
  induction messages generalizing count with
  | nil => exact Or.inl trivial
  | cons message messages ih =>
      cases hVerdict : handler count message with
      | error error => exact Or.inr ⟨[], error, message, messages, rfl, trivial, hVerdict⟩
      | ok =>
          rcases ih (count + 1) with hAccepts | ⟨earlier, error, other, later, rfl, hEarlier, hError⟩
          · exact Or.inl ⟨hVerdict, hAccepts⟩
          · refine Or.inr ⟨message :: earlier, error, other, later, rfl, ⟨hVerdict, hEarlier⟩, ?_⟩
            rwa [List.length_cons, Nat.add_comm earlier.length, ← Nat.add_assoc]

end Verdicts

/-- How the messages of a sequence fare, and the result: the handler's error, else the error
that ends the body, else their number. -/
inductive SequenceOutcome (handler : Handler M) (token : ResumptionToken)
    (fault : Option Error) (messages : List M) : Outcome M → Prop where
  | all (accepts : Accepts handler 0 messages) :
      SequenceOutcome handler token fault messages
        ⟨messages, token, fault.elim (.ok messages.length) .error⟩
  | refused {earlier : List M} {error : Error}
      (refuses : Refuses handler 0 messages earlier error) :
      SequenceOutcome handler token fault messages ⟨earlier, token, .error error⟩

/-- An item that says nothing in a sequence: a line that is no record, or an error that
concerns a single line. -/
def isSkipped (codec : Codec M) : BodyItem → Bool
  | .ok line => (record? codec line).isNone
  | .error error => !breaksSequence error

section Sequence

variable {codec : Codec M} {handler : Handler M} {token : ResumptionToken}
  {fault : Option Error}

theorem brokenBy_ok (seen : List M) :
    (Outcome.ended seen token (.ok ())).brokenBy fault =
      ⟨seen, token, fault.elim (.ok seen.length) .error⟩ := by
  cases fault <;> rfl

theorem told_eq_iff {messages : List M} {outcome : Outcome M} :
    (Outcome.told handler [] token messages).brokenBy fault = outcome ↔
      SequenceOutcome handler token fault messages outcome := by
  have hAll (h : Accepts handler 0 messages) :
      (Outcome.told handler [] token messages).brokenBy fault =
        ⟨messages, token, fault.elim (.ok messages.length) .error⟩ := by
    rw [Outcome.told, deliver_accepted h, brokenBy_ok]
    rfl
  have hRefused {earlier : List M} {error : Error} (h : Refuses handler 0 messages earlier error) :
      (Outcome.told handler [] token messages).brokenBy fault = ⟨earlier, token, .error error⟩ := by
    rw [Outcome.told, deliver_refused h, Outcome.brokenBy_error]
    rfl
  constructor
  · rintro rfl
    rcases accepts_or_refuses handler 0 messages with hAccepts | ⟨earlier, error, hRefuses⟩
    · rw [hAll hAccepts]
      exact .all hAccepts
    · rw [hRefused hRefuses]
      exact .refused hRefuses
  · intro h
    cases h with
    | all accepts => exact hAll accepts
    | refused refuses => exact hRefused refuses

theorem filterMap_linesBefore_filter (codec : Codec M) (body : List BodyItem) :
    (Body.linesBefore breaksSequence (body.filter (!isSkipped codec ·))).filterMap
        (record? codec) =
      (Body.linesBefore breaksSequence body).filterMap (record? codec) := by
  induction body with
  | nil => rfl
  | cons item body ih =>
      rcases item with error | line
      · rw [List.filter_cons, isSkipped]
        cases hBreaks : breaksSequence error <;> simp [Body.linesBefore, hBreaks, ih]
      · rw [List.filter_cons, isSkipped]
        cases hRecord : record? codec line <;> simp [Body.linesBefore, hRecord, ih]

theorem fault?_filter (codec : Codec M) (body : List BodyItem) :
    Body.fault? breaksSequence (body.filter (!isSkipped codec ·)) =
      Body.fault? breaksSequence body := by
  induction body with
  | nil => rfl
  | cons item body ih =>
      rcases item with error | line
      · rw [List.filter_cons, isSkipped]
        cases hBreaks : breaksSequence error <;> simp [Body.fault?, hBreaks, ih]
      · rw [List.filter_cons, isSkipped]
        cases record? codec line <;> simp [Body.fault?, ih]

end Sequence

/-- The token behind frames that were handed over completely: the last id that is not empty. -/
def tokenBehind (token : ResumptionToken) (frames : List Frame) : ResumptionToken :=
  (frames.filterMap Frame.resumptionId).getLast?.or token

/-- The data of the frames can be read, a batch of messages for each, and the handler
accepts all of them. -/
structure Passes (codec : Codec M) (handler : Handler M) (frames : List Frame)
    (batches : List (List M)) : Prop where
  reads : List.Forall₂ (fun frame messages => codec.readDocument frame.data = .ok messages)
    frames batches
  accepts : Accepts handler 0 batches.flatten

/-- How the frames of messages in an event stream fare. All pass, and the error that ends
the body is the result, if there is one. Or the first frame that does not pass ends the
decoding and leaves the token as it is. -/
inductive StreamOutcome (codec : Codec M) (handler : Handler M) (token : ResumptionToken)
    (fault : Option Error) : List Frame → Outcome M → Prop where
  | all {frames : List Frame} {batches : List (List M)}
      (passes : Passes codec handler frames batches) :
      StreamOutcome codec handler token fault frames
        ⟨batches.flatten, tokenBehind token frames,
          fault.elim (.ok batches.flatten.length) .error⟩
  | unreadable {done : List Frame} {batches : List (List M)} {frame : Frame}
      {later : List Frame} {error : Error} (passes : Passes codec handler done batches)
      (fails : codec.readDocument frame.data = .error error) :
      StreamOutcome codec handler token fault (done ++ frame :: later)
        ⟨batches.flatten, tokenBehind token done, .error error⟩
  | refused {done : List Frame} {batches : List (List M)} {frame : Frame} {later : List Frame}
      {messages earlier : List M} {error : Error} (passes : Passes codec handler done batches)
      (reads : codec.readDocument frame.data = .ok messages)
      (refuses : Refuses handler batches.flatten.length messages earlier error) :
      StreamOutcome codec handler token fault (done ++ frame :: later)
        ⟨batches.flatten ++ earlier, tokenBehind token done, .error error⟩

section Stream

variable {codec : Codec M} {handler : Handler M} {token : ResumptionToken}
  {fault : Option Error}

theorem record_resumptionId (token : ResumptionToken) (frame : Frame) :
    token.record frame.resumptionId = tokenBehind token [frame] := by
  unfold tokenBehind
  cases hId : frame.resumptionId with
  | none => simp [hId, ResumptionToken.record]
  | some id =>
      have hNonempty : id ≠ "" := by
        have hFilter := Option.eq_some_of_filter_eq_some hId
        rw [Frame.resumptionId, hFilter] at hId
        simpa using hId
      simp [hId, ResumptionToken.record, ResumptionToken.advance, hNonempty]

theorem tokenBehind_append (token : ResumptionToken) (frames more : List Frame) :
    tokenBehind token (frames ++ more) = tokenBehind (tokenBehind token frames) more := by
  rw [tokenBehind, tokenBehind, tokenBehind, List.filterMap_append, List.getLast?_append,
    Option.or_assoc]

/-- Frames that carry no messages are passed over. -/
theorem takeFrames_filter (seen : List M) (token : ResumptionToken) (frames : List Frame) :
    takeFrames codec handler seen token (frames.filter (·.isMessage)) =
      takeFrames codec handler seen token frames := by
  induction frames generalizing seen token with
  | nil => rfl
  | cons frame frames ih =>
      cases hMessage : frame.isMessage with
      | false =>
          rw [List.filter_cons_of_neg (by simp [hMessage]), ih, takeFrames]
          simp [hMessage]
      | true =>
          rw [List.filter_cons_of_pos hMessage, takeFrames, takeFrames]
          simp only [ih]

/-- The decoding goes on behind frames that pass. -/
theorem takeFrames_append (seen : List M) {done : List Frame} {batches : List (List M)}
    (hMessages : ∀ frame ∈ done, frame.isMessage = true)
    (hReads : List.Forall₂ (fun frame messages => codec.readDocument frame.data = .ok messages)
      done batches)
    (hAccepts : Accepts handler seen.length batches.flatten) (token : ResumptionToken)
    (later : List Frame) :
    takeFrames codec handler seen token (done ++ later) =
      takeFrames codec handler (seen ++ batches.flatten) (tokenBehind token done) later := by
  induction hReads generalizing seen token with
  | nil => simp [tokenBehind]
  | @cons frame messages done batches hRead _ ih =>
      rw [List.forall_mem_cons] at hMessages
      rw [List.flatten_cons, accepts_append, ← List.length_append] at hAccepts
      rw [List.cons_append, takeFrames, if_pos hMessages.1, hRead]
      simp only [deliver_accepted hAccepts.1, ih _ hMessages.2 hAccepts.2, record_resumptionId]
      rw [List.flatten_cons, List.append_assoc, ← tokenBehind_append]
      rfl

theorem Passes.concat {done : List Frame} {batches : List (List M)} {frame : Frame}
    {messages : List M} (h : Passes codec handler done batches)
    (hRead : codec.readDocument frame.data = .ok messages)
    (hAccepts : Accepts handler batches.flatten.length messages) :
    Passes codec handler (done ++ [frame]) (batches ++ [messages]) := by
  refine ⟨List.rel_append h.reads (.cons hRead .nil), ?_⟩
  rw [List.flatten_append, List.flatten_singleton, accepts_append, Nat.zero_add]
  exact ⟨h.accepts, hAccepts⟩

/-- Behind frames that have passed, the others fare in one of the ways. -/
theorem streamOutcome_takeFrames {done frames : List Frame} {batches : List (List M)}
    (hMessages : ∀ frame ∈ frames, frame.isMessage = true)
    (hPasses : Passes codec handler done batches) :
    StreamOutcome codec handler token fault (done ++ frames)
      ((takeFrames codec handler batches.flatten (tokenBehind token done) frames).brokenBy
        fault) := by
  induction frames generalizing done batches with
  | nil =>
      rw [takeFrames, brokenBy_ok, List.append_nil]
      exact .all hPasses
  | cons frame frames ih =>
      rw [List.forall_mem_cons] at hMessages
      rw [takeFrames, if_pos hMessages.1]
      cases hRead : codec.readDocument frame.data with
      | error error =>
          simp only [Outcome.brokenBy_error]
          exact .unreadable hPasses hRead
      | ok messages =>
          rcases accepts_or_refuses handler batches.flatten.length messages with
            hAccepts | ⟨earlier, error, hRefuses⟩
          · have hRest := ih hMessages.2 (hPasses.concat hRead hAccepts)
            rw [List.append_assoc, List.singleton_append, List.flatten_append,
              List.flatten_singleton, tokenBehind_append, ← record_resumptionId] at hRest
            simpa only [deliver_accepted hAccepts] using hRest
          · simp only [deliver_refused hRefuses, Outcome.brokenBy_error]
            exact .refused hPasses hRead hRefuses

theorem takeFrames_eq_iff {frames : List Frame} {outcome : Outcome M}
    (hMessages : ∀ frame ∈ frames, frame.isMessage = true) :
    (takeFrames codec handler [] token frames).brokenBy fault = outcome ↔
      StreamOutcome codec handler token fault frames outcome := by
  constructor
  · rintro rfl
    exact streamOutcome_takeFrames hMessages ⟨.nil, trivial⟩
  · intro h
    cases h with
    | all passes =>
        have hTake := takeFrames_append [] hMessages passes.reads passes.accepts token []
        rw [List.append_nil] at hTake
        rw [hTake, takeFrames, brokenBy_ok]
        rfl
    | @unreadable done batches frame later error passes fails =>
        rw [List.forall_mem_append, List.forall_mem_cons] at hMessages
        rw [takeFrames_append [] hMessages.1 passes.reads passes.accepts, takeFrames,
          if_pos hMessages.2.1, fails]
        simp only [Outcome.brokenBy_error]
        rfl
    | @refused done batches frame later messages earlier error passes reads refuses =>
        rw [List.forall_mem_append, List.forall_mem_cons] at hMessages
        rw [takeFrames_append [] hMessages.1 passes.reads passes.accepts, takeFrames,
          if_pos hMessages.2.1, reads]
        simp only [List.nil_append, deliver_refused refuses, Outcome.brokenBy_error]
        rfl

theorem framesBehind_empty (body : List BodyItem) :
    framesBehind .empty (Body.linesBefore (fun _ => true) body)
      (Body.fault? (fun _ => true) body) = Frame.ofBody body := by
  unfold Frame.ofBody
  cases Body.fault? (fun _ => true) body <;> rfl

end Stream

end Decoder

end RpcTransport
