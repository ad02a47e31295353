import RpcTransport.Proofs.Intake

/-! Decoding a body whose items are all known, as one step for each record. -/
namespace RpcTransport

namespace Body

/-- The lines of a body before the first error that ends it. -/
def linesBefore (ends : Error → Bool) : List BodyItem → List String
  | [] => []
  | .ok line :: rest => line :: linesBefore ends rest
  | .error error :: rest => if ends error then [] else linesBefore ends rest

/-- The first error that ends a body. -/
def fault? (ends : Error → Bool) : List BodyItem → Option Error
  | [] => none
  | .ok _ :: rest => fault? ends rest
  | .error error :: rest => if ends error then some error else fault? ends rest

theorem linesBefore_ofLines (ends : Error → Bool) (lines : List String) :
    linesBefore ends (ofLines lines) = lines := by
  induction lines with
  | nil => rfl
  | cons line lines ih => exact congrArg (line :: ·) ih

theorem fault?_ofLines (ends : Error → Bool) (lines : List String) :
    fault? ends (ofLines lines) = none := by
  induction lines with
  | nil => rfl
  | cons line lines ih => exact ih

end Body

namespace Decoder

variable {M : Type}

/-- A decoding that nobody stops. -/
def unstopped (codec : Codec M) (handler : Handler M) : Setting M :=
  { codec, handler }

/-- The decoding that hands over messages without an id and is over then. -/
def Outcome.told (handler : Handler M) (seen : List M) (token : ResumptionToken)
    (messages : List M) : Outcome M :=
  .ended (deliver handler seen messages).1 token (deliver handler seen messages).2

/-- The decoding of a body that ends with the error, if there is one. It counts only where
nothing else has ended the decoding before. -/
def Outcome.brokenBy (outcome : Outcome M) : Option Error → Outcome M
  | none => outcome
  | some error => { outcome with result := outcome.result.bind fun _ => .error error }

theorem Outcome.brokenBy_error (seen : List M) (token : ResumptionToken) (error : Error)
    (fault : Option Error) :
    (Outcome.ended seen token (.error error)).brokenBy fault =
      .ended seen token (.error error) := by
  cases fault <;> rfl

section Body

variable {codec : Codec M} {handler : Handler M} {asked : Nat} {seen : List M}
  {token : ResumptionToken}

theorem handOver_last (messages : List M) :
    handOver (unstopped codec handler) none asked seen token messages none [] =
      .told handler seen token messages := by
  simp only [Outcome.told, handOver, unstopped]
  rcases deliver handler seen messages with ⟨seen, error | _⟩ <;> rfl

/-- The lines as one text, a line feed behind each. -/
def unlines (lines : List String) : String :=
  lines.foldr (fun line rest => line ++ "\n" ++ rest) ""

/-- What a document leads to. -/
def takeDocument (codec : Codec M) (handler : Handler M) (seen : List M) (token : ResumptionToken)
    (text : String) : Outcome M :=
  match codec.readDocument text with
  | .ok messages => .told handler seen token messages
  | .error error => .ended seen token (.error error)

theorem run_document (lines : List String) (text : String) :
    run (unstopped codec handler) (.document text) asked seen token (Body.ofLines lines) =
      takeDocument codec handler seen token (text ++ unlines lines) := by
  induction lines generalizing text with
  | nil =>
      have hText : text ++ unlines [] = text := by simp [unlines]
      rw [hText, takeDocument, Body.ofLines, List.map_nil, run_end]
      simp only [unstopped, Reader.accept, Bool.false_eq_true, ite_false]
      cases codec.readDocument text with
      | ok messages => exact handOver_last messages
      | error error => rfl
  | cons line lines ih =>
      have hText : text ++ unlines (line :: lines) = text ++ line ++ "\n" ++ unlines lines := by
        simp [unlines, String.append_assoc]
      rw [hText, ← ih]
      rfl

/-- The message of a line, if it is a record. -/
def record? (codec : Codec M) (line : String) : Option M :=
  if Reader.record line = "" then none else (codec.decode (Reader.record line)).toOption

/-- A line of a sequence hands over its message, and a line that is no record is skipped. -/
theorem accept_line (codec : Codec M) (line : String) :
    Reader.sequence.accept codec false (some (.ok line)) =
      (record? codec line).elim (.more .sequence) (.messages [·] none (some .sequence)) := by
  simp only [Reader.accept, record?, Bool.false_eq_true, ite_false]
  generalize Reader.record line = text
  split
  · rfl
  · cases codec.decode text <;> rfl

/-- The errors that end a sequence. One that concerns a single line does not. -/
def breaksSequence (error : Error) : Bool :=
  error.kind ≠ .malformed

theorem told_cons (message : M) (messages : List M) :
    Outcome.told handler seen token (message :: messages) =
      match handler seen.length message with
      | .ok () => .told handler (seen ++ [message]) token messages
      | .error error => .ended seen token (.error error) := by
  simp only [Outcome.told, deliver]
  cases handler seen.length message <;> rfl

/-- A body of records is decoded line by line, up to the error that ends it. -/
theorem run_records (body : List BodyItem) :
    run (unstopped codec handler) .sequence asked seen token body =
      (Outcome.told handler seen token
        ((Body.linesBefore breaksSequence body).filterMap (record? codec))).brokenBy
          (Body.fault? breaksSequence body) := by
  induction body generalizing asked seen with
  | nil => rfl
  | cons item body ih =>
      rw [run_item]
      rcases item with error | line
      · simp only [unstopped, Reader.accept, Body.linesBefore, Body.fault?, breaksSequence]
        by_cases hKind : error.kind = .malformed
        · simp only [hKind, ite_true, ne_eq, not_true_eq_false, decide_false, Bool.false_eq_true,
            ite_false]
          exact ih
        · simp only [hKind, ite_false, ne_eq, not_false_eq_true, decide_true, ite_true]
          rfl
      · simp only [unstopped, accept_line, Body.linesBefore, Body.fault?]
        cases hRecord : record? codec line with
        | none =>
            rw [List.filterMap_cons_none hRecord]
            exact ih
        | some message =>
            rw [List.filterMap_cons_some hRecord, told_cons]
            simp only [Option.elim, handOver, deliver]
            cases handler seen.length message with
            | ok => exact ih
            | error error => exact (Outcome.brokenBy_error ..).symm

theorem run_sequence (lines : List String) :
    run (unstopped codec handler) .sequence asked seen token (Body.ofLines lines) =
      .told handler seen token (lines.filterMap (record? codec)) := by
  rw [run_records, Body.linesBefore_ofLines, Body.fault?_ofLines]
  rfl

/-- Takes the frames of a stream one after the other. -/
def takeFrames (codec : Codec M) (handler : Handler M) (seen : List M) (token : ResumptionToken) :
    List Frame → Outcome M
  | [] => .ended seen token (.ok ())
  | frame :: rest =>
    if frame.isMessage then
      match codec.readDocument frame.data with
      | .ok messages =>
        match deliver handler seen messages with
        | (seen, .ok ()) =>
          takeFrames codec handler seen (token.record frame.resumptionId) rest
        | (seen, .error error) => .ended seen token (.error error)
      | .error error => .ended seen token (.error error)
    else takeFrames codec handler seen token rest

/-- The frames behind an open one. If the body breaks off, the last open frame is lost. -/
def framesBehind (draft : Frame.Draft) (lines : List String) : Option Error → List Frame
  | none => (draft.addAll lines).1 ++ (draft.addAll lines).2.close.1.toList
  | some _ => (draft.addAll lines).1

theorem framesBehind_cons (draft : Frame.Draft) (line : String) (lines : List String)
    (fault : Option Error) :
    framesBehind draft (line :: lines) fault =
      (draft.add line).1.toList ++ framesBehind (draft.add line).2 lines fault := by
  cases fault <;> simp [framesBehind, Frame.Draft.addAll]

/-- A body of frames is decoded frame by frame, up to the error that ends it. -/
theorem run_frames (body : List BodyItem) (draft : Frame.Draft) :
    run (unstopped codec handler) (.events draft) asked seen token body =
      (takeFrames codec handler seen token
        (framesBehind draft (Body.linesBefore (fun _ => true) body)
          (Body.fault? (fun _ => true) body))).brokenBy (Body.fault? (fun _ => true) body) := by
  induction body generalizing draft asked seen token with
  | nil =>
      rw [run_end]
      simp only [unstopped, Reader.accept, Body.linesBefore, Body.fault?, framesBehind,
        Frame.Draft.addAll, List.nil_append]
      cases draft.close.1 with
      | none => rfl
      | some frame =>
          simp only [Reader.ofFrame, Option.toList_some, takeFrames]
          cases frame.isMessage with
          | false => rfl
          | true =>
              cases codec.readDocument frame.data with
              | error error => rfl
              | ok messages =>
                  simp only [handOver, ite_true]
                  rcases deliver handler seen messages with ⟨seen, error | _⟩ <;> rfl
  | cons item body ih =>
      rw [run_item]
      rcases item with error | line
      · rfl
      · simp only [unstopped, Reader.accept, Bool.false_eq_true, ite_false, Body.linesBefore,
          Body.fault?, framesBehind_cons]
        obtain ⟨frame, next⟩ := draft.add line
        cases frame with
        | none => exact ih next
        | some frame =>
            simp only [Reader.ofFrame, Option.toList_some, List.cons_append, List.nil_append,
              takeFrames]
            cases frame.isMessage with
            | false => exact ih next
            | true =>
                cases codec.readDocument frame.data with
                | error error => exact (Outcome.brokenBy_error ..).symm
                | ok messages =>
                    simp only [handOver, ite_true]
                    rcases deliver handler seen messages with ⟨seen, error | _⟩
                    · exact (Outcome.brokenBy_error ..).symm
                    · exact ih next

theorem run_events (lines : List String) (draft : Frame.Draft) :
    run (unstopped codec handler) (.events draft) asked seen token (Body.ofLines lines) =
      takeFrames codec handler seen token
        ((draft.addAll lines).1 ++ (draft.addAll lines).2.close.1.toList) := by
  rw [run_frames, Body.linesBefore_ofLines, Body.fault?_ofLines]
  rfl

/-- A body of frames is decoded frame by frame. -/
theorem decode_events (lines : List String) :
    decode (unstopped codec handler) token .eventStream (Body.ofLines lines) =
      takeFrames codec handler [] token (Frame.ofLines lines) :=
  run_events lines .empty

end Body

end Decoder

end RpcTransport
