import RpcTransport.Proofs.Frames

/-! Frames do not leak into each other. A draft that no line has counted for is the empty one. -/
namespace RpcTransport.Frame

/-- What a reader of frames is told: a line, or that the lines are over for now. -/
inductive Call where
  | line (text : String)
  | finish
  deriving DecidableEq

namespace Draft

def answer (draft : Draft) : Call → Option Frame × Draft
  | .line text => draft.add text
  | .finish => draft.close

/-- The frames that the calls return, and what is open behind them. -/
def answerAll (draft : Draft) : List Call → List Frame × Draft
  | [] => ([], draft)
  | call :: calls =>
    let (frame, next) := draft.answer call
    let (frames, last) := next.answerAll calls
    (frame.toList ++ frames, last)

theorem answerAll_append (draft : Draft) (calls more : List Call) :
    draft.answerAll (calls ++ more) =
      ((draft.answerAll calls).1 ++ ((draft.answerAll calls).2.answerAll more).1,
        ((draft.answerAll calls).2.answerAll more).2) := by
  induction calls generalizing draft with
  | nil => rfl
  | cons call calls ih => simp [answerAll, ih]

theorem answerAll_lines (draft : Draft) (lines : List String) :
    draft.answerAll (lines.map .line) = draft.addAll lines := by
  induction lines generalizing draft with
  | nil => rfl
  | cons line lines ih =>
      rw [List.map_cons, answerAll, addAll_cons]
      simp only [answer, ih]

/-- Nothing is set that no line has counted for. -/
def Clean (draft : Draft) : Prop :=
  draft.started = false → draft = .empty

theorem Clean.close {draft : Draft} (h : draft.Clean) : draft.close.2 = .empty := by
  unfold Draft.close
  split
  · rfl
  · rename_i hStarted
    exact h (by simpa using hStarted)

theorem Clean.add {draft : Draft} (h : draft.Clean) (line : String) : (draft.add line).2.Clean := by
  rcases add_cases line with hBlank | ⟨key, value, hTrim⟩ | hIgnored
  · rw [add_blank draft hBlank, h.close]
    exact fun _ => rfl
  · -- Every field starts the draft.
    rw [add_of_trim draft hTrim]
    cases key <;> exact nofun
  · rw [add_ignored draft hIgnored]
    exact h

theorem Clean.answer {draft : Draft} (h : draft.Clean) (call : Call) :
    (draft.answer call).2.Clean := by
  cases call with
  | line text => exact h.add text
  | finish =>
      intro _
      exact h.close

theorem Clean.answerAll {draft : Draft} (h : draft.Clean) (calls : List Call) :
    (draft.answerAll calls).2.Clean := by
  induction calls generalizing draft with
  | nil => exact h
  | cons call calls ih => exact ih (h.answer call)

theorem clean_empty : Draft.empty.Clean :=
  fun _ => rfl

theorem clean_addAll (lines : List String) : (Draft.empty.addAll lines).2.Clean := by
  rw [← answerAll_lines]
  exact clean_empty.answerAll _

/-- A line that starts with no field is a line that is ignored. -/
theorem Ignored.of_not_starts {line : String} (hNotBlank : Text.trim line ≠ "")
    (hField : ∀ key : Key, ¬key.start.toList <+: (Text.trim line).toList) : Ignored line := by
  have hNone (key : Key) : Text.after? key.start (Text.trim line) = none := by
    refine Option.eq_none_iff_forall_ne_some.mpr fun value hAfter => hField key ?_
    rw [Text.eq_append_of_after? hAfter, String.toList_append]
    exact List.prefix_append _ _
  exact ⟨hNotBlank, hNone .event, hNone .data, hNone .id⟩

end Draft

/-- The lines behind a blank one are read on their own. -/
theorem ofLines_append_blank (before behind : List String) {blank : String}
    (hBlank : Text.trim blank = "") :
    ofLines (before ++ [blank] ++ behind) = ofLines before ++ ofLines behind := by
  have hClose : (Draft.empty.addAll before).2.close.2 = .empty := (Draft.clean_addAll before).close
  simp [ofLines, Draft.addAll_append, Draft.addAll, Draft.add_blank _ hBlank, hClose]

theorem ofLines_append_ignored (before behind : List String) {line : String}
    (hIgnored : Draft.Ignored line) :
    ofLines (before ++ [line] ++ behind) = ofLines (before ++ behind) := by
  simp [ofLines, Draft.addAll_append, Draft.addAll, Draft.add_ignored _ hIgnored]

namespace Call

/-- Lines that are followed by a finish. -/
def segment (lines : List String) : List Call :=
  lines.map .line ++ [.finish]

/-- Calls are the lines before each finish, and the lines behind the last one. -/
theorem exists_segments (calls : List Call) :
    ∃ (closed : List (List String)) (rest : List String),
      calls = closed.flatMap segment ++ rest.map .line := by
  induction calls with
  | nil => exact ⟨[], [], rfl⟩
  | cons call calls ih =>
      obtain ⟨closed, rest, rfl⟩ := ih
      cases call with
      | finish => exact ⟨[] :: closed, rest, rfl⟩
      | line text =>
          cases closed with
          | nil => exact ⟨[], text :: rest, rfl⟩
          | cons lines closed => exact ⟨(text :: lines) :: closed, rest, rfl⟩

end Call

theorem Draft.answerAll_segment (lines : List String) :
    Draft.empty.answerAll (Call.segment lines) = (ofLines lines, .empty) := by
  have hClose : (Draft.empty.addAll lines).2.close.2 = .empty := (clean_addAll lines).close
  rw [Call.segment, answerAll_append, answerAll_lines]
  simp [answerAll, answer, hClose, ofLines]

theorem Draft.answerAll_segments (closed : List (List String)) :
    Draft.empty.answerAll (closed.flatMap Call.segment) = (closed.flatMap ofLines, .empty) := by
  induction closed with
  | nil => rfl
  | cons lines closed ih =>
      rw [List.flatMap_cons, answerAll_append, answerAll_segment, ih, List.flatMap_cons]

/-- Frames are read one by one. However lines and finishes have been mixed, nothing is set in a
draft for which no line has counted, and a blank line or a finish leaves the empty draft. So the
frames on both sides of a blank line are those of the two sides, a line that is no field may be
left out, and the frames that calls return are those of the lines before each finish. Behind
the last finish the lines return the frames that they close themselves, and the one that they
leave open is returned by the next finish. -/
theorem frames_do_not_leak :
    (∀ calls : List Call,
      let draft := (Draft.empty.answerAll calls).2
      (draft.started = false → draft.id = none ∧ draft.event = "" ∧ draft.data = []) ∧
        draft.close.2 = .empty ∧ ∀ line, Text.trim line = "" → (draft.add line).2 = .empty) ∧
    (∀ (before behind : List String) (blank : String), Text.trim blank = "" →
      ofLines (before ++ [blank] ++ behind) = ofLines before ++ ofLines behind) ∧
    (∀ (before behind : List String) (line : String), Text.trim line ≠ "" →
      (∀ key : Key, ¬key.start.toList <+: (Text.trim line).toList) →
      ofLines (before ++ [line] ++ behind) = ofLines (before ++ behind)) ∧
    ∀ calls : List Call, ∃ (closed : List (List String)) (rest : List String),
      calls = closed.flatMap (fun lines => lines.map .line ++ [.finish]) ++ rest.map .line ∧
        (Draft.empty.answerAll calls).1 =
          closed.flatMap ofLines ++ (Draft.empty.addAll rest).1 ∧
        (Draft.empty.answerAll (calls ++ [.finish])).1 = (closed ++ [rest]).flatMap ofLines := by
  refine ⟨?_, ?_, ?_, ?_⟩
  · intro calls draft
    have hClean : draft.Clean := Draft.clean_empty.answerAll calls
    refine ⟨?_, hClean.close, ?_⟩
    · intro hStarted
      rw [hClean hStarted]
      exact ⟨rfl, rfl, rfl⟩
    · intro line hBlank
      rw [Draft.add_blank draft hBlank, hClean.close]
  · intro before behind blank hBlank
    exact ofLines_append_blank before behind hBlank
  · intro before behind line hNotBlank hField
    exact ofLines_append_ignored before behind (.of_not_starts hNotBlank hField)
  · intro calls
    obtain ⟨closed, rest, rfl⟩ := Call.exists_segments calls
    refine ⟨closed, rest, rfl, ?_, ?_⟩
    · rw [Draft.answerAll_append, Draft.answerAll_segments, Draft.answerAll_lines]
    · -- With the finish the rest is a segment like the others.
      have hSegments : closed.flatMap Call.segment ++ rest.map .line ++ [.finish] =
          (closed ++ [rest]).flatMap Call.segment := by
        simp [Call.segment]
      rw [hSegments, Draft.answerAll_segments]

/-- The id stays with its frame across a blank line, and a comment may stand anywhere. -/
theorem frames_do_not_leak_across_blank :
    ofLines ["id: 1", "data: a", " \t", ": ping", "data: b"] =
        [⟨some "1", "", "a"⟩, ⟨none, "", "b"⟩] ∧
      (Draft.empty.answerAll [.line "id: 1", .finish]).2.event = "" := by
  obtain ⟨hStates, hBlank, hIgnored, -⟩ := frames_do_not_leak
  have hCut : ofLines ["id: 1", "data: a", " \t", ": ping", "data: b"] =
      ofLines ["id: 1", "data: a"] ++ ofLines [": ping", "data: b"] :=
    hBlank ["id: 1", "data: a"] [": ping", "data: b"] " \t" (by decide)
  have hComment : ofLines [": ping", "data: b"] = ofLines ["data: b"] :=
    hIgnored [] ["data: b"] ": ping" (by decide) (fun key => by cases key <;> decide)
  obtain ⟨hNothing, -, -⟩ := hStates [.line "id: 1", .finish]
  refine ⟨?_, (hNothing rfl).2.1⟩
  rw [hCut, hComment]
  rfl

end RpcTransport.Frame
