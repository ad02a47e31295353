import RpcTransport.Decoder.Reader
import RpcTransport.Proofs.Frames
import RpcTransport.Resumption

/-! Event streams as a server writes them. -/
namespace RpcTransport

/-- What a line of a frame says. -/
inductive Field where
  | event
  | id
  | data (value : String)
  /-- A line that is no field. -/
  | other (line : String)
  deriving DecidableEq

namespace Field

/-- The line of a field in a message frame with that id. -/
def line (id : String) : Field → String
  | .event => "event: message"
  | .id => "id: " ++ id
  | .data value => "data: " ++ value
  | .other line => line

def data? : Field → Option String
  | .data value => some value
  | _ => none

/-- The data that a frame carries of a payload. Blank lines and white space at the
end of a line are lost. -/
def carried (payload : List String) : List String :=
  (payload.map Text.withoutEnd).filter (· ≠ "")

/-- A payload of one line is carried whole, for the white space at its end does not
count. -/
theorem readDocument_carried {M : Type} {codec : Codec M} {payload : String}
    {messages : List M} (h : codec.readDocument payload = .ok messages) :
    codec.readDocument ("\n".intercalate (carried [payload])) = .ok messages := by
  have hDocument : codec.readDocument (Text.withoutEnd payload) = .ok messages := by
    rwa [Codec.readDocument, Text.trim_withoutEnd, ← Codec.readDocument]
  by_cases hBlank : Text.withoutEnd payload = ""
  · rw [hBlank] at hDocument
    simpa [carried, hBlank] using hDocument
  · simpa [carried, hBlank] using hDocument

/-- What a field adds to an open frame. -/
def extend (id : String) (draft : Frame.Draft) : Field → Frame.Draft
  | .event => { draft with event := "message", started := true }
  | .id => { draft with id := some id, started := true }
  | .data value =>
    if Text.withoutEnd value = "" then draft
    else { draft with data := draft.data ++ [Text.withoutEnd value], started := true }
  | .other _ => draft

theorem add_line {id : String} (hNonempty : id ≠ "") (hTrimmed : Text.trim id = id)
    (draft : Frame.Draft) (field : Field)
    (hOther : ∀ line, field = .other line → Frame.Draft.Ignored line) :
    draft.add (field.line id) = (none, field.extend id draft) := by
  cases field with
  | event =>
      have hMessage : Text.withoutEnd "message" = "message" := by decide
      have hTrim : Text.trim "message" = "message" := by decide
      have hAdd := draft.add_field .event "message"
      rw [hMessage, if_neg (by decide), Frame.Draft.put, hTrim] at hAdd
      exact hAdd
  | id =>
      have hAdd := draft.add_field .id id
      rw [Text.withoutEnd_of_trim hTrimmed, if_neg hNonempty, Frame.Draft.put, hTrimmed] at hAdd
      exact hAdd
  | data value => exact draft.add_field .data value
  | other line => exact Frame.Draft.add_ignored draft (hOther line rfl)

/-- A line that opens a frame. -/
def counts : Field → Bool
  | .event => true
  | .id => true
  | .data value => Text.withoutEnd value ≠ ""
  | .other _ => false

/-- What the fields of a frame add up to. -/
theorem foldl_extend (id : String) (fields : List Field) (draft : Frame.Draft) :
    fields.foldl (extend id) draft =
      { id := if .id ∈ fields then some id else draft.id
        event := if .event ∈ fields then "message" else draft.event
        data := draft.data ++ carried (fields.filterMap data?)
        started := draft.started || fields.any counts } := by
  induction fields generalizing draft with
  | nil => simp [carried]
  | cons field fields ih =>
      rw [List.foldl_cons, ih]
      cases field with
      | event => simp [extend, data?, counts, List.filterMap_cons]
      | id => simp [extend, data?, counts, List.filterMap_cons]
      | data value =>
          by_cases hBlank : Text.withoutEnd value = "" <;>
            simp [extend, data?, counts, carried, hBlank]
      | other line => simp [extend, data?, counts, List.filterMap_cons]

theorem addAll_lines {id : String} (hNonempty : id ≠ "") (hTrimmed : Text.trim id = id)
    {fields : List Field} (hOthers : ∀ line, .other line ∈ fields → Frame.Draft.Ignored line)
    (draft : Frame.Draft) :
    draft.addAll (fields.map (line id)) = ([], fields.foldl (extend id) draft) := by
  induction fields generalizing draft with
  | nil => rfl
  | cons field fields ih =>
      have hAdd := add_line hNonempty hTrimmed draft field fun line hLine =>
        hOthers line (hLine ▸ List.mem_cons_self)
      have hRest := ih (fun line hLine => hOthers line (List.mem_cons_of_mem _ hLine))
        (extend id draft field)
      simp [Frame.Draft.addAll, hAdd, hRest]

end Field

/-- An event of a log. What a frame carries of its payload decodes to its messages. -/
structure LogEntry {M : Type} (codec : Codec M) where
  id : String
  /-- The lines of the payload. -/
  payload : List String
  messages : List M
  nonempty : id ≠ ""
  trimmed : Text.trim id = id
  decodes : codec.readDocument ("\n".intercalate (Field.carried payload)) = .ok messages

namespace LogEntry

variable {M : Type} {codec : Codec M}

/-- An event with a payload of one line that decodes. -/
def ofLine (id : String) (payload : String) (messages : List M) (nonempty : id ≠ "")
    (trimmed : Text.trim id = id) (decodes : codec.readDocument payload = .ok messages) :
    LogEntry codec where
  id := id
  payload := [payload]
  messages := messages
  nonempty := nonempty
  trimmed := trimmed
  decodes := Field.readDocument_carried decodes

/-- The frame of an event. -/
def frame (entry : LogEntry codec) : Frame :=
  ⟨some entry.id, "message", "\n".intercalate (Field.carried entry.payload)⟩

/-- The events behind the one with that id, and all of them without an id. -/
def after (log : List (LogEntry codec)) : Option String → List (LogEntry codec)
  | some id => (log.dropWhile (·.id ≠ id)).drop 1
  | none => log

theorem after_eq {log : List (LogEntry codec)} (hDistinct : (log.map (·.id)).Nodup)
    {earlier later : List (LogEntry codec)} (hLog : log = earlier ++ later) :
    after log (earlier.getLast?.map (·.id)) = later := by
  rcases List.eq_nil_or_concat earlier with rfl | ⟨init, entry, rfl⟩
  · exact hLog
  · subst hLog
    rw [List.concat_eq_append, List.append_assoc] at hDistinct ⊢
    have hInit : ∀ other ∈ init, decide (other.id ≠ entry.id) = true := by
      intro other hOther
      rw [List.map_append, List.nodup_append] at hDistinct
      simpa using hDistinct.2.2 _ (List.mem_map_of_mem hOther) entry.id (by simp)
    rw [List.getLast?_concat, Option.map_some, after, List.dropWhile_append_of_pos hInit]
    simp

/-- The fields make up the frame of an event. -/
structure Forms (entry : LogEntry codec) (fields : List Field) : Prop where
  event : .event ∈ fields
  id : .id ∈ fields
  payload : fields.filterMap Field.data? = entry.payload
  others : ∀ line, .other line ∈ fields → Frame.Draft.Ignored line

/-- The blank line behind its fields closes the frame of an event. -/
theorem addAll_forms {entry : LogEntry codec} {fields : List Field} (h : entry.Forms fields)
    {close : String} (hClose : Text.trim close = "") :
    Frame.Draft.empty.addAll (fields.map (Field.line entry.id) ++ [close]) =
      ([entry.frame], .empty) := by
  have hStarted : fields.any Field.counts = true :=
    List.any_eq_true.mpr ⟨.event, h.event, rfl⟩
  rw [Frame.Draft.addAll_append,
    Field.addAll_lines entry.nonempty entry.trimmed h.others, Field.foldl_extend]
  simp [Frame.Draft.addAll, Frame.Draft.add_blank _ hClose, Frame.Draft.close,
    Frame.Draft.empty, h.event, h.id, h.payload, hStarted, frame]

/-- The events, each as a frame, with lines between the frames that say nothing. -/
inductive Renders : List (LogEntry codec) → List String → Prop where
  | gap {lines : List String}
      (idle : ∀ line ∈ lines, Text.trim line = "" ∨ Frame.Draft.Ignored line) : Renders [] lines
  | next {gap : List String} {entry : LogEntry codec} {fields : List Field} {close : String}
      {entries : List (LogEntry codec)} {lines : List String}
      (idle : ∀ line ∈ gap, Text.trim line = "" ∨ Frame.Draft.Ignored line)
      (forms : entry.Forms fields) (blank : Text.trim close = "")
      (rest : Renders entries lines) :
      Renders (entry :: entries)
        (gap ++ fields.map (Field.line entry.id) ++ close :: lines)

theorem addAll_idle {lines : List String}
    (h : ∀ line ∈ lines, Text.trim line = "" ∨ Frame.Draft.Ignored line) :
    Frame.Draft.empty.addAll lines = ([], .empty) := by
  induction lines with
  | nil => rfl
  | cons line lines ih =>
      have hAdd : Frame.Draft.empty.add line = (none, .empty) := by
        rcases h line List.mem_cons_self with hBlank | hIgnored
        · rw [Frame.Draft.add_blank _ hBlank]
          rfl
        · exact Frame.Draft.add_ignored _ hIgnored
      have hRest := ih fun line hLine => h line (List.mem_cons_of_mem _ hLine)
      simp [Frame.Draft.addAll, hAdd, hRest]

/-- Reading what a server has written gives the frames of its events. -/
theorem Renders.addAll_eq {entries : List (LogEntry codec)} {lines : List String}
    (h : Renders entries lines) :
    Frame.Draft.empty.addAll lines = (entries.map frame, .empty) := by
  induction h with
  | gap idle => exact addAll_idle idle
  | next idle forms blank rest ih =>
      have hSplit := addAll_forms forms blank
      rw [List.append_assoc, Frame.Draft.addAll_append, addAll_idle idle, ← List.singleton_append,
        ← List.append_assoc, Frame.Draft.addAll_append, hSplit, ih]
      rfl

/-- A body that brings lines one after the other, all of them or until it breaks off. -/
inductive Cut : List String → List BodyItem → Prop where
  | whole : Cut [] []
  | broken (lines : List String) (error : Error) (rest : List BodyItem) :
      Cut lines (.error error :: rest)
  | line {lines : List String} {items : List BodyItem} (line : String) (rest : Cut lines items) :
      Cut (line :: lines) (.ok line :: items)

/-- Behind an open frame come the frames of the events, as far as the body goes. -/
def Pending (draft : Frame.Draft) (entries : List (LogEntry codec)) (unread : List BodyItem) :
    Prop :=
  ∃ lines, draft.addAll lines = (entries.map frame, .empty) ∧ Cut lines unread

theorem Renders.pending {entries : List (LogEntry codec)} {lines : List String}
    {unread : List BodyItem} (h : Renders entries lines) (hCut : Cut lines unread) :
    Pending .empty entries unread :=
  ⟨lines, h.addAll_eq, hCut⟩

namespace Pending

variable {draft : Frame.Draft} {entries : List (LogEntry codec)} {unread : List BodyItem}

/-- A line closes the frame of the next event, or no frame at all. -/
theorem line {line : String} (h : Pending draft entries (.ok line :: unread)) :
    (draft.add line).1 = none ∧ Pending (draft.add line).2 entries unread ∨
      ∃ entry later, entries = entry :: later ∧ (draft.add line).1 = some entry.frame ∧
        Pending (draft.add line).2 later unread := by
  obtain ⟨lines, hLines, hCut⟩ := h
  cases hCut with
  | @line lines _ _ rest =>
      simp only [Frame.Draft.addAll, Prod.mk.injEq] at hLines
      obtain ⟨hFrames, hLast⟩ := hLines
      cases hFrame : (draft.add line).1 with
      | none =>
          rw [hFrame, Option.toList_none, List.nil_append] at hFrames
          exact Or.inl ⟨rfl, lines, Prod.ext hFrames hLast, rest⟩
      | some frame =>
          rw [hFrame, Option.toList_some, List.singleton_append] at hFrames
          obtain ⟨entry, later, rfl, rfl, hLater⟩ := List.map_eq_cons_iff.mp hFrames.symm
          exact Or.inr ⟨entry, later, rfl, rfl, lines, Prod.ext hLater.symm hLast, rest⟩

/-- At its end a body that was not cut leaves no frame open. -/
theorem close (h : Pending draft entries []) : draft.close.1 = none := by
  obtain ⟨lines, hLines, hCut⟩ := h
  cases hCut
  cases (Prod.ext_iff.mp hLines).2
  rfl

end Pending

end LogEntry

namespace Decoder.Reader

variable {M : Type} {codec : Codec M}

/-- The frame of an event has its messages and its id. -/
theorem ofFrame_frame (entry : LogEntry codec) (next : Option Reader) :
    ofFrame codec (some entry.frame) next = .messages entry.messages (some entry.id) next := by
  have hId : entry.frame.resumptionId = some entry.id := by
    simp [Frame.resumptionId, LogEntry.frame, entry.nonempty]
  have hMessage : entry.frame.isMessage = true := rfl
  have hData : codec.readDocument entry.frame.data = .ok entry.messages := entry.decodes
  simp only [ofFrame, hMessage, ite_true, hData, hId]

/-- The frame that is open has no id. -/
def Anonymous : Reader → Prop
  | .events draft => draft.id = none
  | _ => True

end Decoder.Reader

/-- Without a line that is an id there is no frame that has one. -/
theorem Frame.Draft.anonymous_add {draft : Frame.Draft} {line : String} (hDraft : draft.id = none)
    (hLine : Text.after? "id: " (Text.trim line) = none) :
    (draft.add line).2.id = none ∧ ∀ frame, (draft.add line).1 = some frame → frame.id = none := by
  have hNone (frame : Frame) (hFrame : none = some frame) : frame.id = none :=
    absurd hFrame.symm (Option.some_ne_none frame)
  rcases add_cases line with hBlank | ⟨key, value, hTrim⟩ | hIgnored
  · rw [add_blank draft hBlank, close]
    split
    · refine ⟨rfl, ?_⟩
      intro frame hFrame
      cases hFrame
      exact hDraft
    · exact ⟨hDraft, hNone⟩
  · rw [add_of_trim draft hTrim]
    cases key with
    | event => exact ⟨hDraft, hNone⟩
    | data => exact ⟨hDraft, hNone⟩
    | id =>
        rw [hTrim, Key.start, Text.after?_append] at hLine
        cases hLine
  · rw [add_ignored draft hIgnored]
    exact ⟨hDraft, hNone⟩

namespace Decoder

variable {M : Type} {codec : Codec M}

/-- No id is recorded, now or for the frame that is open. -/
def Progress.Anonymous : Progress M → Prop
  | .more next => next.Anonymous
  | .messages _ id next => id = none ∧ ∀ reader, next = some reader → reader.Anonymous
  | .finished _ => True

namespace Reader

theorem anonymous_ofFrame {frame : Option Frame} {next : Option Reader}
    (hFrame : ∀ inner, frame = some inner → inner.id = none)
    (hNext : ∀ reader, next = some reader → reader.Anonymous) :
    (ofFrame codec frame next).Anonymous := by
  have hSkip : (skip next : Progress M).Anonymous := by
    cases next with
    | none => trivial
    | some reader => exact hNext reader rfl
  unfold ofFrame
  split
  · exact hSkip
  · rename_i frame
    split
    · split
      · exact ⟨by simp [Frame.resumptionId, hFrame frame rfl], hNext⟩
      · trivial
    · exact hSkip

theorem anonymous_accept (codec : Codec M) (stopped : Bool) {reader : Reader}
    (item : Option BodyItem) (h : reader.Anonymous)
    (hItem : ∀ draft line, reader = .events draft → item = some (.ok line) →
      Text.after? "id: " (Text.trim line) = none) :
    (reader.accept codec stopped item).Anonymous := by
  cases reader with
  | document text =>
      rcases item with _ | (error | line)
      · simp only [accept]
        split
        · exact True.intro
        · split
          · exact ⟨rfl, nofun⟩
          · exact True.intro
      · exact True.intro
      · exact True.intro
  | sequence =>
      rcases item with _ | (error | line)
      · exact True.intro
      · simp only [accept]
        split <;> exact True.intro
      · simp only [accept]
        generalize record line = text
        split
        · exact True.intro
        · split
          · exact True.intro
          · split
            · exact ⟨rfl, fun reader hReader => by cases hReader; exact True.intro⟩
            · exact True.intro
  | events draft =>
      rcases item with _ | (error | line)
      · show (ofFrame codec draft.close.1 none).Anonymous
        refine anonymous_ofFrame ?_ nofun
        intro frame hFrame
        unfold Frame.Draft.close at hFrame
        split at hFrame
        · cases hFrame
          exact h
        · cases hFrame
      · exact True.intro
      · obtain ⟨hNext, hFrame⟩ := Frame.Draft.anonymous_add h (hItem draft line rfl rfl)
        simp only [accept]
        split
        · exact True.intro
        · exact anonymous_ofFrame hFrame fun reader hReader => by cases hReader; exact hNext

end Reader

end Decoder

end RpcTransport
