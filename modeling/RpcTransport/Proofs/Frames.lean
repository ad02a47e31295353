import Mathlib.Data.List.Nodup
import RpcTransport.Frame
import RpcTransport.Proofs.Text.Trim

namespace RpcTransport.Frame

/-- The fields that count. -/
inductive Key where
  | event
  | data
  | id
  deriving DecidableEq

namespace Key

/-- What a line of the field begins with. -/
def start : Key → String
  | .event => "event: "
  | .data => "data: "
  | .id => "id: "

theorem after?_start (key other : Key) (value : String) :
    Text.after? other.start (key.start ++ value) = if key = other then some value else none := by
  by_cases h : key = other
  · rw [h, if_pos rfl, Text.after?_append]
  · rw [if_neg h]
    -- The fields differ in their first letters already.
    cases key <;> cases other <;>
      first
      | exact absurd rfl h
      | exact Text.after?_eq_none rfl (String.toList_append ..) (by decide)

theorem trim_line (key : Key) {value : String} (h : Text.withoutEnd value ≠ "") :
    Text.trim (key.start ++ value) = key.start ++ Text.withoutEnd value := by
  cases key <;> exact Text.trim_append rfl rfl value h

/-- A field keeps nothing but its name if its value is blank. -/
theorem trim_line_blank (key : Key) {value : String} (h : Text.withoutEnd value = "") :
    Text.trim (key.start ++ value) = Text.withoutEnd key.start := by
  cases key <;> exact Text.trim_append_blank rfl rfl h

/-- A value in a trimmed line is not empty and has no white space at its end. -/
theorem value_of_trim {key : Key} {line value : String}
    (h : Text.trim line = key.start ++ value) :
    value ≠ "" ∧ Text.withoutEnd value = value := by
  have hLine : Text.trim (key.start ++ value) = key.start ++ value := by
    rw [← h, Text.trim_trim]
  have hNonempty : Text.withoutEnd value ≠ "" := by
    intro hBlank
    rw [key.trim_line_blank hBlank] at hLine
    have hLength := congrArg String.length hLine
    rw [String.length_append] at hLength
    have hShorter : (Text.withoutEnd key.start).length < key.start.length := by
      cases key <;> decide
    omega
  rw [key.trim_line hNonempty, String.append_right_inj] at hLine
  exact ⟨hLine ▸ hNonempty, hLine⟩

end Key

namespace Draft

/-- A line that is no field, such as a comment. -/
structure Ignored (line : String) : Prop where
  notBlank : Text.trim line ≠ ""
  event : Text.after? "event: " (Text.trim line) = none
  data : Text.after? "data: " (Text.trim line) = none
  id : Text.after? "id: " (Text.trim line) = none

theorem add_blank (draft : Draft) {line : String} (h : Text.trim line = "") :
    draft.add line = draft.close := by
  simp [add, h]

theorem add_ignored (draft : Draft) {line : String} (h : Ignored line) :
    draft.add line = (none, draft) := by
  simp [add, h.notBlank, h.event, h.data, h.id]

theorem addAll_cons (draft : Draft) (line : String) (lines : List String) :
    draft.addAll (line :: lines) =
      ((draft.add line).1.toList ++ ((draft.add line).2.addAll lines).1,
        ((draft.add line).2.addAll lines).2) := by
  rw [addAll]

theorem addAll_append (draft : Draft) (lines more : List String) :
    draft.addAll (lines ++ more) =
      ((draft.addAll lines).1 ++ ((draft.addAll lines).2.addAll more).1,
        ((draft.addAll lines).2.addAll more).2) := by
  induction lines generalizing draft with
  | nil => rfl
  | cons line lines ih => simp [addAll_cons, ih]

/-- The draft with one more value. White space before a value counts in data only. -/
def put (draft : Draft) : Key → String → Draft
  | .event, value => { draft with event := Text.trim value, started := true }
  | .data, value => { draft with data := draft.data ++ [value], started := true }
  | .id, value => { draft with id := some (Text.trim value), started := true }

theorem add_of_trim (draft : Draft) {line value : String} {key : Key}
    (h : Text.trim line = key.start ++ value) : draft.add line = (none, draft.put key value) := by
  have hNotBlank : key.start ++ value ≠ "" := by
    cases key <;> simp [Key.start]
  have hEvent : Text.after? "event: " (key.start ++ value) =
      if key = .event then some value else none := key.after?_start .event value
  have hData : Text.after? "data: " (key.start ++ value) =
      if key = .data then some value else none := key.after?_start .data value
  have hId : Text.after? "id: " (key.start ++ value) =
      if key = .id then some value else none := key.after?_start .id value
  simp only [add, h, hNotBlank, ite_false, hEvent, hData, hId]
  cases key <;> rfl

/-- A line of a field sets the field, unless the value is blank. -/
theorem add_field (draft : Draft) (key : Key) (value : String) :
    draft.add (key.start ++ value) =
      (none, if Text.withoutEnd value = "" then draft
        else draft.put key (Text.withoutEnd value)) := by
  by_cases hBlank : Text.withoutEnd value = ""
  · have hIgnored : Ignored (key.start ++ value) := by
      constructor <;> rw [key.trim_line_blank hBlank] <;> cases key <;> decide
    rw [if_pos hBlank, add_ignored draft hIgnored]
  · rw [if_neg hBlank, add_of_trim draft (key.trim_line hBlank)]

/-- What a line can say. -/
theorem add_cases (line : String) :
    Text.trim line = "" ∨ (∃ key value, Text.trim line = Key.start key ++ value) ∨
      Ignored line := by
  by_cases hBlank : Text.trim line = ""
  · exact Or.inl hBlank
  · by_cases hField : ∃ key value, Text.after? (Key.start key) (Text.trim line) = some value
    · obtain ⟨key, value, hAfter⟩ := hField
      exact Or.inr (Or.inl ⟨key, value, Text.eq_append_of_after? hAfter⟩)
    · simp only [not_exists, ← Option.eq_none_iff_forall_ne_some] at hField
      exact Or.inr (Or.inr ⟨hBlank, hField .event, hField .data, hField .id⟩)

end Draft

/-- The lines of the data of a frame. -/
def dataLines (data : String) : List String :=
  if data = "" then [] else (data.toList.splitOn '\n').map .ofList

theorem intercalate_dataLines (data : String) : "\n".intercalate (dataLines data) = data := by
  unfold dataLines
  split
  · rename_i hEmpty
    rw [hEmpty, String.intercalate_nil]
  · have hLines : ((data.toList.splitOn '\n').map String.ofList).map String.toList =
        data.toList.splitOn '\n' := by simp
    rw [← String.toList_inj, String.toList_intercalate, hLines]
    exact List.intercalate_splitOn '\n'

theorem dataLines_intercalate {lines : List String}
    (h : ∀ line ∈ lines, line ≠ "" ∧ '\n' ∉ line.toList) :
    dataLines ("\n".intercalate lines) = lines := by
  cases lines with
  | nil => rfl
  | cons line lines =>
      have hNonempty : "\n".intercalate (line :: lines) ≠ "" := by
        cases lines with
        | nil => simpa using (h line List.mem_cons_self).1
        | cons next lines => simp [String.intercalate_cons_cons]
      have hSplit : (['\n'].intercalate ((line :: lines).map String.toList)).splitOn '\n' =
          (line :: lines).map String.toList :=
        List.splitOn_intercalate '\n' (by simpa using fun line hLine => (h line hLine).2)
          (by simp)
      rw [dataLines, if_neg hNonempty, String.toList_intercalate]
      have hFeed : "\n".toList = ['\n'] := rfl
      rw [hFeed, hSplit]
      simp

/-- A frame as lines can say it. -/
structure WellFormed (frame : Frame) : Prop where
  event : Text.trim frame.event = frame.event ∧ '\n' ∉ frame.event.toList
  id : ∀ id ∈ frame.id, id ≠ "" ∧ Text.trim id = id ∧ '\n' ∉ id.toList
  data : ∀ line ∈ dataLines frame.data, line ≠ "" ∧ Text.withoutEnd line = line
  nonempty : ¬(frame.event = "" ∧ frame.id = none ∧ frame.data = "")

instance (frame : Frame) : Decidable frame.WellFormed :=
  decidable_of_iff
    ((Text.trim frame.event = frame.event ∧ '\n' ∉ frame.event.toList) ∧
      (∀ id ∈ frame.id, id ≠ "" ∧ Text.trim id = id ∧ '\n' ∉ id.toList) ∧
      (∀ line ∈ dataLines frame.data, line ≠ "" ∧ Text.withoutEnd line = line) ∧
      ¬(frame.event = "" ∧ frame.id = none ∧ frame.data = ""))
    ⟨fun ⟨event, id, data, nonempty⟩ => ⟨event, id, data, nonempty⟩,
      fun h => ⟨h.event, h.id, h.data, h.nonempty⟩⟩

/-- A line feed ends no data, for no line of it is empty. -/
theorem WellFormed.getLast?_ne {frame : Frame} (h : frame.WellFormed) :
    frame.data.toList.getLast? ≠ some '\n' := by
  intro hLast
  obtain ⟨init, hInit⟩ := List.getLast?_eq_some_iff.mp hLast
  have hNonempty : frame.data ≠ "" := by
    intro hEmpty
    rw [hEmpty] at hInit
    exact List.concat_ne_nil _ _ hInit.symm
  have hMem : "" ∈ dataLines frame.data := by
    rw [dataLines, if_neg hNonempty, hInit, List.splitOn_append_cons_self]
    simp
  exact (h.data "" hMem).1 rfl

/-- What is set in an open frame is as a frame may have it. -/
structure Draft.Sound (draft : Draft) : Prop where
  event : Text.trim draft.event = draft.event ∧ '\n' ∉ draft.event.toList
  id : ∀ id ∈ draft.id, id ≠ "" ∧ Text.trim id = id ∧ '\n' ∉ id.toList
  data : ∀ line ∈ draft.data, line ≠ "" ∧ Text.withoutEnd line = line ∧ '\n' ∉ line.toList
  started : draft.started = true → ¬(draft.event = "" ∧ draft.id = none ∧ draft.data = [])

namespace Draft.Sound

variable {draft : Draft}

theorem empty : Draft.empty.Sound :=
  ⟨⟨rfl, List.not_mem_nil⟩, nofun, nofun, nofun⟩

theorem put (h : draft.Sound) (key : Key) {value : String} (hNonempty : value ≠ "")
    (hEnd : Text.withoutEnd value = value) (hSingle : '\n' ∉ value.toList) :
    (draft.put key value).Sound := by
  have hTrim : Text.trim value ≠ "" := by
    rwa [Ne, Text.trim_eq_empty, hEnd]
  have hFeed : '\n' ∉ (Text.trim value).toList := fun hMem => hSingle (Text.mem_of_mem_trim hMem)
  cases key with
  | event => exact ⟨⟨Text.trim_trim value, hFeed⟩, h.id, h.data, fun _ hNone => hTrim hNone.1⟩
  | data =>
      refine ⟨h.event, h.id, ?_, fun _ hNone => List.concat_ne_nil _ _ hNone.2.2⟩
      exact List.forall_mem_append.mpr
        ⟨h.data, List.forall_mem_singleton.mpr ⟨hNonempty, hEnd, hSingle⟩⟩
  | id =>
      refine ⟨h.event, ?_, h.data, fun _ hNone => Option.some_ne_none _ hNone.2.1⟩
      intro id hId
      cases hId
      exact ⟨hTrim, Text.trim_trim value, hFeed⟩

theorem close (h : draft.Sound) :
    draft.close.2.Sound ∧ ∀ frame ∈ draft.close.1, frame.WellFormed := by
  unfold Draft.close
  split
  · rename_i hStarted
    refine ⟨empty, ?_⟩
    intro frame hFrame
    cases hFrame
    have hLines : dataLines ("\n".intercalate draft.data) = draft.data :=
      dataLines_intercalate fun line hLine => ⟨(h.data line hLine).1, (h.data line hLine).2.2⟩
    refine ⟨h.event, h.id, ?_, ?_⟩
    · rw [hLines]
      exact fun line hLine => ⟨(h.data line hLine).1, (h.data line hLine).2.1⟩
    · rintro ⟨hEvent, hId, hData⟩
      dsimp only at hData
      rw [hData] at hLines
      exact h.started hStarted ⟨hEvent, hId, hLines.symm⟩
  · exact ⟨h, nofun⟩

theorem add (h : draft.Sound) {line : String} (hLine : '\n' ∉ line.toList) :
    (draft.add line).2.Sound ∧ ∀ frame ∈ (draft.add line).1, frame.WellFormed := by
  rcases Draft.add_cases line with hBlank | ⟨key, value, hTrim⟩ | hIgnored
  · rw [add_blank draft hBlank]
    exact h.close
  · have hSingle : '\n' ∉ value.toList := by
      intro hMem
      refine hLine (Text.mem_of_mem_trim ?_)
      rw [hTrim, String.toList_append]
      exact List.mem_append_right _ hMem
    obtain ⟨hNonempty, hEnd⟩ := Key.value_of_trim hTrim
    rw [add_of_trim draft hTrim]
    exact ⟨h.put key hNonempty hEnd hSingle, nofun⟩
  · rw [add_ignored draft hIgnored]
    exact ⟨h, nofun⟩

theorem addAll (h : draft.Sound) {lines : List String}
    (hLines : ∀ line ∈ lines, '\n' ∉ line.toList) :
    (draft.addAll lines).2.Sound ∧ ∀ frame ∈ (draft.addAll lines).1, frame.WellFormed := by
  induction lines generalizing draft with
  | nil => exact ⟨h, nofun⟩
  | cons line lines ih =>
      rw [List.forall_mem_cons] at hLines
      obtain ⟨hNext, hFrame⟩ := h.add hLines.1
      obtain ⟨hLast, hFrames⟩ := ih hNext hLines.2
      rw [addAll_cons]
      refine ⟨hLast, ?_⟩
      intro frame hMem
      rcases List.mem_append.mp hMem with hHead | hTail
      · exact hFrame frame (Option.mem_toList.mp hHead)
      · exact hFrames frame hTail

end Draft.Sound

/-! A frame as a server writes it. -/

/-- A field and the value that is written behind its name. -/
structure Entry where
  key : Key
  value : String

namespace Entry

def line (entry : Entry) : String :=
  entry.key.start ++ entry.value

/-- The values that are written for a field. -/
def values (key : Key) (entries : List Entry) : List String :=
  (entries.filter (·.key = key)).map (·.value)

theorem values_cons (key : Key) (entry : Entry) (entries : List Entry) :
    values key (entry :: entries) =
      if entry.key = key then entry.value :: values key entries else values key entries := by
  by_cases h : entry.key = key <;> simp [values, h]

/-- The last value of an event or an id counts, and every line of the data. -/
theorem addAll_lines {entries : List Entry}
    (h : ∀ entry ∈ entries, entry.value ≠ "" ∧ Text.withoutEnd entry.value = entry.value)
    (draft : Draft) :
    draft.addAll (entries.map line) =
      ([], { id := ((values .id entries).getLast?.map Text.trim).or draft.id
             event := ((values .event entries).getLast?.map Text.trim).getD draft.event
             data := draft.data ++ values .data entries
             started := draft.started || !entries.isEmpty }) := by
  induction entries generalizing draft with
  | nil => simp [Draft.addAll, values]
  | cons entry entries ih =>
      obtain ⟨key, value⟩ := entry
      rw [List.forall_mem_cons] at h
      have hAdd : draft.add (line ⟨key, value⟩) = (none, draft.put key value) := by
        rw [line, Draft.add_field, h.1.2, if_neg h.1.1]
      rw [List.map_cons, Draft.addAll_cons, hAdd, ih h.2]
      simp only [values_cons]
      cases key <;> simp [Draft.put, List.getLast?_cons, Option.getD_map]

end Entry

/-- The values that a frame has for a field. -/
def values (frame : Frame) : Key → List String
  | .event => if frame.event = "" then [] else [frame.event]
  | .data => dataLines frame.data
  | .id => frame.id.toList

/-- A line for each value, the fields in some order. -/
def entries (frame : Frame) (order : List Key) : List Entry :=
  order.flatMap fun key => (frame.values key).map (Entry.mk key)

/-- The lines of a frame, with the blank line that closes it. -/
def render (frame : Frame) (order : List Key) : List String :=
  (frame.entries order).map Entry.line ++ [""]

/-- Every field is written in one place. -/
theorem values_entries (frame : Frame) {order : List Key} (hOnce : order.Nodup) {key : Key}
    (hKey : key ∈ order) : Entry.values key (frame.entries order) = frame.values key := by
  have hGroup (other : Key) : Entry.values key ((frame.values other).map (Entry.mk other)) =
      if other = key then frame.values other else [] := by
    by_cases h : other = key <;> simp [Entry.values, List.filter_map, Function.comp_def, h]
  have hEntries : Entry.values key (frame.entries order) =
      order.flatMap fun other => if other = key then frame.values other else [] := by
    simp only [← hGroup]
    simp [Entry.values, entries, List.filter_flatMap, List.map_flatMap]
  have hElsewhere {part : List Key} (h : key ∉ part) :
      (part.flatMap fun other => if other = key then frame.values other else []) = [] :=
    List.flatMap_eq_nil_iff.mpr fun _ hOther => if_neg (ne_of_mem_of_not_mem hOther h)
  obtain ⟨before, behind, rfl⟩ := List.append_of_mem hKey
  rw [List.nodup_middle, List.nodup_cons, List.mem_append, not_or] at hOnce
  rw [hEntries, List.flatMap_append, List.flatMap_cons, if_pos rfl, hElsewhere hOnce.1.1,
    hElsewhere hOnce.1.2, List.nil_append, List.append_nil]

theorem WellFormed.value {frame : Frame} (h : frame.WellFormed) {key : Key} {value : String}
    (hValue : value ∈ frame.values key) : value ≠ "" ∧ Text.withoutEnd value = value := by
  cases key with
  | event =>
      rw [values] at hValue
      split at hValue
      · cases hValue
      · rename_i hNonempty
        cases List.mem_singleton.mp hValue
        exact ⟨hNonempty, Text.withoutEnd_of_trim h.event.1⟩
  | data => exact h.data value hValue
  | id =>
      obtain ⟨hNonempty, hTrim, -⟩ := h.id value (Option.mem_toList.mp hValue)
      exact ⟨hNonempty, Text.withoutEnd_of_trim hTrim⟩

section Rendering

variable {frame : Frame} {order : List Key}

theorem values_entries_of_perm (frame : Frame) (hOrder : order.Perm [.event, .data, .id])
    (key : Key) : Entry.values key (frame.entries order) = frame.values key :=
  values_entries frame (hOrder.nodup_iff.mpr (by decide))
    (hOrder.mem_iff.mpr (by cases key <;> decide))

/-- There is something to write for a well-formed frame. -/
theorem WellFormed.isEmpty_entries (h : frame.WellFormed)
    (hOrder : order.Perm [.event, .data, .id]) : (frame.entries order).isEmpty = false := by
  rw [List.isEmpty_eq_false_iff]
  intro hNil
  have hNone (key : Key) : frame.values key = [] := by
    rw [← values_entries_of_perm frame hOrder key, hNil]
    rfl
  have hEvent : frame.event = "" := by
    simpa [values] using hNone .event
  have hId : frame.id = none := by
    simpa [values] using hNone .id
  have hData : frame.data = "" := by
    have hLines : dataLines frame.data = [] := hNone .data
    rw [← intercalate_dataLines frame.data, hLines, String.intercalate_nil]
  exact h.nonempty ⟨hEvent, hId, hData⟩

/-- The fields of a frame, in any order, add up to it. -/
theorem WellFormed.addAll_entries (h : frame.WellFormed)
    (hOrder : order.Perm [.event, .data, .id]) :
    Draft.empty.addAll ((frame.entries order).map Entry.line) =
      ([], ⟨frame.id, frame.event, dataLines frame.data, true⟩) := by
  have hValues : ∀ entry ∈ frame.entries order,
      entry.value ≠ "" ∧ Text.withoutEnd entry.value = entry.value := by
    intro entry hEntry
    obtain ⟨key, -, hGroup⟩ := List.mem_flatMap.mp hEntry
    obtain ⟨value, hValue, rfl⟩ := List.mem_map.mp hGroup
    exact h.value hValue
  have hEvent : ((frame.values .event).getLast?.map Text.trim).getD "" = frame.event := by
    by_cases hEmpty : frame.event = "" <;> simp [values, hEmpty, h.event.1]
  have hId : ((frame.values .id).getLast?.map Text.trim).or none = frame.id := by
    cases hSome : frame.id with
    | none => simp [values, hSome]
    | some id => simp [values, hSome, (h.id id hSome).2.1]
  rw [Entry.addAll_lines hValues]
  simp only [values_entries_of_perm frame hOrder, h.isEmpty_entries hOrder, Draft.empty, hId,
    hEvent]
  rfl

/-- Reading the lines of a frame gives the frame. -/
theorem WellFormed.addAll_render (h : frame.WellFormed) (hOrder : order.Perm [.event, .data, .id]) :
    Draft.empty.addAll (frame.render order) = ([frame], .empty) := by
  rw [render, Draft.addAll_append, h.addAll_entries hOrder]
  simp only [Draft.addAll, Draft.add_blank _ (show Text.trim "" = "" from rfl), Draft.close,
    ite_true, intercalate_dataLines]
  rfl

end Rendering

/-- The frames that lines can say are the well-formed ones, and they are read back from
their own lines, with the fields of each in some order. -/
theorem ofLines_render :
    (∀ lines : List String, (∀ line ∈ lines, '\n' ∉ line.toList) →
      ∀ frame ∈ ofLines lines, frame.WellFormed ∧
        frame.data.toList.getLast? ≠ some '\n' ∧ frame.id ≠ some "") ∧
    ∀ written : List (Frame × List Key),
      (∀ entry ∈ written, entry.1.WellFormed ∧ entry.2.Perm [.event, .data, .id]) →
        ofLines (written.flatMap fun entry => entry.1.render entry.2) = written.map (·.1) := by
  constructor
  · intro lines hLines frame hFrame
    obtain ⟨hDraft, hFrames⟩ := Draft.Sound.empty.addAll hLines
    have hFormed : frame.WellFormed := by
      rcases List.mem_append.mp hFrame with hClosed | hOpen
      · exact hFrames frame hClosed
      · exact hDraft.close.2 frame (Option.mem_toList.mp hOpen)
    exact ⟨hFormed, hFormed.getLast?_ne, fun hId => (hFormed.id "" hId).1 rfl⟩
  · intro written hWritten
    have hAll : Draft.empty.addAll (written.flatMap fun entry => entry.1.render entry.2) =
        (written.map (·.1), .empty) := by
      induction written with
      | nil => rfl
      | cons entry written ih =>
          rw [List.forall_mem_cons] at hWritten
          rw [List.flatMap_cons, Draft.addAll_append, hWritten.1.1.addAll_render hWritten.1.2,
            ih hWritten.2]
          rfl
    rw [ofLines, hAll]
    simp [Draft.close, Draft.empty]

/-- Two frames, and no field in the place where the other one has it. -/
theorem ofLines_render_two :
    ofLines ["data: [", "data:  1]", "id: 7", "event: message", "", "data: tick", ""] =
      [⟨some "7", "message", "[\n 1]"⟩, ⟨none, "", "tick"⟩] :=
  ofLines_render.2
    [(⟨some "7", "message", "[\n 1]"⟩, [.data, .id, .event]),
      (⟨none, "", "tick"⟩, [.id, .event, .data])]
    (by decide)

end RpcTransport.Frame
