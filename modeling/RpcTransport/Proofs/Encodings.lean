import RpcTransport.Proofs.Documents

namespace RpcTransport

namespace Text

theorem trimmed_between {first last : Char} (hFirst : isBlank first = false)
    (hLast : isBlank last = false) (inside : List Char) :
    trimmed (first :: (inside ++ [last])) = first :: (inside ++ [last]) := by
  rw [trimmed_cons _ hFirst, ← List.cons_append,
    List.rdropWhile_concat_neg _ _ _ (by simp [hLast])]

theorem trim_feed (s : String) : trim (s ++ "\n") = trim s := by
  have hFeed : (s ++ "\n").toList = s.toList ++ ['\n'] := String.toList_append
  rw [trim, hFeed, trimmed_concat_blank (by decide), trim]

/-- A text without line feeds is one line. -/
theorem lines_of_no_feed {s : String} (hFeed : '\n' ∉ s.toList) (hSome : s ≠ "") :
    lines s = [s] := by
  have hRest : s.toList.isEmpty = false := by
    simpa [← String.toList_eq_nil_iff] using hSome
  simp [lines, linesOf, pieces_of_not_mem hFeed, hRest]

end Text

namespace Json

/-- An object that can be sent alone or as an item of a document: its members are in
order, its numbers are whole, and it nests one level less than a document may. -/
structure IsRecord (v : Json) : Prop where
  object : ∃ members, v = .object members
  plain : v.sorted = v
  whole : v.isWhole
  depth : v.depth ≤ 126

theorem IsRecord.isDocument {v : Json} (h : v.IsRecord) : v.IsDocument := by
  obtain ⟨members, rfl⟩ := h.object
  exact .object members

theorem IsDocument.trim_compact {v : Json} (h : v.IsDocument) :
    Text.trim v.compact = v.compact := by
  obtain ⟨first, inside, last, hText, hFirst, -, hLast⟩ := h.text_eq
  rw [Text.trim, compact, String.toList_ofList, hText, Text.trimmed_between hFirst hLast]

theorem IsDocument.compact_ne_empty {v : Json} (h : v.IsDocument) : v.compact ≠ "" := by
  obtain ⟨first, inside, last, hText, -⟩ := h.text_eq
  simp [compact, hText]

theorem IsDocument.lines_compact {v : Json} (h : v.IsDocument) (hWhole : v.isWhole) :
    Text.lines v.compact = [v.compact] := by
  refine Text.lines_of_no_feed (fun hFeed => ?_) h.compact_ne_empty
  rw [compact, String.toList_ofList] at hFeed
  exact absurd (visible_of_mem_text v hWhole _ hFeed) (by decide)

/-- A record may have its separator in front. -/
theorem IsDocument.record_compact {v : Json} (h : v.IsDocument) {line : String}
    (hLine : line = v.compact ∨ line = "\x1e" ++ v.compact) :
    Decoder.Reader.record line = v.compact := by
  obtain ⟨first, inside, last, hText, hFirst, hMark, hLast⟩ := h.text_eq
  have hCompact : v.compact = .ofList (first :: (inside ++ [last])) := by rw [compact, hText]
  have hTrim : Text.trimmed (first :: (inside ++ [last])) = first :: (inside ++ [last]) :=
    Text.trimmed_between hFirst hLast inside
  obtain rfl | rfl := hLine
  · simp [Decoder.Reader.record, Text.trim, hCompact, hTrim, hMark]
  · have hMarked : Text.trimmed ('\x1e' :: first :: (inside ++ [last])) =
        '\x1e' :: first :: (inside ++ [last]) :=
      Text.trimmed_between rfl hLast (first :: inside)
    simp [Decoder.Reader.record, Text.trim, hCompact, hTrim, hMarked, hMark]

theorem sortedItems_eq {vs : List Json} (h : ∀ v ∈ vs, v.sorted = v) : sortedItems vs = vs := by
  induction vs with
  | nil => rfl
  | cons v vs ih =>
      rw [sortedItems, h v List.mem_cons_self, ih fun w hw => h w (List.mem_cons_of_mem v hw)]

theorem itemsAreWhole_of {vs : List Json} (h : ∀ v ∈ vs, v.isWhole) : itemsAreWhole vs := by
  induction vs with
  | nil => rfl
  | cons v vs ih =>
      rw [itemsAreWhole, h v List.mem_cons_self, ih fun w hw => h w (List.mem_cons_of_mem v hw)]
      rfl

theorem depthOfItems_le {vs : List Json} {n : Nat} (h : ∀ v ∈ vs, v.depth ≤ n) :
    depthOfItems vs ≤ n := by
  induction vs with
  | nil => exact Nat.zero_le n
  | cons v vs ih =>
      exact Nat.max_le.mpr ⟨h v List.mem_cons_self, ih fun w hw => h w (List.mem_cons_of_mem v hw)⟩

theorem IsRecord.read_compact {v : Json} (h : v.IsRecord) : read v.compact = .ok v :=
  Json.read_compact (Nat.le_succ_of_le h.depth) h.whole

theorem IsRecord.parse_compact {v : Json} (h : v.IsRecord) : parse v.compact = .ok v := by
  rw [parse, h.read_compact]
  exact congrArg Except.ok h.plain

end Json

namespace Codec

variable {M : Type} {codec : Codec M}

/-- White space around a document makes no difference. -/
theorem readDocument_trim {s t : String} (h : Text.trim s = Text.trim t) :
    codec.readDocument s = codec.readDocument t := by
  simp only [readDocument, h]

/-- The message of an object is the message of its document. -/
theorem readDocument_object {v : Json} (hRecord : v.IsRecord) {message : M}
    (hDecode : codec.decode v.compact = .ok message) :
    codec.readDocument v.compact = .ok [message] := by
  have hParse := hRecord.parse_compact
  obtain ⟨members, rfl⟩ := hRecord.object
  simp only [readDocument, hRecord.isDocument.trim_compact, hParse, hDecode]
  rfl

theorem read_array {vs : List Json} (hRecords : ∀ v ∈ vs, v.IsRecord) :
    Json.read (Json.array vs).compact = .ok (.array vs) :=
  Json.read_compact (Nat.succ_le_succ (Json.depthOfItems_le fun v hv => (hRecords v hv).depth))
    (Json.itemsAreWhole_of fun v hv => (hRecords v hv).whole)

theorem parse_array {vs : List Json} (hRecords : ∀ v ∈ vs, v.IsRecord) :
    Json.parse (Json.array vs).compact = .ok (.array vs) := by
  rw [Json.parse, read_array hRecords, Except.map, Json.sorted,
    Json.sortedItems_eq fun v hv => (hRecords v hv).plain]

/-- The messages of the items are the messages of the array. -/
theorem readDocument_array {vs : List Json} (hRecords : ∀ v ∈ vs, v.IsRecord) {messages : List M}
    (hDecode : List.Forall₂ (fun v message => codec.decode v.compact = .ok message) vs messages) :
    codec.readDocument (Json.array vs).compact = .ok messages := by
  have hItems : vs.mapM (fun v => codec.decode v.compact) = .ok messages := by
    clear hRecords
    induction hDecode with
    | nil => rfl
    | cons hFirst _ ih =>
        simp only [List.mapM_cons, hFirst, ih]
        rfl
  simp only [readDocument, (Json.IsDocument.array vs).trim_compact, parse_array hRecords, hItems]

theorem listOfJson?_of_decode {vs : List Json} (hRecords : ∀ v ∈ vs, v.IsRecord)
    {messages : List Rpc.Message}
    (hDecode : List.Forall₂ (fun v message => jsonRpc.decode v.compact = .ok message) vs messages) :
    Rpc.listOfJson? vs = some messages := by
  induction hDecode with
  | nil => rfl
  | @cons v message vs messages hFirst _ ih =>
      have hMessage : Rpc.Message.ofJson? v = some message :=
        ofJson?_of_decode hFirst (hRecords v List.mem_cons_self).read_compact
      rw [Rpc.listOfJson?, hMessage, ih fun w hw => hRecords w (List.mem_cons_of_mem v hw)]

/-- A value is decoded to itself. -/
theorem eq_of_decode {vs messages : List Json} (hRecords : ∀ v ∈ vs, v.IsRecord)
    (hDecode : List.Forall₂ (fun v message => value.decode v.compact = .ok message) vs messages) :
    vs = messages := by
  induction hDecode with
  | nil => rfl
  | @cons v message vs messages hFirst _ ih =>
      have hValue : value.decode v.compact = .ok v := by
        simp [value, (hRecords v List.mem_cons_self).parse_compact, Except.mapError]
      rw [hValue] at hFirst
      cases hFirst
      rw [← ih fun w hw => hRecords w (List.mem_cons_of_mem v hw)]

/-- Decoding the array and taking the batch apart gives the same messages. -/
theorem itemsOf_array (h : codec.Provided) {vs : List Json}
    (hRecords : ∀ v ∈ vs, v.IsRecord) {messages : List M}
    (hDecode : List.Forall₂ (fun v message => codec.decode v.compact = .ok message) vs messages) :
    (codec.decode (Json.array vs).compact).map codec.itemsOf = .ok messages := by
  cases h with
  | jsonRpc =>
      have hBatch : Rpc.Message.ofJson? (.array vs) = some (.batch messages) := by
        rw [Rpc.Message.ofJson?, listOfJson?_of_decode hRecords hDecode]
      have hArray : Rpc.Message.read (Json.array vs).compact = .ok (.batch messages) :=
        Rpc.Message.read_iff.mpr ⟨.array vs, Json.read_iff.mp (read_array hRecords), hBatch⟩
      simp [jsonRpc, hArray, Except.mapError, Except.map, Rpc.Message.items]
  | value =>
      obtain rfl := eq_of_decode hRecords hDecode
      simp [value, parse_array hRecords, Except.mapError, Except.map]

end Codec

namespace Decoder

variable {M : Type}

/-- The content type says which form a response has. -/
theorem select_announced {β : Type} {response : Http.Response β} {decoder : Decoder}
    (hStatus : response.status = 200)
    (hType : response.contentType?.bind ofContentType? = some decoder) :
    select response = .ok (some decoder) := by
  obtain ⟨contentType, hSome, hDecoder⟩ := Option.bind_eq_some_iff.mp hType
  simp [select, hStatus, Http.Response.isSuccess, hSome, hDecoder]

/-- A body that carries the values in the form that the decoder takes. -/
inductive Carries (vs : List Json) : Decoder → List BodyItem → Prop
  /-- The compact text of the array. -/
  | document : Carries vs .singleDocument (Body.ofText (Json.array vs).compact)
  /-- One compact text on each line, with a separator in front or without. -/
  | sequence {lines : List String}
      (hLines : List.Forall₂
        (fun v line => line = v.compact ∨ line = "\x1e" ++ v.compact) vs lines) :
      Carries vs .jsonSequence (Body.ofLines lines)
  /-- One message frame for each value, its data the compact text. -/
  | frames {lines : List String}
      (hFrames : List.Forall₂ (fun v frame => frame.event = "message" ∧ frame.data = v.compact) vs
        (Frame.ofLines lines)) :
      Carries vs .eventStream (Body.ofLines lines)

/-- The lines of the frames, one after the other, carry the values. -/
theorem carries_frameLines {vs : List Json} (hRecords : ∀ v ∈ vs, v.IsRecord) :
    Carries vs .eventStream (Body.ofLines (vs.flatMap fun v => frameLines [v.compact])) := by
  refine .frames ?_
  have hLines : (vs.flatMap fun v => frameLines [v.compact]) =
      (vs.map fun v => [v.compact]).flatMap frameLines := (List.flatMap_map ..).symm
  rw [hLines, Frame.ofLines_frameLines, List.map_map, List.forall₂_map_right_iff,
    List.forall₂_same]
  intro v hv
  have hDocument := (hRecords v hv).isDocument
  have hEnd := Text.withoutEnd_of_trim hDocument.trim_compact
  have hCarried : Field.carried [v.compact] = [v.compact] := by
    simp [Field.carried, hEnd, hDocument.compact_ne_empty]
  exact ⟨rfl, by simp [Frame.ofPayload, hCarried]⟩

theorem filterMap_record? {codec : Codec M} {vs : List Json} {lines : List String}
    {messages : List M} (hRecords : ∀ v ∈ vs, v.IsRecord)
    (hDecode : List.Forall₂ (fun v message => codec.decode v.compact = .ok message) vs messages)
    (hLines : List.Forall₂ (fun v line => line = v.compact ∨ line = "\x1e" ++ v.compact) vs lines) :
    lines.filterMap (record? codec) = messages := by
  induction hLines generalizing messages with
  | nil =>
      cases hDecode
      rfl
  | @cons v line vs lines hLine _ ih =>
      cases hDecode with
      | @cons _ message _ _ hFirst hRest =>
          have hDocument := (hRecords v List.mem_cons_self).isDocument
          have hSome : record? codec line = some message := by
            rw [record?, hDocument.record_compact hLine, if_neg hDocument.compact_ne_empty, hFirst]
            rfl
          rw [List.filterMap_cons_some hSome,
            ih (fun w hw => hRecords w (List.mem_cons_of_mem v hw)) hRest]

theorem takeFrames_records {codec : Codec M} {handler : Handler M} {vs : List Json}
    {frames : List Frame} {messages : List M} (hRecords : ∀ v ∈ vs, v.IsRecord)
    (hDecode : List.Forall₂ (fun v message => codec.decode v.compact = .ok message) vs messages)
    (hFrames : List.Forall₂ (fun v frame => frame.event = "message" ∧ frame.data = v.compact) vs
      frames) (seen : List M) (token : ResumptionToken) :
    ∃ last, takeFrames codec handler seen token frames =
      .ended (deliver handler seen messages).1 last (deliver handler seen messages).2 := by
  induction hFrames generalizing messages seen token with
  | nil =>
      cases hDecode
      exact ⟨token, rfl⟩
  | @cons v frame vs frames hFrame _ ih =>
      cases hDecode with
      | cons hFirst hRest =>
          have hMessage : frame.isMessage = true := by simp [Frame.isMessage, hFrame.1]
          have hDocument := Codec.readDocument_object (hRecords v List.mem_cons_self) hFirst
          rw [takeFrames, if_pos hMessage, hFrame.2, hDocument]
          simp only [deliver]
          cases handler seen.length _ with
          | error error => exact ⟨token, rfl⟩
          | ok => exact ih (fun w hw => hRecords w (List.mem_cons_of_mem v hw)) hRest _ _

theorem length_of_deliver {handler : Handler M} {seen messages all : List M}
    (h : deliver handler seen messages = (all, .ok ())) :
    all.length = seen.length + messages.length := by
  induction messages generalizing seen with
  | nil =>
      cases h
      rfl
  | cons message messages ih =>
      rw [deliver] at h
      split at h
      · rw [ih h]
        simp only [List.length_append, List.length_cons, List.length_nil]
        omega
      · cases h

/-- The result of a decoding counts the messages, unless one was refused. -/
theorem ended_result {handler : Handler M} (messages : List M) (token : ResumptionToken) :
    (Outcome.ended (deliver handler [] messages).1 token (deliver handler [] messages).2).result =
      (deliver handler [] messages).2.map fun _ => messages.length := by
  rcases hDeliver : deliver handler [] messages with ⟨seen, error | _⟩
  · rfl
  · show Except.ok seen.length = .ok messages.length
    rw [length_of_deliver hDeliver, List.length_nil, Nat.zero_add]

namespace Sample

/-- A request and a notification. -/
def records : List Json :=
  [.object [("id", .string "7"), ("jsonrpc", .string "2.0"), ("method", .string "a\n")],
    .object [("jsonrpc", .string "2.0"), ("method", .string "b"), ("params", .array [])]]

def messages : List Rpc.Message :=
  [.request ⟨"2.0", .text "7", "a\n", none⟩, .notification ⟨"2.0", "b", some (.array [])⟩]

/-- Accepts one message and refuses the next. -/
def handler : Handler Rpc.Message
  | 0, _ => .ok ()
  | _, _ => .error (.handler "full")

/-- The records as frames, the first with an id and with its fields in another order. -/
def lines : List String :=
  ["id: 1", "data: \x7b\"id\":\"7\",\"jsonrpc\":\"2.0\",\"method\":\"a\\n\"\x7d",
    "event: message", "",
    ": idle", "event: message",
    "data: \x7b\"jsonrpc\":\"2.0\",\"method\":\"b\",\"params\":[]\x7d", ""]

def stream : Http.Response (List BodyItem) :=
  ⟨200, [("Content-Type", "text/event-stream; charset=utf-8")], Body.ofLines lines⟩

end Sample

end Decoder

end RpcTransport
