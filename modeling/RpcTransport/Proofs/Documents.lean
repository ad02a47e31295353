import Mathlib
import RpcTransport.Proofs.Codecs
import RpcTransport.Proofs.Decoding
import RpcTransport.Proofs.Rendering
import RpcTransport.Proofs.Text.Lines

namespace RpcTransport

open Json (Reflows)

namespace Text

/-- The lines with a line feed behind each. -/
def unlined (lines : List (List Char)) : List Char :=
  lines.flatMap (· ++ ['\n'])

theorem toList_unlines (lines : List String) :
    (Decoder.unlines lines).toList = unlined (lines.map String.toList) := by
  induction lines with
  | nil => rfl
  | cons line lines ih =>
      have hCons : Decoder.unlines (line :: lines) = line ++ "\n" ++ Decoder.unlines lines := rfl
      rw [hCons, String.toList_append, String.toList_append, ih]
      rfl

theorem trimmed_concat_blank {c : Char} (hc : isBlank c = true) (cs : List Char) :
    trimmed (cs ++ [c]) = trimmed cs := by
  rw [← trimmed_rdropWhile, List.rdropWhile_concat_pos _ _ _ hc, trimmed_rdropWhile]

/-- A line loses the carriage return at its end. -/
theorem reflows_withoutReturn (piece : List Char) :
    Reflows (piece ++ ['\n']) (withoutReturn '\r' piece ++ ['\n']) := by
  unfold withoutReturn
  split
  · rename_i hLast
    obtain ⟨start, rfl⟩ := List.getLast?_eq_some_iff.mp hLast
    rw [List.dropLast_concat, List.append_assoc]
    have hBlank : ∀ c ∈ ['\r', '\n'], isBlank c :=
      List.forall_mem_cons.mpr ⟨by decide, List.forall_mem_singleton.mpr (by decide)⟩
    exact (Reflows.refl start).append
      (.single hBlank (by decide) (by decide) Reflows.isSpace_feed)
  · exact .refl _

theorem reflows_closed (closed : List (List Char)) :
    Reflows (unlined closed) (unlined (closed.map (withoutReturn '\r'))) := by
  induction closed with
  | nil => exact .nil
  | cons piece closed ih => exact (reflows_withoutReturn piece).append ih

/-- The lines of a text are the text with other line ends, but for a line feed behind
the last one. -/
theorem reflows_lines (text : String) :
    Reflows (trimmed text.toList) (trimmed (Decoder.unlines (lines text)).toList) := by
  have hText := (divides_pieces '\n' text.toList).joined
  have hMap : ((lines text).map String.toList) = linesOf '\n' '\r' text.toList := by
    simp [lines, Function.comp_def]
  rw [toList_unlines, hMap, linesOf]
  rcases hPieces : pieces '\n' text.toList with ⟨closed, rest⟩
  rw [hPieces] at hText
  have hClosed := (reflows_closed closed).append (.refl rest)
  rw [unlined, hText] at hClosed
  cases rest with
  | nil =>
      rw [List.append_nil] at hClosed
      simpa using hClosed.trimmed
  | cons c rest =>
      have hBehind : unlined (closed.map (withoutReturn '\r') ++ [c :: rest]) =
          unlined (closed.map (withoutReturn '\r')) ++ (c :: rest) ++ ['\n'] := by
        simp [unlined]
      have hTrim := hClosed.trimmed
      rw [← trimmed_concat_blank (c := '\n') (by decide) (_ ++ c :: rest), ← hBehind] at hTrim
      exact hTrim

/-- Blank lines and white space at the end of a line may go into the line end before
them. The gap is what comes before the lines. -/
theorem reflows_carried {gap : List Char} (hBlank : ∀ c ∈ gap, isBlank c) (hFeed : '\n' ∈ gap)
    (lines : List String) :
    Reflows (gap ++ unlined (lines.map String.toList))
      ('\n' :: unlined ((Field.carried lines).map String.toList)) := by
  induction lines generalizing gap with
  | nil =>
      simp only [unlined, Field.carried, List.map_nil, List.flatMap_nil, List.append_nil,
        List.filter_nil]
      exact .single hBlank hFeed (by decide) Reflows.isSpace_feed
  | cons line lines ih =>
      have hSplit : (withoutEnd line).toList ++ line.toList.rtakeWhile isBlank = line.toList := by
        rw [withoutEnd, String.toList_ofList]
        exact List.rdropWhile_append_rtakeWhile
      have hEnd : ∀ c ∈ line.toList.rtakeWhile isBlank ++ ['\n'], isBlank c := by
        intro c hc
        obtain hc | hc := List.mem_append.mp hc
        · exact List.mem_rtakeWhile_imp hc
        · rw [List.mem_singleton.mp hc]
          decide
      have hCons : unlined ((line :: lines).map String.toList) =
          line.toList ++ ('\n' :: unlined (lines.map String.toList)) := by
        simp [unlined]
      generalize line.toList.rtakeWhile isBlank = blanks at hSplit hEnd
      rw [hCons, ← hSplit]
      by_cases hLine : withoutEnd line = ""
      · have hCarried : Field.carried (line :: lines) = Field.carried lines := by
          simp [Field.carried, hLine]
        have hText : gap ++ ((withoutEnd line).toList ++ blanks ++
            ('\n' :: unlined (lines.map String.toList))) =
              gap ++ (blanks ++ ['\n']) ++ unlined (lines.map String.toList) := by
          simp [hLine]
        rw [hCarried, hText]
        refine ih (fun c hc => ?_) (List.mem_append_left _ hFeed)
        exact (List.mem_append.mp hc).elim (hBlank c) (hEnd c)
      · have hCarried : Field.carried (line :: lines) = withoutEnd line :: Field.carried lines := by
          simp [Field.carried, hLine]
        have hText : (withoutEnd line).toList ++ blanks ++
            ('\n' :: unlined (lines.map String.toList)) =
              (withoutEnd line).toList ++ ((blanks ++ ['\n']) ++
                unlined (lines.map String.toList)) := by
          simp
        have hData : '\n' :: unlined ((withoutEnd line :: Field.carried lines).map String.toList) =
            ['\n'] ++ ((withoutEnd line).toList ++
              ('\n' :: unlined ((Field.carried lines).map String.toList))) := by
          simp [unlined]
        have hRest := ih hEnd (List.mem_append_right _ List.mem_cons_self)
        rw [hCarried, hText, hData]
        exact .gap hBlank hFeed (by decide) Reflows.isSpace_feed ((Reflows.refl _).append hRest)

theorem unlined_cons (line : List Char) (lines : List (List Char)) :
    unlined (line :: lines) = ['\n'].intercalate (line :: lines) ++ ['\n'] := by
  induction lines generalizing line with
  | nil => simp [unlined]
  | cons next lines ih =>
      have hCons : unlined (line :: next :: lines) = line ++ ['\n'] ++ unlined (next :: lines) := by
        simp [unlined]
      rw [hCons, ih]
      simp [List.intercalate_cons_cons]

theorem trimmed_unlined (lines : List String) :
    trimmed (unlined (lines.map String.toList)) = trimmed ("\n".intercalate lines).toList := by
  rw [String.toList_intercalate]
  cases lines with
  | nil => rfl
  | cons line lines =>
      rw [List.map_cons, unlined_cons, trimmed_concat_blank (by decide)]
      rfl

/-- What a frame carries of a text is the text with other line ends. -/
theorem reflows_data (text : String) :
    Reflows (trimmed (Decoder.unlines (lines text)).toList)
      (trimmed ("\n".intercalate (Field.carried (lines text))).toList) := by
  have hFeed : ∀ c ∈ ['\n'], isBlank c := List.forall_mem_singleton.mpr (by decide)
  have hFlow := (reflows_carried hFeed List.mem_cons_self (lines text)).trimmed
  rw [List.singleton_append, trimmed_blank _ (by decide), trimmed_blank _ (by decide),
    trimmed_unlined (Field.carried _), ← toList_unlines] at hFlow
  exact hFlow

end Text

/-- The lines of one message frame without an id, with the blank line that closes it. -/
def frameLines (payload : List String) : List String :=
  "event: message" :: payload.map ("data: " ++ ·) ++ [""]

/-- The frame that has the lines as its data. -/
def Frame.ofPayload (payload : List String) : Frame :=
  ⟨none, "message", "\n".intercalate (Field.carried payload)⟩

theorem Frame.Draft.addAll_frameLines (payload : List String) :
    Draft.empty.addAll (frameLines payload) = ([Frame.ofPayload payload], .empty) := by
  have hLines : frameLines payload =
      (Field.event :: payload.map Field.data).map (Field.line "0") ++ [""] := by
    simp [frameLines, Field.line, Function.comp_def]
  have hOthers : ∀ line, Field.other line ∈ Field.event :: payload.map Field.data →
      Draft.Ignored line := by simp
  have hData : (Field.event :: payload.map Field.data).filterMap Field.data? = payload := by
    rw [List.filterMap_cons_none rfl, List.filterMap_map]
    exact List.filterMap_some
  have hBlank : Text.trim "" = "" := by decide
  rw [hLines, Draft.addAll_append, Field.addAll_lines (by decide) (by decide) hOthers,
    Field.foldl_extend]
  simp [Draft.addAll, Draft.add_blank _ hBlank, Draft.close, Draft.empty, Field.counts, hData,
    Frame.ofPayload]

/-- One frame after the other is read from their lines. -/
theorem Frame.ofLines_frameLines (payloads : List (List String)) :
    Frame.ofLines (payloads.flatMap frameLines) = payloads.map Frame.ofPayload := by
  have hAll : Draft.empty.addAll (payloads.flatMap frameLines) =
      (payloads.map Frame.ofPayload, .empty) := by
    induction payloads with
    | nil => rfl
    | cons payload payloads ih =>
        rw [List.flatMap_cons, Draft.addAll_append, Draft.addAll_frameLines, ih]
        rfl
  rw [Frame.ofLines, hAll]
  exact List.append_nil _

namespace Decoder

/-- A document that decodes is decoded to the same messages as one body, cut into its
lines, and as the data of one frame, a `data: ` line for each of its lines. -/
theorem decode_lines {M : Type} {codec : Codec M} (hCodec : codec.Provided) {text : String}
    {messages : List M} (hRead : codec.readDocument text = .ok messages) {handler : Handler M}
    (hHandler : ∀ n message, handler n message = .ok ()) (token : ResumptionToken) :
    decode { codec, handler } token .singleDocument (Body.ofText text) =
        ⟨messages, token, .ok messages.length⟩ ∧
      decode { codec, handler } token .eventStream
          (Body.ofLines ("event: message" :: (Text.lines text).map ("data: " ++ ·) ++ [""])) =
        ⟨messages, token, .ok messages.length⟩ := by
  have hLines := hCodec.readDocument_reflows (Text.reflows_lines text) hRead
  have hData := hCodec.readDocument_reflows (Text.reflows_data text) hLines
  have hTold : Outcome.told handler [] token messages = ⟨messages, token, .ok messages.length⟩ := by
    rw [Outcome.told, deliver_all hHandler]
    rfl
  constructor
  · calc
      _ = takeDocument codec handler [] token ("" ++ unlines (Text.lines text)) :=
        run_document (Text.lines text) ""
      _ = Outcome.told handler [] token messages := by
        rw [String.empty_append, takeDocument, hLines]
      _ = _ := hTold
  · calc
      _ = takeFrames codec handler [] token (Frame.ofLines (frameLines (Text.lines text))) :=
        decode_events (frameLines (Text.lines text))
      _ = Outcome.told handler [] token messages := by
        rw [← List.flatMap_singleton frameLines, Frame.ofLines_frameLines]
        simp [Frame.ofPayload, takeFrames, Frame.isMessage, Frame.resumptionId,
          ResumptionToken.record, hData, Outcome.told, deliver_all hHandler]
      _ = _ := hTold

/-- A batch with every kind of line end, a blank line, and white space around it. -/
def raggedBatch : String :=
  "\u00a0[\r\n \x7b\"jsonrpc\":\"2.0\",\r\n\n\t\"method\":\"m\"\x7d \n]\u2003\r"

theorem decode_lines_ragged :
    Codec.jsonRpc.readDocument raggedBatch = .ok [.notification ⟨"2.0", "m", none⟩] ∧
      (∀ n (message : Rpc.Message), (fun _ _ => .ok () : Handler Rpc.Message) n message = .ok ()) ∧
      decode { codec := .jsonRpc, handler := fun _ _ => .ok () } none .singleDocument
          (Body.ofText raggedBatch) =
        ⟨[.notification ⟨"2.0", "m", none⟩], none, .ok 1⟩ ∧
      decode { codec := .jsonRpc, handler := fun _ _ => .ok () } none .eventStream
          (Body.ofLines ["event: message", "data: \u00a0[", "data:  \x7b\"jsonrpc\":\"2.0\",",
            "data: ", "data: \t\"method\":\"m\"\x7d ", "data: ]\u2003\r", ""]) =
        ⟨[.notification ⟨"2.0", "m", none⟩], none, .ok 1⟩ := by
  have hRead : Codec.jsonRpc.readDocument raggedBatch = .ok [.notification ⟨"2.0", "m", none⟩] := by
    cbv
  exact ⟨hRead, fun _ _ => rfl, decode_lines .jsonRpc hRead (fun _ _ => rfl) none⟩

end Decoder

end RpcTransport
