import RpcTransport.Body
import RpcTransport.Proofs.Text.Lines
import RpcTransport.Proofs.Text.Utf8

namespace RpcTransport.Body

open Text (Divides pieces withoutReturn)

/-- The bytes of the chunks before the first one that fails. -/
def received : List (Except String (List UInt8)) → List UInt8
  | [] => []
  | .ok chunk :: chunks => chunk ++ received chunks
  | .error _ :: _ => []

/-- What the first chunk that fails says. -/
def failure? : List (Except String (List UInt8)) → Option String
  | [] => none
  | .ok _ :: chunks => failure? chunks
  | .error text :: _ => some text

/-- The item for the bytes of a line is the text that they encode. If they encode none,
the item is an error that says so. -/
inductive Reads (bytes : List UInt8) : BodyItem → Prop where
  | text {text : String} (encodes : Text.Utf8.encoded text = bytes) : Reads bytes (.ok text)
  | fault {fault : Text.Utf8.Fault} (invalid : ∀ text, Text.Utf8.encoded text ≠ bytes) :
      Reads bytes (.error (.malformed (.notUtf8 fault)))

/-- The items behind the last line feed: a failure, or else the rest, if there is one. -/
inductive Ends (rest : List UInt8) : Option String → List BodyItem → Prop where
  | failed {text : String} : Ends rest (some text) [.error (.interrupted text)]
  | complete (nothing : rest = []) : Ends rest none []
  | unfinished {item : BodyItem} (something : rest ≠ []) (reads : Reads rest item) :
      Ends rest none [item]

theorem reads_ofBytes (bytes : List UInt8) : Reads bytes (ofBytes bytes) := by
  unfold ofBytes
  cases hDecode : Text.Utf8.decode bytes with
  | ok text => exact .text (Text.Utf8.decode_eq_ok_iff.mp hDecode)
  | error fault =>
      refine .fault fun text hText => ?_
      rw [← Text.Utf8.decode_eq_ok_iff, hDecode] at hText
      cases hText

/-- The item for the bytes of a closed line. -/
def ofPiece (piece : List UInt8) : BodyItem :=
  ofBytes (withoutReturn carriageReturn piece)

/-- The items that end a body. -/
def endOf (rest : List UInt8) : Option String → List BodyItem
  | some text => [.error (.interrupted text)]
  | none => Assembler.finish ⟨rest⟩

theorem ends_endOf (rest : List UInt8) (failure : Option String) :
    Ends rest failure (endOf rest failure) := by
  cases failure with
  | some text => exact .failed
  | none =>
      cases rest with
      | nil => exact .complete rfl
      | cons b rest => exact .unfinished nofun (reads_ofBytes _)

/-- The chunks are read as if their bytes came at once, behind what is unfinished. -/
theorem ofChunksFrom_eq {unfinished : List UInt8} (h : lineFeed ∉ unfinished)
    (chunks : List (Except String (List UInt8))) :
    ofChunksFrom ⟨unfinished⟩ chunks =
      (pieces lineFeed (unfinished ++ received chunks)).1.map ofPiece ++
        endOf (pieces lineFeed (unfinished ++ received chunks)).2 (failure? chunks) := by
  induction chunks generalizing unfinished with
  | nil =>
      rw [received, List.append_nil, Text.pieces_of_not_mem h]
      rfl
  | cons chunk chunks ih =>
      cases chunk with
      | error text =>
          rw [received, List.append_nil, Text.pieces_of_not_mem h]
          rfl
      | ok chunk =>
          have hRest := (Text.divides_pieces lineFeed (unfinished ++ chunk)).rest
          rw [received, ← List.append_assoc, Text.pieces_append, List.map_append,
            List.append_assoc, failure?, ← ih hRest]
          rfl

theorem ofChunks_eq (chunks : List (Except String (List UInt8))) :
    ofChunks chunks = (pieces lineFeed (received chunks)).1.map ofPiece ++
      endOf (pieces lineFeed (received chunks)).2 (failure? chunks) :=
  ofChunksFrom_eq List.not_mem_nil chunks

/-- The bytes of characters are cut where the characters are cut. -/
theorem pieces_encode (cs : List Char) :
    pieces lineFeed (cs.flatMap String.utf8EncodeChar) =
      ((pieces '\n' cs).1.map (·.flatMap String.utf8EncodeChar),
        (pieces '\n' cs).2.flatMap String.utf8EncodeChar) :=
  ((Text.divides_pieces '\n' cs).flatMap (by decide) fun _ hMem =>
    Text.Utf8.eq_of_mem_encode hMem (by decide)).pieces_eq

theorem ofBytes_encode (cs : List Char) :
    ofBytes (cs.flatMap String.utf8EncodeChar) = .ok (.ofList cs) := by
  rw [ofBytes, Text.Utf8.decode_eq_ok_iff.mpr (Text.Utf8.encoded_ofList cs)]
  rfl

theorem ofPiece_encode (piece : List Char) :
    ofPiece (piece.flatMap String.utf8EncodeChar) = .ok (.ofList (withoutReturn '\r' piece)) := by
  have hReturn : withoutReturn carriageReturn (piece.flatMap String.utf8EncodeChar) =
      (withoutReturn '\r' piece).flatMap String.utf8EncodeChar :=
    Text.withoutReturn_flatMap (by decide) (fun _ hMem =>
      Text.Utf8.eq_of_mem_encode hMem (by decide)) (fun _ => String.utf8EncodeChar_ne_nil) piece
  rw [ofPiece, hReturn, ofBytes_encode]

theorem endOf_encode (rest : List Char) :
    endOf (rest.flatMap String.utf8EncodeChar) none =
      if rest.isEmpty then [] else [.ok (.ofList rest)] := by
  cases rest with
  | nil => rfl
  | cons c rest =>
      have hSome : ((c :: rest).flatMap String.utf8EncodeChar).isEmpty = false := by
        simp [String.utf8EncodeChar_ne_nil]
      rw [endOf, Assembler.finish, hSome, ofBytes_encode]
      rfl

/-- The bytes of a text are read as its lines. -/
theorem ofChunks_encoded {chunks : List (Except String (List UInt8))} {text : String}
    (hBytes : received chunks = Text.Utf8.encoded text) (hFailure : failure? chunks = none) :
    ofChunks chunks = ofText text := by
  have hList : received chunks = text.toList.flatMap String.utf8EncodeChar := by
    rw [hBytes, ← Text.Utf8.encoded_ofList, String.ofList_toList]
  rw [ofChunks_eq, hList, hFailure, pieces_encode, endOf_encode, ofText, ofLines, Text.lines,
    Text.linesOf]
  simp only [List.map_map, List.map_append]
  congr 1
  · exact List.map_congr_left fun piece _ => ofPiece_encode piece
  · split <;> rfl

/-- Each piece that a line feed closes is an item, without a carriage return at its end, and
the rest is one at the end of the body. Other chunks with the same bytes, and the same
failure, make the same items. The bytes of a text make its lines. -/
theorem ofChunks_divides (chunks : List (Except String (List UInt8))) :
    (∃ closed rest items ending, Divides lineFeed (received chunks) closed rest ∧
      List.Forall₂ (fun piece item => Reads (withoutReturn carriageReturn piece) item) closed
        items ∧
      Ends rest (failure? chunks) ending ∧ ofChunks chunks = items ++ ending) ∧
    (∀ other, received other = received chunks → failure? other = failure? chunks →
      ofChunks other = ofChunks chunks) ∧
    ∀ text, received chunks = Text.Utf8.encoded text → failure? chunks = none →
      ofChunks chunks = ofText text := by
  refine ⟨⟨_, _, _, _, Text.divides_pieces lineFeed (received chunks), ?_,
    ends_endOf _ _, ofChunks_eq chunks⟩, ?_, ?_⟩
  · rw [List.forall₂_map_right_iff, List.forall₂_same]
    exact fun piece _ => reads_ofBytes _
  · intro other hReceived hFailure
    rw [ofChunks_eq, ofChunks_eq, hReceived, hFailure]
  · intro text hBytes hFailure
    exact ofChunks_encoded hBytes hFailure

/-- Chunks that cut a line end and a character in two, one of them empty. -/
def splitChunks : List (Except String (List UInt8)) :=
  [.ok [0x61, 0x0D], .ok [], .ok [0x0A, 0xE2], .ok [0x82, 0xAC, 0x0D]]

theorem ofChunks_divides_split :
    received splitChunks = Text.Utf8.encoded "a\r\n€\r" ∧ failure? splitChunks = none ∧
      ofChunks splitChunks = ofText "a\r\n€\r" ∧ ofText "a\r\n€\r" = [.ok "a", .ok "€\r"] := by
  have hBytes : received splitChunks = Text.Utf8.encoded "a\r\n€\r" := by decide +kernel
  exact ⟨hBytes, rfl, (ofChunks_divides splitChunks).2.2 _ hBytes rfl, by decide +kernel⟩

end RpcTransport.Body
