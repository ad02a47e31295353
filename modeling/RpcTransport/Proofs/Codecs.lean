import RpcTransport.Codec
import RpcTransport.Proofs.Json.Printing
import RpcTransport.Proofs.Json.Reflow

namespace RpcTransport

open Json (Spells Reflows)

theorem Rpc.Message.read_iff {s : String} {message : Rpc.Message} :
    Rpc.Message.read s = .ok message ↔
      ∃ json, Spells s.toList json ∧ Rpc.Message.ofJson? json = some message := by
  unfold Rpc.Message.read
  constructor
  · intro h
    cases hStart : Json.Reader.start s.toList with
    | error fault => rw [hStart] at h; cases h
    | ok out =>
        obtain ⟨json, rest⟩ := out
        rw [hStart] at h
        simp only [Except.mapError, bind, Except.bind] at h
        cases hMessage : Rpc.Message.ofJson? json with
        | none => rw [hMessage] at h; cases h
        | some found =>
            cases hFinish : Json.Reader.finish rest with
            | error fault => simp only [hMessage, hFinish] at h; cases h
            | ok =>
                simp only [hMessage, hFinish] at h
                cases h
                have hEnd := Json.Reader.finish_iff.mp hFinish
                exact ⟨json, ⟨rest, (Json.Reader.start_iff hEnd).mp hStart, hEnd⟩, hMessage⟩
  · rintro ⟨json, ⟨rest, hReads, hEnd⟩, hMessage⟩
    rw [(Json.Reader.start_iff hEnd).mpr hReads]
    simp only [Except.mapError, bind, Except.bind, hMessage, Json.Reader.finish_iff.mpr hEnd]
    rfl

namespace Codec

/-- One of the two codecs that are given. -/
inductive Provided : {M : Type} → Codec M → Prop
  | jsonRpc : Provided jsonRpc
  | value : Provided value

variable {M : Type} {codec : Codec M}

/-- A codec decodes the value of a text. -/
theorem Provided.decode_iff (h : codec.Provided) : ∃ convert : Json → Option M,
    ∀ s message, codec.decode s = .ok message ↔
      ∃ json, Spells s.toList json ∧ convert json = some message := by
  cases h with
  | jsonRpc =>
      refine ⟨Rpc.Message.ofJson?, fun s message => ?_⟩
      rw [← Rpc.Message.read_iff]
      show (Rpc.Message.read s).mapError _ = _ ↔ _
      cases Rpc.Message.read s <;> simp [Except.mapError]
  | value =>
      refine ⟨fun json => some json.sorted, fun s message => ?_⟩
      show (Json.parse s).mapError _ = _ ↔ _
      rw [Json.parse]
      constructor
      · intro h
        cases hRead : Json.read s with
        | error error => rw [hRead] at h; cases h
        | ok json =>
            rw [hRead] at h
            cases h
            exact ⟨json, Json.read_iff.mp hRead, rfl⟩
      · rintro ⟨json, hSpells, hMessage⟩
        rw [Json.read_iff.mpr hSpells]
        cases hMessage
        rfl

theorem ofJson?_of_decode {s : String} {json : Json} {message : Rpc.Message}
    (hDecode : jsonRpc.decode s = .ok message) (hRead : Json.read s = .ok json) :
    Rpc.Message.ofJson? json = some message := by
  have hMessage : Rpc.Message.read s = .ok message := by
    cases hOutcome : Rpc.Message.read s with
    | error error =>
        simp [jsonRpc, hOutcome, Except.mapError] at hDecode
    | ok found =>
        simpa [jsonRpc, hOutcome, Except.mapError] using hDecode
  obtain ⟨found, hSpells, hFound⟩ := Rpc.Message.read_iff.mp hMessage
  rw [Json.read_iff.mpr hSpells] at hRead
  cases hRead
  exact hFound

/-- Where line ends stand makes no difference to a codec. -/
theorem Provided.decode_reflows (h : codec.Provided) {s t : String} {message : M}
    (hFlow : Reflows s.toList t.toList) (hDecode : codec.decode s = .ok message) :
    codec.decode t = .ok message := by
  obtain ⟨convert, hConvert⟩ := h.decode_iff
  obtain ⟨json, hSpells, hMessage⟩ := (hConvert s message).mp hDecode
  exact (hConvert t message).mpr ⟨json, hSpells.reflows hFlow, hMessage⟩

/-- Where line ends stand makes no difference to a document, and white space around it
none either. -/
theorem Provided.readDocument_reflows (h : codec.Provided) {s t : String} {messages : List M}
    (hFlow : Reflows (Text.trimmed s.toList) (Text.trimmed t.toList))
    (hRead : codec.readDocument s = .ok messages) : codec.readDocument t = .ok messages := by
  have hTrim : Reflows (Text.trim s).toList (Text.trim t).toList := by
    rwa [Text.trim, Text.trim, String.toList_ofList, String.toList_ofList]
  unfold readDocument Json.parse at hRead ⊢
  dsimp only at hRead ⊢
  cases hJson : Json.read (Text.trim s) with
  | error error =>
      rw [hJson] at hRead
      cases hRead
  | ok json =>
      have hMoved : Json.read (Text.trim t) = .ok json :=
        Json.read_iff.mpr ((Json.read_iff.mp hJson).reflows hTrim)
      rw [hJson] at hRead
      rw [hMoved]
      simp only [Except.map] at hRead ⊢
      cases hSorted : json.sorted with
      | array items =>
          rw [hSorted] at hRead
          exact hRead
      | object members =>
          rw [hSorted] at hRead
          obtain ⟨message, hDecode, hRead⟩ := bind_ok hRead
          cases hRead
          simp only [h.decode_reflows hTrim hDecode]
          rfl
      | _ =>
          rw [hSorted] at hRead
          cases hRead

end Codec

end RpcTransport
