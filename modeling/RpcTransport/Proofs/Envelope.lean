import Mathlib.Data.List.Nodup
import RpcTransport.Proofs.Codecs

/-! Everything that is written comes back, except that a null among the plain values is read as an
absent value. -/
namespace RpcTransport.Rpc

/-- The value is left out if it is null. -/
def withoutNull : Option Json → Option Json
  | some .null => none
  | value => value

def ErrorObject.withoutNull (error : ErrorObject) : ErrorObject :=
  { error with data := Rpc.withoutNull error.data }

mutual

/-- The message with every null among its plain values left out. -/
def Message.withoutNulls : Message → Message
  | .batch items => .batch (listWithoutNulls items)
  | .request request => .request { request with params := withoutNull request.params }
  | .notification notification =>
    .notification { notification with params := withoutNull notification.params }
  | .response response =>
    .response { response with
      result := withoutNull response.result
      error := response.error.map ErrorObject.withoutNull }

def listWithoutNulls : List Message → List Message
  | [] => []
  | message :: rest => message.withoutNulls :: listWithoutNulls rest

end

mutual

/-- The plain values that a message carries: parameters, results and error data. -/
def Message.payloads : Message → List Json
  | .batch items => listPayloads items
  | .request request => request.params.toList
  | .notification notification => notification.params.toList
  | .response response =>
    response.result.toList ++ (response.error.bind ErrorObject.data).toList

def listPayloads : List Message → List Json
  | [] => []
  | message :: rest => message.payloads ++ listPayloads rest

end

theorem int64?_toInt (value : Int64) : int64? (.number (.integer value.toInt)) = some value := by
  have hLeast := value.le_toInt
  have hGreatest := value.toInt_lt
  rw [int64?, if_pos ⟨by exact hLeast, by exact hGreatest⟩, Int64.ofInt_toInt]

theorem RequestId.ofJson?_toJson (id : RequestId) : RequestId.ofJson? id.toJson = some id := by
  cases id with
  | number value => rw [RequestId.toJson, RequestId.ofJson?, int64?_toInt]
  | text value => rfl

theorem plain?_eq {value : Option Json} (h : ∀ v ∈ value, v.sorted = v) :
    plain? value = withoutNull value := by
  cases value with
  | none => rfl
  | some v => cases v <;> simp [plain?, withoutNull, h _ rfl]

/-- Where no key occurs twice, each field is looked up. -/
theorem fields?_object (names : List String) {members : List (String × Json)}
    (hDistinct : (members.map (·.1)).Nodup) :
    fields? names (.object members) = some (names.map fun name => members.lookup name) := by
  have hOnce (name : String) : members.countP (·.1 == name) ≤ 1 := by
    have hCount : members.countP (·.1 == name) = (members.map (·.1)).count name := by
      rw [List.count, List.countP_map]
      rfl
    rw [hCount]
    exact List.nodup_iff_count_le_one.mp hDistinct name
  rw [fields?, if_neg]
  simp [hOnce]

theorem ErrorObject.ofJson?_toJson {error : ErrorObject} (h : ∀ v ∈ error.data, v.sorted = v) :
    ErrorObject.ofJson? error.toJson = some error.withoutNull := by
  have hFields : fields? ["code", "message", "data"] error.toJson =
      some [some (.number (.integer error.code.toInt)), some (.string error.message),
        error.data] := by
    rw [toJson, fields?_object]
    · cases error.data <;> simp [optionalField, List.lookup_cons]
    · cases error.data <;> simp [optionalField]
  rw [ofJson?, hFields]
  simp [int64?_toInt, text?, plain?_eq h, ErrorObject.withoutNull]

/-! The kinds of single messages, each told from the ones that are tried before it. -/

theorem Request.ofSingle?_toJson {request : Request} (h : ∀ v ∈ request.params, v.sorted = v) :
    Message.ofSingle? request.toJson =
      some (.request { request with params := withoutNull request.params }) := by
  have hFields : fields? ["jsonrpc", "id", "method", "params"] request.toJson =
      some [some (.string request.version), some request.id.toJson, some (.string request.method),
        request.params] := by
    rw [toJson, fields?_object]
    · cases request.params <;> simp [optionalField, List.lookup_cons]
    · cases request.params <;> simp [optionalField]
  have hRequest : Request.ofJson? request.toJson =
      some { request with params := withoutNull request.params } := by
    rw [ofJson?, hFields]
    simp [text?, RequestId.ofJson?_toJson, plain?_eq h]
  simp [Message.ofSingle?, hRequest]

theorem Notification.fields?_toJson (notification : Notification) :
    fields? ["jsonrpc", "id", "method", "params"] notification.toJson =
        some [some (.string notification.version), none, some (.string notification.method),
          notification.params] ∧
      fields? ["jsonrpc", "method", "params"] notification.toJson =
        some [some (.string notification.version), some (.string notification.method),
          notification.params] := by
  rw [toJson, fields?_object, fields?_object]
  · cases notification.params <;> simp [optionalField, List.lookup_cons]
  all_goals cases notification.params <;> simp [optionalField]

theorem Notification.ofSingle?_toJson {notification : Notification}
    (h : ∀ v ∈ notification.params, v.sorted = v) :
    Message.ofSingle? notification.toJson =
      some (.notification { notification with params := withoutNull notification.params }) := by
  obtain ⟨hAsRequest, hFields⟩ := notification.fields?_toJson
  have hRequest : Request.ofJson? notification.toJson = none := by
    rw [Request.ofJson?, hAsRequest]
    rfl
  have hNotification : ofJson? notification.toJson =
      some { notification with params := withoutNull notification.params } := by
    rw [ofJson?, hFields]
    simp [text?, plain?_eq h]
  simp [Message.ofSingle?, hRequest, hNotification]

theorem Response.fields?_toJson (response : Response) :
    fields? ["jsonrpc", "id", "method", "params"] response.toJson =
        some [some (.string response.version), some response.id.toJson, none, none] ∧
      fields? ["jsonrpc", "method", "params"] response.toJson =
        some [some (.string response.version), none, none] ∧
      fields? ["jsonrpc", "id", "result", "error"] response.toJson =
        some [some (.string response.version), some response.id.toJson, response.result,
          response.error.map ErrorObject.toJson] := by
  rw [toJson, fields?_object, fields?_object, fields?_object]
  · cases response.result <;> cases response.error <;> simp [optionalField, List.lookup_cons]
  all_goals cases response.result <;> cases response.error <;> simp [optionalField]

theorem optionalError?_toJson {error : Option ErrorObject}
    (h : ∀ v ∈ error.bind ErrorObject.data, v.sorted = v) :
    optionalError? (error.map ErrorObject.toJson) = some (error.map ErrorObject.withoutNull) := by
  cases error with
  | none => rfl
  | some error =>
      have hError := ErrorObject.ofJson?_toJson h
      simp only [ErrorObject.toJson, Option.map_some, optionalError?] at hError ⊢
      rw [hError]
      rfl

theorem Response.ofSingle?_toJson {response : Response}
    (hResult : ∀ v ∈ response.result, v.sorted = v)
    (hError : ∀ v ∈ response.error.bind ErrorObject.data, v.sorted = v) :
    Message.ofSingle? response.toJson =
      some (.response { response with
        result := withoutNull response.result
        error := response.error.map ErrorObject.withoutNull }) := by
  obtain ⟨hAsRequest, hAsNotification, hFields⟩ := response.fields?_toJson
  have hRequest : Request.ofJson? response.toJson = none := by
    rw [Request.ofJson?, hAsRequest]
    rfl
  have hNotification : Notification.ofJson? response.toJson = none := by
    rw [Notification.ofJson?, hAsNotification]
    rfl
  have hResponse : ofJson? response.toJson = some { response with
      result := withoutNull response.result
      error := response.error.map ErrorObject.withoutNull } := by
    rw [ofJson?, hFields]
    simp [text?, RequestId.ofJson?_toJson, plain?_eq hResult, optionalError?_toJson hError]
  simp [Message.ofSingle?, hRequest, hNotification, hResponse]

theorem Message.ofJson?_object (members : List (String × Json)) :
    Message.ofJson? (.object members) = Message.ofSingle? (.object members) := by
  rw [Message.ofJson?]
  exact nofun

mutual

/-- A message is read from its written form, but for the nulls in it. -/
theorem Message.ofJson?_toJson : (message : Message) →
    (∀ v ∈ message.payloads, v.sorted = v) →
    Message.ofJson? message.toJson = some message.withoutNulls
  | .batch items, h => by
      rw [Message.toJson, Message.ofJson?, listOfJson?_listToJson items h, Message.withoutNulls]
  | .request request, h =>
      (Message.ofJson?_object _).trans
        (Request.ofSingle?_toJson fun v hv => h v (Option.mem_toList.mpr hv))
  | .notification notification, h =>
      (Message.ofJson?_object _).trans
        (Notification.ofSingle?_toJson fun v hv => h v (Option.mem_toList.mpr hv))
  | .response response, h =>
      (Message.ofJson?_object _).trans <| Response.ofSingle?_toJson
        (fun v hv => h v (List.mem_append_left _ (Option.mem_toList.mpr hv)))
        (fun v hv => h v (List.mem_append_right _ (Option.mem_toList.mpr hv)))

theorem listOfJson?_listToJson : (items : List Message) →
    (∀ v ∈ listPayloads items, v.sorted = v) →
    listOfJson? (listToJson items) = some (listWithoutNulls items)
  | [], _ => rfl
  | message :: rest, h => by
      rw [listPayloads, List.forall_mem_append] at h
      rw [listToJson, listOfJson?, Message.ofJson?_toJson message h.1,
        listOfJson?_listToJson rest h.2, listWithoutNulls]

end

theorem withoutNull_eq_self {value : Option Json} :
    withoutNull value = value ↔ ∀ v ∈ value, v ≠ .null := by
  cases value with
  | none => simp [withoutNull]
  | some v => cases v <;> simp [withoutNull]

mutual

/-- Nothing is lost if there is no null. -/
theorem Message.withoutNulls_eq_self : (message : Message) →
    (message.withoutNulls = message ↔ ∀ v ∈ message.payloads, v ≠ .null)
  | .batch items => by
      rw [Message.withoutNulls, Message.batch.injEq]
      exact listWithoutNulls_eq_self items
  | .request request => by
      obtain ⟨version, id, method, params⟩ := request
      rw [Message.withoutNulls, Message.payloads]
      simp [withoutNull_eq_self]
  | .notification notification => by
      obtain ⟨version, method, params⟩ := notification
      rw [Message.withoutNulls, Message.payloads]
      simp [withoutNull_eq_self]
  | .response response => by
      obtain ⟨version, id, result, error⟩ := response
      rw [Message.withoutNulls, Message.payloads]
      cases error with
      | none => simp [withoutNull_eq_self]
      | some error =>
          obtain ⟨code, message, data⟩ := error
          simp [withoutNull_eq_self, ErrorObject.withoutNull, or_imp, forall_and]

theorem listWithoutNulls_eq_self : (items : List Message) →
    (listWithoutNulls items = items ↔ ∀ v ∈ listPayloads items, v ≠ .null)
  | [] => by simp [listWithoutNulls, listPayloads]
  | message :: rest => by
      rw [listWithoutNulls, listPayloads, List.cons.injEq, Message.withoutNulls_eq_self message,
        listWithoutNulls_eq_self rest, List.forall_mem_append]

end

/-! The numbers of the envelope are whole. -/

theorem isWhole_toInt (value : Int64) : (Json.number (.integer value.toInt)).isWhole := by
  have hLeast : Json.leastInteger ≤ value.toInt := value.le_toInt
  have hGreatest : value.toInt ≤ Json.greatestInteger :=
    Int.le_trans (Int.le_of_lt value.toInt_lt) (by decide)
  rw [Json.isWhole, Json.Number.isWhole, decide_eq_true hLeast, decide_eq_true hGreatest]
  rfl

theorem RequestId.isWhole_toJson (id : RequestId) : id.toJson.isWhole := by
  cases id with
  | number value => exact isWhole_toInt value
  | text value => rfl

theorem isWhole_string (s : String) : (Json.string s).isWhole :=
  rfl

theorem membersAreWhole_iff {members : List (String × Json)} :
    Json.membersAreWhole members ↔ ∀ member ∈ members, member.2.isWhole := by
  induction members with
  | nil => simp [Json.membersAreWhole]
  | cons member rest ih => simp [Json.membersAreWhole, ih]

theorem isWhole_of_mem_optionalField {key : String} {value : Option Json}
    (h : ∀ v ∈ value, v.isWhole) : ∀ member ∈ optionalField key value, member.2.isWhole := by
  cases value with
  | none => exact nofun
  | some v => simp [optionalField, h v rfl]

theorem ErrorObject.isWhole_toJson {error : ErrorObject} (h : ∀ v ∈ error.data, v.isWhole) :
    error.toJson.isWhole := by
  rw [toJson, Json.isWhole, membersAreWhole_iff, List.forall_mem_append]
  exact ⟨by simp [isWhole_toInt, isWhole_string], isWhole_of_mem_optionalField h⟩

theorem Response.isWhole_toJson {response : Response} (hResult : ∀ v ∈ response.result, v.isWhole)
    (hError : ∀ v ∈ response.error.bind ErrorObject.data, v.isWhole) :
    response.toJson.isWhole := by
  rw [toJson, Json.isWhole, membersAreWhole_iff, List.forall_mem_append, List.forall_mem_append]
  refine ⟨⟨by simp [RequestId.isWhole_toJson, isWhole_string],
    isWhole_of_mem_optionalField hResult⟩, isWhole_of_mem_optionalField fun v hv => ?_⟩
  obtain ⟨error, hSome, rfl⟩ := Option.map_eq_some_iff.mp hv
  rw [hSome] at hError
  exact ErrorObject.isWhole_toJson hError

mutual

theorem Message.isWhole_toJson : (message : Message) → (∀ v ∈ message.payloads, v.isWhole) →
    message.toJson.isWhole
  | .batch items, h => isWhole_listToJson items h
  | .request request, h => by
      rw [Message.toJson, Request.toJson, Json.isWhole, membersAreWhole_iff, List.forall_mem_append]
      exact ⟨by simp [RequestId.isWhole_toJson, isWhole_string],
        isWhole_of_mem_optionalField fun v hv => h v (Option.mem_toList.mpr hv)⟩
  | .notification notification, h => by
      rw [Message.toJson, Notification.toJson, Json.isWhole, membersAreWhole_iff,
        List.forall_mem_append]
      exact ⟨by simp [isWhole_string],
        isWhole_of_mem_optionalField fun v hv => h v (Option.mem_toList.mpr hv)⟩
  | .response response, h => Response.isWhole_toJson
      (fun v hv => h v (List.mem_append_left _ (Option.mem_toList.mpr hv)))
      (fun v hv => h v (List.mem_append_right _ (Option.mem_toList.mpr hv)))

theorem isWhole_listToJson : (items : List Message) → (∀ v ∈ listPayloads items, v.isWhole) →
    Json.itemsAreWhole (listToJson items)
  | [], _ => rfl
  | message :: rest, h => by
      rw [listPayloads, List.forall_mem_append] at h
      rw [listToJson, Json.itemsAreWhole, Message.isWhole_toJson message h.1,
        isWhole_listToJson rest h.2]
      rfl

end

/-- A message whose values are plain and whole and whose text nests at most 127 levels
is written as one line. Read again it has lost the nulls among its values, so it comes
back as it was exactly if there are none. -/
theorem Message.decode_encode (message : Message) (hPlain : ∀ v ∈ message.payloads, v.sorted = v)
    (hWhole : ∀ v ∈ message.payloads, v.isWhole) (hDepth : message.toJson.depth ≤ 127) :
    ∃ text, Codec.jsonRpc.encode message = .ok text ∧ (∀ c ∈ text.toList, 0x20 ≤ c.toNat) ∧
      Codec.jsonRpc.decode text = .ok message.withoutNulls ∧
      (Codec.jsonRpc.decode text = .ok message ↔ ∀ v ∈ message.payloads, v ≠ .null) := by
  have hText := Message.isWhole_toJson message hWhole
  have hRead : Message.read message.compact = .ok message.withoutNulls :=
    Message.read_iff.mpr ⟨message.toJson, Json.read_iff.mp (Json.read_compact hDepth hText),
      Message.ofJson?_toJson message hPlain⟩
  have hDecode : Codec.jsonRpc.decode message.compact = .ok message.withoutNulls := by
    simp [Codec.jsonRpc, hRead, Except.mapError]
  refine ⟨message.compact, rfl, ?_, hDecode, ?_⟩
  · rw [Message.compact, Json.compact, String.toList_ofList]
    exact Json.visible_of_mem_text message.toJson hText
  · rw [hDecode, Except.ok.injEq]
    exact Message.withoutNulls_eq_self message

/-- A batch with a batch in it, a request, and a response whose result is null. -/
def Sample.nested : Message :=
  .batch [.batch [], .request ⟨"2.0", .number (-1), "a\"\n", some (.object [("k", .null)])⟩,
    .response ⟨"2.0", .text "7", some .null, none⟩]

theorem Message.decode_encode_nested :
    (∀ v ∈ Sample.nested.payloads, v.sorted = v) ∧ (∀ v ∈ Sample.nested.payloads, v.isWhole) ∧
      Sample.nested.toJson.depth ≤ 127 ∧
      ∃ text, Codec.jsonRpc.encode Sample.nested = .ok text ∧ (∀ c ∈ text.toList, 0x20 ≤ c.toNat) ∧
        Codec.jsonRpc.decode text = .ok (.batch [.batch [],
          .request ⟨"2.0", .number (-1), "a\"\n", some (.object [("k", .null)])⟩,
          .response ⟨"2.0", .text "7", none, none⟩]) ∧
        (Codec.jsonRpc.decode text = .ok Sample.nested ↔
          ∀ v ∈ Sample.nested.payloads, v ≠ .null) := by
  have hPayloads : Sample.nested.payloads = [.object [("k", .null)], .null] := rfl
  have hPlain : ∀ v ∈ Sample.nested.payloads, v.sorted = v := by
    rw [hPayloads]
    simp [Json.sorted, Json.sortedMembers, Json.byKey, Json.insertMember]
  have hWhole : ∀ v ∈ Sample.nested.payloads, v.isWhole := by
    rw [hPayloads]
    decide
  have hDepth : Sample.nested.toJson.depth ≤ 127 := by decide
  exact ⟨hPlain, hWhole, hDepth, Message.decode_encode Sample.nested hPlain hWhole hDepth⟩

end RpcTransport.Rpc
