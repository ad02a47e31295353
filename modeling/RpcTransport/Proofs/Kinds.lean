import Mathlib
import RpcTransport.Proofs.Envelope

/-! The kind of a message that is an object. A member counts if no other member has its key and its
value fits. -/
namespace RpcTransport.Rpc

inductive Kind where
  | batch
  | request
  | notification
  | response
  deriving DecidableEq, Repr

namespace Message

def kind : Message → Kind
  | .batch _ => .batch
  | .request _ => .request
  | .notification _ => .notification
  | .response _ => .response

/-- The id of a request or of a response. -/
def id? : Message → Option RequestId
  | .request { id, .. } => some id
  | .response { id, .. } => some id
  | _ => none

end Message

abbrev Members := List (String × Json)

namespace Members

def Has (members : Members) (key : String) : Prop :=
  ∃ value, (key, value) ∈ members

/-- No two members have the key. -/
def Once (members : Members) (key : String) : Prop :=
  members.countP (·.1 == key) ≤ 1

/-- The value of the first member with the key, if it fits. -/
def field? {α : Type} (members : Members) (key : String) (convert : Json → Option α) : Option α :=
  (members.lookup key).bind convert

/-- One member has the key, and its value fits. -/
def Fits {α : Type} (members : Members) (key : String) (convert : Json → Option α) : Prop :=
  members.Once key ∧ (members.field? key convert).isSome

/-- The id counts. -/
def Identifies (members : Members) : Prop :=
  members.Fits "id" RequestId.ofJson?

/-- The method counts, and the parameters are not repeated. -/
def Calls (members : Members) : Prop :=
  members.Fits "method" text? ∧ members.Once "params"

/-- The kind follows from which of id and method are present, whatever their values are. -/
def Tells (members : Members) (kind : Kind) : Prop :=
  (kind = .request ↔ members.Has "id" ∧ members.Has "method") ∧
    (kind = .notification ↔ members.Has "method" ∧ ¬members.Has "id") ∧
    (kind = .response ↔ members.Has "id" ∧ ¬members.Has "method")

variable {members : Members}

theorem Fits.has {α : Type} {key : String} {convert : Json → Option α}
    (h : members.Fits key convert) : members.Has key := by
  obtain ⟨found, hFound⟩ := Option.isSome_iff_exists.mp h.2
  obtain ⟨value, hValue, _⟩ := Option.bind_eq_some_iff.mp hFound
  obtain ⟨before, after, hMembers, _⟩ := List.lookup_eq_some_iff.mp hValue
  exact ⟨value, hMembers ▸ List.mem_append_right before List.mem_cons_self⟩

/-- The members with the given keys are looked up if none of them is repeated. -/
theorem bind_fields? {α : Type} {names : List String} {make : List (Option Json) → Option α}
    {result : α} : (fields? names (.object members)).bind make = some result ↔
      (∀ name ∈ names, members.Once name) ∧
        make (names.map fun name => members.lookup name) = some result := by
  have hRepeats : (names.any fun name => 1 < members.countP (·.1 == name)) = true ↔
      ¬∀ name ∈ names, members.Once name := by
    simp [Once]
  rw [fields?]
  split
  · rename_i hAny
    exact ⟨by rintro ⟨⟩, fun h => absurd h.1 (hRepeats.mp hAny)⟩
  · rename_i hAny
    have hOnce := not_not.mp (mt hRepeats.mpr hAny)
    exact ⟨fun h => ⟨hOnce, h⟩, And.right⟩

end Members

/-! The members that each kind asks for. -/

section Kinds

variable {members : Members}

theorem Request.ofJson?_object {request : Request} :
    Request.ofJson? (.object members) = some request ↔
      (∀ name ∈ ["jsonrpc", "id", "method", "params"], members.Once name) ∧
        members.field? "jsonrpc" text? = some request.version ∧
        members.field? "id" RequestId.ofJson? = some request.id ∧
        members.field? "method" text? = some request.method ∧
        plain? (members.lookup "params") = request.params := by
  obtain ⟨version, id, method, params⟩ := request
  rw [ofJson?, Option.bind_eq_bind, Members.bind_fields?]
  refine and_congr_right fun _ => ?_
  simp only [Members.field?, List.map_cons, List.map_nil]
  cases members.lookup "jsonrpc" <;> cases members.lookup "id" <;>
    cases members.lookup "method" <;> simp [Option.bind_eq_some_iff]

theorem Notification.ofJson?_object {notification : Notification} :
    Notification.ofJson? (.object members) = some notification ↔
      (∀ name ∈ ["jsonrpc", "method", "params"], members.Once name) ∧
        members.field? "jsonrpc" text? = some notification.version ∧
        members.field? "method" text? = some notification.method ∧
        plain? (members.lookup "params") = notification.params := by
  obtain ⟨version, method, params⟩ := notification
  rw [ofJson?, Option.bind_eq_bind, Members.bind_fields?]
  refine and_congr_right fun _ => ?_
  simp only [Members.field?, List.map_cons, List.map_nil]
  cases members.lookup "jsonrpc" <;> cases members.lookup "method" <;>
    simp [Option.bind_eq_some_iff]

theorem Response.ofJson?_object {response : Response} :
    Response.ofJson? (.object members) = some response ↔
      (∀ name ∈ ["jsonrpc", "id", "result", "error"], members.Once name) ∧
        members.field? "jsonrpc" text? = some response.version ∧
        members.field? "id" RequestId.ofJson? = some response.id ∧
        optionalError? (members.lookup "error") = some response.error ∧
        plain? (members.lookup "result") = response.result := by
  obtain ⟨version, id, result, error⟩ := response
  rw [ofJson?, Option.bind_eq_bind, Members.bind_fields?]
  refine and_congr_right fun _ => ?_
  simp only [Members.field?, List.map_cons, List.map_nil]
  cases members.lookup "jsonrpc" <;> cases members.lookup "id" <;>
    simp [Option.bind_eq_some_iff]

theorem Request.calls_of_ofJson? {request : Request}
    (h : Request.ofJson? (.object members) = some request) :
    members.Calls ∧ members.Identifies ∧
      members.field? "id" RequestId.ofJson? = some request.id := by
  obtain ⟨hOnce, _, hId, hMethod, _⟩ := Request.ofJson?_object.mp h
  simp only [List.forall_mem_cons] at hOnce
  obtain ⟨_, hOnceId, hOnceMethod, hOnceParams, _⟩ := hOnce
  exact ⟨⟨⟨hOnceMethod, by simp [hMethod]⟩, hOnceParams⟩, ⟨hOnceId, by simp [hId]⟩, hId⟩

theorem Notification.calls_of_ofJson? {notification : Notification}
    (h : Notification.ofJson? (.object members) = some notification) :
    members.Calls ∧ members.Fits "jsonrpc" text? := by
  obtain ⟨hOnce, hVersion, hMethod, _⟩ := Notification.ofJson?_object.mp h
  simp only [List.forall_mem_cons] at hOnce
  obtain ⟨hOnceVersion, hOnceMethod, hOnceParams, _⟩ := hOnce
  exact ⟨⟨⟨hOnceMethod, by simp [hMethod]⟩, hOnceParams⟩, ⟨hOnceVersion, by simp [hVersion]⟩⟩

theorem Response.identifies_of_ofJson? {response : Response}
    (h : Response.ofJson? (.object members) = some response) :
    members.Identifies ∧ members.Fits "jsonrpc" text? ∧
      members.field? "id" RequestId.ofJson? = some response.id := by
  obtain ⟨hOnce, hVersion, hId, _⟩ := Response.ofJson?_object.mp h
  simp only [List.forall_mem_cons] at hOnce
  obtain ⟨hOnceVersion, hOnceId, _⟩ := hOnce
  exact ⟨⟨hOnceId, by simp [hId]⟩, ⟨hOnceVersion, by simp [hVersion]⟩, hId⟩

/-- An object that a request could be read from is read as one. -/
theorem Request.exists_of_calls (hVersion : members.Fits "jsonrpc" text?)
    (hCalls : members.Calls) (hIdentifies : members.Identifies) :
    ∃ request, Request.ofJson? (.object members) = some request := by
  obtain ⟨hOnceVersion, hVersion⟩ := hVersion
  obtain ⟨⟨hOnceMethod, hMethod⟩, hOnceParams⟩ := hCalls
  obtain ⟨hOnceId, hId⟩ := hIdentifies
  obtain ⟨version, hVersion⟩ := Option.isSome_iff_exists.mp hVersion
  obtain ⟨method, hMethod⟩ := Option.isSome_iff_exists.mp hMethod
  obtain ⟨id, hId⟩ := Option.isSome_iff_exists.mp hId
  refine ⟨⟨version, id, method, plain? (members.lookup "params")⟩, Request.ofJson?_object.mpr ?_⟩
  exact ⟨by simp [hOnceVersion, hOnceId, hOnceMethod, hOnceParams], hVersion, hId, hMethod, rfl⟩

theorem Notification.exists_of_calls (hVersion : members.Fits "jsonrpc" text?)
    (hCalls : members.Calls) :
    ∃ notification, Notification.ofJson? (.object members) = some notification := by
  obtain ⟨hOnceVersion, hVersion⟩ := hVersion
  obtain ⟨⟨hOnceMethod, hMethod⟩, hOnceParams⟩ := hCalls
  obtain ⟨version, hVersion⟩ := Option.isSome_iff_exists.mp hVersion
  obtain ⟨method, hMethod⟩ := Option.isSome_iff_exists.mp hMethod
  refine ⟨⟨version, method, plain? (members.lookup "params")⟩,
    Notification.ofJson?_object.mpr ?_⟩
  exact ⟨by simp [hOnceVersion, hOnceMethod, hOnceParams], hVersion, hMethod, rfl⟩

/-- The three kinds exclude each other: the first one asks for an id and a method that
count, the second one for a method only, and the third one is left if no method counts. -/
theorem Message.kind_of_ofJson? {message : Message}
    (h : Message.ofJson? (.object members) = some message) :
    ((message.kind = .request ∧ members.Calls ∧ members.Identifies) ∨
      (message.kind = .notification ∧ members.Calls ∧ ¬members.Identifies) ∨
      (message.kind = .response ∧ ¬members.Calls ∧ members.Identifies)) ∧
    ∀ id, message.id? = some id → members.field? "id" RequestId.ofJson? = some id := by
  rw [Message.ofJson?_object, Message.ofSingle?] at h
  cases hRequest : Request.ofJson? (.object members) with
  | some request =>
      rw [hRequest] at h
      cases h
      obtain ⟨hCalls, hIdentifies, hId⟩ := Request.calls_of_ofJson? hRequest
      exact ⟨Or.inl ⟨rfl, hCalls, hIdentifies⟩, fun id hSome => hId.trans hSome⟩
  | none =>
      have hNoRequest (hVersion : members.Fits "jsonrpc" text?) (hCalls : members.Calls)
          (hIdentifies : members.Identifies) : False := by
        obtain ⟨request, hSome⟩ := Request.exists_of_calls hVersion hCalls hIdentifies
        rw [hRequest] at hSome
        cases hSome
      cases hNotification : Notification.ofJson? (.object members) with
      | some notification =>
          rw [hRequest, hNotification] at h
          cases h
          obtain ⟨hCalls, hVersion⟩ := Notification.calls_of_ofJson? hNotification
          exact ⟨Or.inr (Or.inl ⟨rfl, hCalls, hNoRequest hVersion hCalls⟩), by rintro id ⟨⟩⟩
      | none =>
          rw [hRequest, hNotification] at h
          obtain ⟨response, hResponse, rfl⟩ := Option.map_eq_some_iff.mp h
          obtain ⟨hIdentifies, hVersion, hId⟩ := Response.identifies_of_ofJson? hResponse
          have hNoCall : ¬members.Calls := by
            intro hCalls
            obtain ⟨notification, hSome⟩ := Notification.exists_of_calls hVersion hCalls
            rw [hNotification] at hSome
            cases hSome
          exact ⟨Or.inr (Or.inr ⟨rfl, hNoCall, hIdentifies⟩), fun id hSome => hId.trans hSome⟩

/-- A message that is an object is a request if its id and its method count, a notification if
only the method does, and a response if the method does not. The id that it carries is the
one of its member. So presence alone tells the kind, unless an id beside a method that counts
does not count itself, or a method is present that does not count. -/
theorem Message.kind_of_members {text : String} {members : Members} {message : Message}
    (hObject : Json.read text = .ok (.object members))
    (hDecode : Codec.jsonRpc.decode text = .ok message) :
    (message.kind = .request ↔ members.Calls ∧ members.Identifies) ∧
      (message.kind = .notification ↔ members.Calls ∧ ¬members.Identifies) ∧
      (message.kind = .response ↔ ¬members.Calls) ∧
      (∀ id, message.id? = some id → members.field? "id" RequestId.ofJson? = some id) ∧
      (members.Tells message.kind ↔
        ¬(members.Calls ∧ members.Has "id" ∧ ¬members.Identifies) ∧
          ¬(members.Has "method" ∧ ¬members.Calls)) := by
  obtain ⟨hKind, hId⟩ :=
    Message.kind_of_ofJson? (Codec.ofJson?_of_decode hDecode hObject)
  have hHasMethod : members.Calls → members.Has "method" := fun hCalls => hCalls.1.has
  have hHasId : members.Identifies → members.Has "id" := Members.Fits.has
  rcases hKind with ⟨hKind, hCalls, hIdentifies⟩ | ⟨hKind, hCalls, hNoId⟩ |
    ⟨hKind, hNoCall, hIdentifies⟩
  · have hMethod := hHasMethod hCalls
    have hPresent := hHasId hIdentifies
    refine ⟨?_, ?_, ?_, hId, ?_⟩ <;>
      simp [Members.Tells, hKind, hCalls, hIdentifies, hMethod, hPresent]
  · have hMethod := hHasMethod hCalls
    refine ⟨?_, ?_, ?_, hId, ?_⟩ <;>
      simp [Members.Tells, hKind, hCalls, hNoId, hMethod]
  · have hPresent := hHasId hIdentifies
    refine ⟨?_, ?_, ?_, hId, ?_⟩ <;>
      simp [Members.Tells, hKind, hNoCall, hIdentifies, hPresent]

/-- An id that is there twice does not count. -/
theorem Message.kind_of_repeated_id :
    (Message.notification ⟨"2.0", "ping", none⟩).kind = .notification ∧
      Members.Calls [("jsonrpc", .string "2.0"), ("id", .number (.integer 1)),
        ("id", .number (.integer 2)), ("method", .string "ping")] ∧
      ¬Members.Identifies [("jsonrpc", .string "2.0"), ("id", .number (.integer 1)),
        ("id", .number (.integer 2)), ("method", .string "ping")] := by
  have hObject : Json.read "\x7b\"jsonrpc\":\"2.0\",\"id\":1,\"id\":2,\"method\":\"ping\"\x7d" =
      .ok (.object [("jsonrpc", .string "2.0"), ("id", .number (.integer 1)),
        ("id", .number (.integer 2)), ("method", .string "ping")]) := by cbv
  have hDecode : Codec.jsonRpc.decode
      "\x7b\"jsonrpc\":\"2.0\",\"id\":1,\"id\":2,\"method\":\"ping\"\x7d" =
        .ok (.notification ⟨"2.0", "ping", none⟩) := by cbv
  exact ⟨rfl, (kind_of_members hObject hDecode).2.1.mp rfl⟩

/-- Beside a method, an id that is null is skipped, and the message is a notification. -/
theorem Message.null_id_tells_nothing :
    Json.read "\x7b\"jsonrpc\":\"2.0\",\"id\":null,\"method\":\"ping\"\x7d" =
        .ok (.object [("jsonrpc", .string "2.0"), ("id", .null), ("method", .string "ping")]) ∧
      Codec.jsonRpc.decode "\x7b\"jsonrpc\":\"2.0\",\"id\":null,\"method\":\"ping\"\x7d" =
        .ok (.notification ⟨"2.0", "ping", none⟩) ∧
      ¬Members.Tells [("jsonrpc", .string "2.0"), ("id", .null), ("method", .string "ping")]
        (Message.notification ⟨"2.0", "ping", none⟩).kind := by
  refine ⟨by cbv, by cbv, fun hTells => ?_⟩
  have hId := (hTells.2.1.mp rfl).2
  exact hId ⟨.null, by simp⟩

end Kinds

end RpcTransport.Rpc
