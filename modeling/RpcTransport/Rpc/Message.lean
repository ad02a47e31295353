import RpcTransport.Json.Reader
import RpcTransport.Json.Printer

/-! JSON-RPC 2.0 messages. The version is carried along as text and never checked. -/
namespace RpcTransport.Rpc

/-- The identifier that ties a response to its request. -/
inductive RequestId where
  | number (value : Int64)
  | text (value : String)
  deriving DecidableEq, Repr

structure Request where
  version : String
  id : RequestId
  method : String
  params : Option Json

structure Notification where
  version : String
  method : String
  params : Option Json

structure ErrorObject where
  code : Int64
  message : String
  data : Option Json

structure Response where
  version : String
  id : RequestId
  result : Option Json
  error : Option ErrorObject

inductive Message where
  | batch (items : List Message)
  | request (request : Request)
  | notification (notification : Notification)
  | response (response : Response)

/-- The version that messages built here carry. -/
def version : String := "2.0"

namespace Message

def mkRequest (id : RequestId) (method : String) (params : Option Json) : Message :=
  .request ⟨version, id, method, params⟩

def mkNotification (method : String) (params : Option Json) : Message :=
  .notification ⟨version, method, params⟩

/-- A response with a result and without an error. -/
def mkResponse (id : RequestId) (result : Json) : Message :=
  .response ⟨version, id, some result, none⟩

def isBatch : Message → Bool
  | .batch _ => true
  | _ => false

/-- The method of a request or a notification. -/
def method? : Message → Option String
  | .request r => some r.method
  | .notification n => some n.method
  | _ => none

/-- The items of a batch, one level deep. Any other message is its own item. -/
def items : Message → List Message
  | .batch items => items
  | message => [message]

end Message

/-! The written form. Envelope fields keep their order and absent ones are left
out, so equal messages have equal texts. -/

def RequestId.toJson : RequestId → Json
  | .number value => .number (.integer value.toInt)
  | .text value => .string value

/-- A field that is left out if there is no value. -/
def optionalField (key : String) : Option Json → List (String × Json)
  | some value => [(key, value)]
  | none => []

def ErrorObject.toJson (error : ErrorObject) : Json :=
  .object ([("code", .number (.integer error.code.toInt)), ("message", .string error.message)] ++
    optionalField "data" error.data)

def Request.toJson (request : Request) : Json :=
  .object ([("jsonrpc", .string request.version), ("id", request.id.toJson),
    ("method", .string request.method)] ++ optionalField "params" request.params)

def Notification.toJson (notification : Notification) : Json :=
  .object ([("jsonrpc", .string notification.version), ("method", .string notification.method)] ++
    optionalField "params" notification.params)

def Response.toJson (response : Response) : Json :=
  .object ([("jsonrpc", .string response.version), ("id", response.id.toJson)] ++
    optionalField "result" response.result ++
    optionalField "error" (response.error.map ErrorObject.toJson))

mutual

def Message.toJson : Message → Json
  | .batch items => .array (listToJson items)
  | .request request => request.toJson
  | .notification notification => notification.toJson
  | .response response => response.toJson

def listToJson : List Message → List Json
  | [] => []
  | message :: rest => message.toJson :: listToJson rest

end

/-! Reading a message from a written value. A structure is read from an object
by the names of its fields or from an array by their positions. -/

/-- The values of the named fields. Other members of an object are ignored, but
none of the names may occur twice. An array may be shorter than the list of
names, which leaves the last fields absent, but not longer. -/
def fields? (names : List String) : Json → Option (List (Option Json))
  | .object members =>
    if names.any fun name => 1 < members.countP (·.1 == name) then none
    else some (names.map fun name => members.lookup name)
  | .array items =>
    if items.length ≤ names.length then
      some (items.map some ++ List.replicate (names.length - items.length) none)
    else none
  | _ => none

/-- A whole number of 64 bits with sign. -/
def int64? : Json → Option Int64
  | .number (.integer value) =>
    if -Nat.pow 2 63 ≤ value ∧ value < Nat.pow 2 63 then some (.ofInt value) else none
  | _ => none

def text? : Json → Option String
  | .string value => some value
  | _ => none

def RequestId.ofJson? (json : Json) : Option RequestId :=
  match int64? json with
  | some value => some (.number value)
  | none => (text? json).map .text

/-- A field that may be absent. The null value counts as absent. -/
def plain? : Option Json → Option Json
  | none => none
  | some .null => none
  | some json => some json.sorted

def Request.ofJson? (json : Json) : Option Request := do
  match ← fields? ["jsonrpc", "id", "method", "params"] json with
  | [some version, some id, some method, params] =>
    return ⟨← text? version, ← RequestId.ofJson? id, ← text? method, plain? params⟩
  | _ => none

def Notification.ofJson? (json : Json) : Option Notification := do
  match ← fields? ["jsonrpc", "method", "params"] json with
  | [some version, some method, params] =>
    return ⟨← text? version, ← text? method, plain? params⟩
  | _ => none

def ErrorObject.ofJson? (json : Json) : Option ErrorObject := do
  match ← fields? ["code", "message", "data"] json with
  | [some code, some message, data] =>
    return ⟨← int64? code, ← text? message, plain? data⟩
  | _ => none

/-- An error that may be absent, but must be well formed if present. -/
def optionalError? : Option Json → Option (Option ErrorObject)
  | none => some none
  | some .null => some none
  | some json => (ErrorObject.ofJson? json).map some

def Response.ofJson? (json : Json) : Option Response := do
  match ← fields? ["jsonrpc", "id", "result", "error"] json with
  | [some version, some id, result, error] =>
    return ⟨← text? version, ← RequestId.ofJson? id, plain? result, ← optionalError? error⟩
  | _ => none

/-- A message that is no batch. The first kind that fits is taken. -/
def Message.ofSingle? (json : Json) : Option Message :=
  ((Request.ofJson? json).map .request).or <|
    ((Notification.ofJson? json).map .notification).or <|
      (Response.ofJson? json).map .response

mutual

/-- An array is a batch if each item is a message, and otherwise a structure
given by position. -/
def Message.ofJson? : Json → Option Message
  | .array items =>
    match listOfJson? items with
    | some messages => some (.batch messages)
    | none => Message.ofSingle? (.array items)
  | json => Message.ofSingle? json

def listOfJson? : List Json → Option (List Message)
  | [] => some []
  | json :: rest =>
    match Message.ofJson? json, listOfJson? rest with
    | some message, some messages => some (message :: messages)
    | _, _ => none

end

/-- Why a text is no message. -/
inductive ReadError where
  | syntaxError (error : Json.SyntaxError)
  | noMessage
  deriving DecidableEq, Repr

/-- Reads a text that is one message. That a value is no message is noticed
before what follows the value is looked at. -/
def Message.read (s : String) : Except ReadError Message := do
  let located {α : Type} (outcome : Except Json.Fault α) : Except ReadError α :=
    outcome.mapError fun fault => .syntaxError (fault.within s.toList)
  let (json, rest) ← located (Json.Reader.start s.toList)
  match Message.ofJson? json with
  | none => throw .noMessage
  | some message =>
    located (Json.Reader.finish rest)
    return message

def Message.compact (message : Message) : String :=
  message.toJson.compact

/-! Equality of messages, with the equality of values for what they carry. -/

def sameOptional : Option Json → Option Json → Bool
  | none, none => true
  | some a, some b => a.same b
  | _, _ => false

def ErrorObject.same (a b : ErrorObject) : Bool :=
  a.code == b.code && a.message == b.message && sameOptional a.data b.data

def Request.same (a b : Request) : Bool :=
  a.version == b.version && a.id == b.id && a.method == b.method &&
    sameOptional a.params b.params

def Notification.same (a b : Notification) : Bool :=
  a.version == b.version && a.method == b.method && sameOptional a.params b.params

def Response.same (a b : Response) : Bool :=
  a.version == b.version && a.id == b.id && sameOptional a.result b.result &&
    match a.error, b.error with
    | none, none => true
    | some a, some b => a.same b
    | _, _ => false

mutual

def Message.same : Message → Message → Bool
  | .batch a, .batch b => sameList a b
  | .request a, .request b => a.same b
  | .notification a, .notification b => a.same b
  | .response a, .response b => a.same b
  | _, _ => false

def sameList : List Message → List Message → Bool
  | [], [] => true
  | a :: as, b :: bs => a.same b && sameList as bs
  | _, _ => false

end

end RpcTransport.Rpc
