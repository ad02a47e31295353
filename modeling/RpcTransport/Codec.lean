import RpcTransport.Error
import RpcTransport.Text.Blank

namespace RpcTransport

structure Codec (M : Type) where
  encode : M → Except Error String
  decode : String → Except Error M
  /-- The items of a batch, in order. Any other message is its own item. -/
  itemsOf : M → List M

namespace Codec

def jsonRpc : Codec Rpc.Message where
  encode message := .ok message.compact
  decode text := (Rpc.Message.read text).mapError fun error => .unreadable (.text error)
  itemsOf := Rpc.Message.items

def value : Codec Json where
  encode json := .ok json.compact
  decode text :=
    (Json.parse text).mapError fun error => .unreadable (.text (.syntaxError error))
  itemsOf
    | .array items => items
    | json => [json]

variable {M : Type}

/-- The messages of a document. The items of an array are decoded from their
compact texts, an object from its own text. -/
def readDocument (codec : Codec M) (text : String) : Except Error (List M) := do
  let trimmed := Text.trim text
  match Json.parse trimmed with
  | .error error => throw (.malformed (.notJson error))
  | .ok (.array items) => items.mapM fun item => codec.decode item.compact
  | .ok (.object _) => return [← codec.decode trimmed]
  | .ok scalar => throw (.malformed (.scalar scalar.compact))

end Codec

end RpcTransport
