import RpcTransport.Transport.Basic
import RpcTransport.Decoder.Reader

namespace RpcTransport.Transport

/-- Where the decoding of a body waits. `handled` messages were accepted. -/
inductive Intake (M H B : Type) where
  | reading (body : B) (reader : Decoder.Reader) (handled : Nat)
  /-- A message is with the handler, and `rest` comes after it. -/
  | handing (handler : H) (message : M) (rest : List M) (id : Option String) (body : B)
      (next : Option Decoder.Reader) (handled : Nat)

namespace Intake

variable {M H B : Type}

def start (decoder : Decoder) (body : B) : Intake M H B :=
  .reading body (.start decoder) 0

/-- Goes on behind the messages of an item. -/
def proceed (body : B) (next : Option Decoder.Reader) (handled : Nat) :
    Step (Intake M H B) (Except Error Nat) :=
  match next with
  | some reader => .wait (.reading body reader handled)
  | none => .done (.ok handled)

/-- Hands over messages and goes on behind the last one. -/
def offer (handler : Option H) (token : ResumptionToken) (messages : List M)
    (id : Option String) (body : B) (next : Option Decoder.Reader) (handled : Nat) :
    ResumptionToken × Step (Intake M H B) (Except Error Nat) :=
  match handler, messages with
  | some handler, message :: rest =>
    (token, .wait (.handing handler message rest id body next handled))
  | some _, [] => (token.record id, proceed body next handled)
  | none, dropped => (token.record id, proceed body next (handled + dropped.length))

/-- Goes on with an item of the body or with a verdict. The handler and the
stop only matter for the messages of the next item. -/
def resume (codec : Codec M) (stopped : Bool) (handler : Option H) (token : ResumptionToken) :
    Intake M H B → Reply B →
      Option (ResumptionToken × Step (Intake M H B) (Except Error Nat))
  | .reading body reader handled, .item item =>
    some <| match reader.accept codec stopped item with
      | .more next => (token, .wait (.reading body next handled))
      | .messages messages id next => offer handler token messages id body next handled
      | .finished result => (token, .done (result.map fun _ => handled))
  | .handing handler _ rest id body next handled, .verdict result =>
    some <| match result with
      | .ok () => offer (some handler) token rest id body next (handled + 1)
      | .error error => (token, .done (.error error))
  | _, _ => none

def wait : Intake M H B → Wait M H B
  | .reading body _ _ => .item body
  | .handing handler message _ _ _ _ _ => .verdict handler message

end Intake

end RpcTransport.Transport
