import RpcTransport.Decoder.Reader
import RpcTransport.Resumption

namespace RpcTransport.Decoder

variable {M : Type}

/-- The answer to a message, given the number of messages accepted before it. -/
abbrev Handler (M : Type) := Nat → M → Except Error Unit

structure Outcome (M : Type) where
  /-- The messages that the handler accepted. -/
  seen : List M
  token : ResumptionToken
  /-- The number of messages handed over, or the error that ended the decoding. -/
  result : Except Error Nat

/-- Hands over messages until one is refused. -/
def deliver (handler : Handler M) (seen : List M) : List M → List M × Except Error Unit
  | [] => (seen, .ok ())
  | message :: rest =>
    match handler seen.length message with
    | .ok () => deliver handler (seen ++ [message]) rest
    | .error error => (seen, .error error)

/-- What decoding needs besides the body. `stop` tells for each time that it is
asked whether the decoding is to stop. -/
structure Setting (M : Type) where
  codec : Codec M
  handler : Handler M
  stop : Nat → Bool := fun _ => false

/-- The decoding that is over. -/
def Outcome.ended (seen : List M) (token : ResumptionToken) (result : Except Error Unit) :
    Outcome M :=
  ⟨seen, token, result.map fun _ => seen.length⟩

/-- Decodes the rest of a body. `asked` counts how often it was asked to stop. -/
def run (setting : Setting M) (reader : Reader) (asked : Nat) (seen : List M)
    (token : ResumptionToken) : List BodyItem → Outcome M
  | [] =>
    match reader.accept setting.codec (setting.stop asked) none with
    | .more _ => .ended seen token (.ok ())
    | .messages messages id _ =>
      match deliver setting.handler seen messages with
      | (seen, .ok ()) => .ended seen (token.record id) (.ok ())
      | (seen, .error error) => .ended seen token (.error error)
    | .finished result => .ended seen token result
  | item :: rest =>
    let asked' := if reader.asks (some item) then asked + 1 else asked
    match reader.accept setting.codec (setting.stop asked) (some item) with
    | .more next => run setting next asked' seen token rest
    | .messages messages id next =>
      match deliver setting.handler seen messages, next with
      | (seen, .ok ()), some next => run setting next asked' seen (token.record id) rest
      | (seen, .ok ()), none => .ended seen (token.record id) (.ok ())
      | (seen, .error error), _ => .ended seen token (.error error)
    | .finished result => .ended seen token result

/-- Decodes a body with a given decoder. -/
def decode (setting : Setting M) (token : ResumptionToken) (decoder : Decoder)
    (body : List BodyItem) : Outcome M :=
  run setting (.start decoder) 0 [] token body

/-- Checks a response and decodes its body. -/
def dispatch (setting : Setting M) (token : ResumptionToken)
    (response : Http.Response (List BodyItem)) : Outcome M :=
  match select response with
  | .ok (some decoder) => decode setting token decoder response.body
  | .ok none => ⟨[], token, .ok 0⟩
  | .error error => ⟨[], token, .error error⟩

end RpcTransport.Decoder
