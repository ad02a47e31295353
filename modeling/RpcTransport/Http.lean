import RpcTransport.Text.Affix
import RpcTransport.Text.Quoted

namespace RpcTransport.Http

abbrev Headers := List (String × String)

/-- The value of the first header with that name. -/
def Headers.value? (headers : Headers) (name : String) : Option String :=
  (headers.find? fun header => Text.sameLetters header.1 name).map (·.2)

inductive Method where
  /-- Opens the stream of the server. -/
  | get
  /-- Delivers a message of the client. -/
  | post
  deriving DecidableEq, Repr

def Method.name : Method → String
  | .get => "GET"
  | .post => "POST"

structure Request where
  method : Method
  url : String
  headers : Headers := []
  body : Option String := none
  deriving DecidableEq, Repr

namespace Request

/-- Appends a header. Earlier ones of the same name stay. -/
def withHeader (request : Request) (name value : String) : Request :=
  { request with headers := request.headers ++ [(name, value)] }

def withHeaders (request : Request) (headers : Headers) : Request :=
  { request with headers := request.headers ++ headers }

def withBody (request : Request) (body : String) : Request :=
  { request with body := some body }

def header? (request : Request) (name : String) : Option String :=
  request.headers.value? name

end Request

structure Response (β : Type) where
  status : Nat
  headers : Headers
  body : β

namespace Response

variable {β : Type}

def header? (response : Response β) (name : String) : Option String :=
  response.headers.value? name

def contentType? (response : Response β) : Option String :=
  response.header? "content-type"

def isSuccess (response : Response β) : Bool :=
  200 ≤ response.status && response.status < 300

/-- Status and headers for a log. The body is not shown. -/
def summary (response : Response β) : String :=
  let headers := response.headers.map fun (name, value) =>
    s!"({Text.quoted name}, {Text.quoted value})"
  let list := ", ".intercalate headers
  s!"HttpResponse \x7b status: {response.status}, headers: [{list}], .. \x7d"

end Response

end RpcTransport.Http
