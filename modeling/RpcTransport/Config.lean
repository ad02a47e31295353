import RpcTransport.Http
import RpcTransport.Retry
import RpcTransport.Text.Blank

namespace RpcTransport

structure Config where
  /-- Scheme, host and port. -/
  baseUri : String
  /-- The path of the endpoint. -/
  endpoint : String := "/mcp"
  /-- Headers of every request, besides those of the transport. -/
  headers : Http.Headers := []
  maxRetries : UInt32 := 3
  baseDelay : Duration := .ofSeconds 3
  maxDelay : Duration := .ofSeconds 60
  /-- Whether the first send connects if no connect came before. -/
  connectOnSend : Bool := true

namespace Config

def url (config : Config) : String :=
  config.baseUri ++ config.endpoint

def retryPolicy (config : Config) : RetryPolicy :=
  { maxRetries := config.maxRetries, baseDelay := config.baseDelay, maxDelay := config.maxDelay }

/-- The base address and the endpoint must not be blank. -/
def validate (config : Config) : Except Error Unit :=
  if Text.trim config.baseUri = "" then .error (.invalidConfig "base URI must not be empty")
  else if Text.trim config.endpoint = "" then .error (.invalidConfig "endpoint must not be empty")
  else .ok ()

end Config

end RpcTransport
