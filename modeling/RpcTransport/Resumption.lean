namespace RpcTransport

abbrev ResumptionToken := Option String

/-- Records an id. The empty id leaves the token as it is. -/
def ResumptionToken.advance (token : ResumptionToken) (id : String) : ResumptionToken :=
  if id = "" then token else some id

/-- Records an id if there is one. -/
def ResumptionToken.record (token : ResumptionToken) (id : Option String) : ResumptionToken :=
  match id with
  | some id => token.advance id
  | none => token

end RpcTransport
