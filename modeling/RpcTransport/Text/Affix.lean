namespace RpcTransport.Text

/-- What follows `start`, if the text begins with it. -/
def after? (start : String) (s : String) : Option String :=
  (start.toList.isPrefixOf? s.toList).map .ofList

def startsAt (part : List Char) : List Char → Bool
  | [] => part.isEmpty
  | c :: cs => part.isPrefixOf (c :: cs) || startsAt part cs

/-- Whether `part` stands somewhere in the text. -/
def occursIn (part : String) (s : String) : Bool :=
  startsAt part.toList s.toList

/-- Equality up to the case of the letters A to Z. -/
def sameLetters (a b : String) : Bool :=
  a.toList.map Char.toLower == b.toList.map Char.toLower

end RpcTransport.Text
