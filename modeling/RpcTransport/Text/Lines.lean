/-! Cutting a sequence at its line feeds. The same rule serves characters and bytes. -/
namespace RpcTransport.Text

variable {α : Type} [DecidableEq α]

/-- The pieces that a line feed closes, and the rest behind the last one. -/
def pieces (feed : α) : List α → List (List α) × List α
  | [] => ([], [])
  | x :: xs =>
    let (closed, rest) := pieces feed xs
    if x = feed then ([] :: closed, rest)
    else match closed with
      | [] => ([], x :: rest)
      | piece :: more => ((x :: piece) :: more, rest)

/-- A closed piece without a carriage return at its end. -/
def withoutReturn (ret : α) (piece : List α) : List α :=
  if piece.getLast? = some ret then piece.dropLast else piece

/-- All lines of a complete sequence. -/
def linesOf (feed ret : α) (xs : List α) : List (List α) :=
  let (closed, rest) := pieces feed xs
  closed.map (withoutReturn ret) ++ if rest.isEmpty then [] else [rest]

def lines (s : String) : List String :=
  (linesOf '\n' '\r' s.toList).map .ofList

end RpcTransport.Text
