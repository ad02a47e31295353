namespace RpcTransport

structure Latch where
  tripped : Bool := false
  deriving DecidableEq, Repr

namespace Latch

/-- Trips the latch. The answer is true for the call that did it, and false if
the latch had been tripped before. -/
def trip (latch : Latch) : Bool × Latch :=
  (!latch.tripped, ⟨true⟩)

end Latch

end RpcTransport
