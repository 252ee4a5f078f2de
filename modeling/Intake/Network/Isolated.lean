import Intake.Network.Address

/-!
# A host without a network

None of its interfaces is up.  There it cannot be told which addresses of four
bytes are its own, so each of them can be listened on; of the addresses of eight
groups only the one that means all and those that stand for four bytes can.
Nothing can be reached.
-/

namespace Intake

/-- Why the network refuses. -/
inductive NetworkError where
  | unreachable
  | notAvailable
  | invalid
  deriving Repr, DecidableEq, Inhabited

def NetworkError.text : NetworkError → String
  | unreachable => "Network is unreachable (os error 101)"
  | notAvailable => "Cannot assign requested address (os error 99)"
  | invalid => "Invalid argument (os error 22)"

namespace SocketAddress

def listen : SocketAddress → Except NetworkError Unit
  | v4 _ _ => .ok ()
  | v6 groups scope _ =>
      let first := groups.headD 0
      if groups.all (· = 0) then .ok ()
      else if groups.take 6 = [0, 0, 0, 0, 0, 0xFFFF] then .ok ()
      else if first ≥ 0xFF00 then .error .invalid
      else if 0xFE80 ≤ first && first < 0xFEC0 && scope = 0 then .error .invalid
      else .error .notAvailable

def connect (_ : SocketAddress) : Except NetworkError Unit := .error .unreachable

end SocketAddress

end Intake
