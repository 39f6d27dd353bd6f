import OriginGate.Address.V6

/-!
# Socket addresses

An address with a port, as a listener is bound to: `127.0.0.1:8000` or `[::1]:8000`.
-/

namespace OriginGate.Address

open Text

/-- An address of either kind. -/
inductive Ip where
  | v4 (address : V4)
  | v6 (address : V6)
  deriving DecidableEq, Repr

namespace Ip

/-- The address that a text writes. -/
def ofText? (cs : List Char) : Option Ip :=
  match V4.ofText? cs with
  | some x => some (.v4 x)
  | none => (V6.ofText? cs).map .v6

/-- The canonical text of an address. -/
def display : Ip → List Char
  | .v4 x => x.render
  | .v6 x => x.display

end Ip

structure Socket where
  ip : Ip
  port : UInt16
  deriving DecidableEq, Repr

/-- The text of a socket address; an IPv6 address stands in brackets. -/
def Socket.render (s : Socket) : List Char :=
  let host := match s.ip with
    | .v4 x => x.render
    | .v6 x => ['['] ++ x.display ++ [']']
  host ++ ':' :: decimal s.port.toNat

end OriginGate.Address
