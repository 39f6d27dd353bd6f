import OriginGate.Url.Reader

/-!
# Origins

The origin of a web page is the scheme, the host and the port of its address. Two pages may
read each other's data exactly if they have the same origin. `Origin.render` is the text that
browsers send: the port is left out where it is the usual one of the scheme.
-/

namespace OriginGate

open Text

inductive WebScheme where
  | http
  | https
  deriving DecidableEq, Repr

namespace WebScheme

/-- The scheme as it is written. -/
def name : WebScheme → List Char
  | .http => "http".toList
  | .https => "https".toList

/-- The usual port of the scheme. -/
def usualPort : WebScheme → UInt16
  | .http => 80
  | .https => 443

def ofName? (name : List Char) : Option WebScheme :=
  if name = "http".toList then some .http
  else if name = "https".toList then some .https
  else none

end WebScheme

/-- The origin of a web page. -/
structure Origin where
  scheme : WebScheme
  host : Url.Host
  port : UInt16
  deriving DecidableEq, Repr

/-- The text of an origin as browsers send it. -/
def Origin.render (o : Origin) : List Char :=
  o.scheme.name ++ "://".toList ++ o.host.render ++
    (if o.port = o.scheme.usualPort then [] else ':' :: decimal o.port.toNat)

/-- The origin of an address of a web page. -/
def Url.origin? (u : Url) : Option Origin :=
  match WebScheme.ofName? u.scheme, u.host with
  | some scheme, some host =>
    some { scheme, host, port := u.port.getD scheme.usualPort }
  | _, _ => none

end OriginGate
