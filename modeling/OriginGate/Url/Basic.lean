import OriginGate.Address.V6

/-!
# Addresses of web resources

The parts of an address (URL) that decide its origin, and the reasons why a text is no address.
-/

namespace OriginGate.Url

open Address Text

/-- The machine that an address names. -/
inductive Host where
  /-- A name, in the form in which it is looked up. -/
  | domain (name : List Char)
  | v4 (address : V4)
  | v6 (address : V6)
  deriving DecidableEq, Repr

/-- The text of a host; an IPv6 address stands in brackets. -/
def Host.render : Host → List Char
  | .domain name => name
  | .v4 x => x.render
  | .v6 x => '[' :: x.render ++ [']']

/-- Why a text is no address. -/
inductive Fault where
  | noScheme
  /-- The scheme asks for a host and there is none. -/
  | emptyHost
  /-- The port is no number up to 65535. -/
  | invalidPort
  /-- The host ends in a number and is no IPv4 address. -/
  | invalidV4
  /-- The host stands in brackets and is no IPv6 address. -/
  | invalidV6
  /-- The host has no ASCII form. -/
  | invalidDomain
  /-- The host of an unknown scheme holds a character that it may not hold. -/
  | invalidHostCharacter
  deriving DecidableEq, Repr

def Fault.message : Fault → String
  | .noScheme => "relative URL without a base"
  | .emptyHost => "empty host"
  | .invalidPort => "invalid port number"
  | .invalidV4 => "invalid IPv4 address"
  | .invalidV6 => "invalid IPv6 address"
  | .invalidDomain => "invalid international domain name"
  | .invalidHostCharacter => "invalid domain character"

end OriginGate.Url

namespace OriginGate

/-- The parts of an address that decide its origin. -/
structure Url where
  scheme : List Char
  /-- The host, where the address names one that matters to its scheme. -/
  host : Option Url.Host
  /-- The port, where one is given that is not the usual one of the scheme. -/
  port : Option UInt16
  deriving DecidableEq, Repr

end OriginGate
