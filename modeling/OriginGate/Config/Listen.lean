import OriginGate.Address.Socket
import OriginGate.Config.Basic
import OriginGate.Config.Fault

/-!
# The address of the listener

The host of a configuration is the text of an address or a name. Names are looked up by the system,
which may know several addresses of a host, or none; the first of them counts.

* `Config.listenAddress_of_ofText?`: an address is taken as it is written.
* `Config.listenAddress_of_name`: where the listener of a host with a name is.
-/

namespace OriginGate

open Address Text

/-- What the system knows of the addresses of a host: the reason, in words, why it knows none that
it was told of, or a list of them. -/
abbrev Resolver := String → Except String (List Ip)

/-- The system that knows no names. -/
def Resolver.unaware : Resolver := fun _ =>
  .error "failed to lookup address information: Name or service not known"

/-- Why a host gives no address. -/
inductive HostFault where
  /-- It holds a null character. -/
  | nullCharacter
  /-- It could not be looked up. -/
  | notFound (reason : String)
  /-- It was looked up, but has no address. -/
  | noAddress (host : String) (port : UInt16)
  deriving DecidableEq, Repr

def HostFault.message : HostFault → String
  | nullCharacter => "file name contained an unexpected NUL byte"
  | notFound reason => reason
  | noAddress host port => "could not resolve " ++ host ++ ":" ++ decimalString port.toNat

/-- The address of a host with a name. -/
def Resolver.address (lookUp : Resolver) (host : String) (port : UInt16) :
    Except HostFault Socket :=
  if '\x00' ∈ host.toList then .error .nullCharacter
  else
    match lookUp host with
    | .error reason => .error (.notFound reason)
    | .ok [] => .error (.noAddress host port)
    | .ok (ip :: _) => .ok { ip, port }

/-- The address that the listener of a configuration binds to. -/
def Config.listenAddress (c : Config) (lookUp : Resolver := Resolver.unaware) :
    Except HostFault Socket :=
  match Ip.ofText? c.host.toList with
  | some ip => .ok { ip, port := c.port }
  | none => lookUp.address c.host c.port

theorem Config.listenAddress_of_ofText? {c : Config} {ip : Ip}
    (h : Ip.ofText? c.host.toList = some ip) (lookUp : Resolver) :
    c.listenAddress lookUp = .ok { ip, port := c.port } := by
  simp [listenAddress, h]

theorem Config.listenAddress_of_name {c : Config} (h : Ip.ofText? c.host.toList = none)
    (lookUp : Resolver) {address : Socket} :
    c.listenAddress lookUp = .ok address ↔
      '\x00' ∉ c.host.toList ∧ address.port = c.port ∧
        ∃ others, lookUp c.host = .ok (address.ip :: others) := by
  rw [listenAddress, h]
  simp only [Resolver.address]
  split
  · rename_i hnull
    exact ⟨nofun, fun hfound => absurd hnull hfound.1⟩
  · rename_i hnull
    cases hlookUp : lookUp c.host with
    | error reason => exact ⟨nofun, fun ⟨_, _, _, hfound⟩ => nomatch hfound⟩
    | ok ips =>
      cases ips with
      | nil => exact ⟨nofun, fun ⟨_, _, _, hfound⟩ => nomatch hfound⟩
      | cons ip others =>
        constructor
        · rintro ⟨⟩
          exact ⟨hnull, rfl, others, rfl⟩
        · rintro ⟨-, hport, _, ⟨⟩⟩
          obtain ⟨ip, port⟩ := address
          rw [← hport]

end OriginGate
