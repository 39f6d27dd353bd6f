import OriginGate.Config.Listen
import OriginGate.Proofs.Address.Socket

/-!
# The address of the listener

A configuration listens at the address that its host writes, in whatever way it does. The
canonical text of the address writes it as well, and the socket address that is shown when the
service is up tells the address and the port.

* `Config.listenAddress_of_spells`: where a configuration listens.
* `Config.listenAddress_roundTrip`: printed addresses load back.
-/

namespace OriginGate.Config

open Address

variable (lookUp : Resolver)

theorem listenAddress_of_spells {c : Config} {ip : Ip} (h : Ip.Spells c.host.toList ip) :
    c.listenAddress lookUp = .ok ⟨ip, c.port⟩ :=
  listenAddress_of_ofText? (Ip.ofText?_of_spells h) lookUp

theorem listenAddress_display (c : Config) (ip : Ip) :
    { c with host := String.ofList ip.display }.listenAddress lookUp = .ok ⟨ip, c.port⟩ := by
  refine listenAddress_of_spells lookUp ?_
  rw [String.toList_ofList]
  exact ip.spells_display

/-- The canonical text of an address is a host at which the service listens there; texts of the
same address are the same to it; and the printed socket address tells the address and the port.
What names the system knows does not matter. -/
theorem listenAddress_roundTrip :
    (∀ (c : Config) (ip : Ip) (port : UInt16),
      { c with host := String.ofList ip.display, port }.listenAddress lookUp = .ok ⟨ip, port⟩) ∧
      (∀ (text : List Char) (ip : Ip), Ip.ofText? text = some ip ↔ Ip.Spells text ip) ∧
      (∀ (c : Config) (ip : Ip), Ip.Spells c.host.toList ip →
        c.listenAddress lookUp = .ok ⟨ip, c.port⟩ ∧
          { c with host := String.ofList ip.display }.listenAddress lookUp =
            c.listenAddress lookUp) ∧
      Function.Injective Socket.render := by
  refine ⟨fun c ip port => listenAddress_display lookUp { c with port } ip,
    fun _ _ => Ip.ofText?_eq_some_iff, ?_, Socket.render_injective⟩
  intro c ip h
  have hlisten := listenAddress_of_spells lookUp h
  exact ⟨hlisten, (listenAddress_display lookUp c ip).trans hlisten.symm⟩

/-- A mapped address may be written in capitals, with leading zeros and a gap; it is shown with the
IPv4 address that it maps. -/
theorem listenAddress_roundTrip_mapped :
    Ip.Spells "::0:FFFF:0A00:1".toList (.v6 ⟨[0, 0, 0, 0, 0, 0xFFFF, 0x0A00, 1], rfl⟩) ∧
      ∀ lookUp : Resolver,
        ({ host := "::0:FFFF:0A00:1" } : Config).listenAddress lookUp =
          .ok ⟨.v6 ⟨[0, 0, 0, 0, 0, 0xFFFF, 0x0A00, 1], rfl⟩, 8000⟩ ∧
        ({ host := "::ffff:10.0.0.1" } : Config).listenAddress lookUp =
          ({ host := "::0:FFFF:0A00:1" } : Config).listenAddress lookUp := by
  obtain ⟨-, hread, -⟩ := listenAddress_roundTrip Resolver.unaware
  have hspells : Ip.Spells "::0:FFFF:0A00:1".toList
      (.v6 ⟨[0, 0, 0, 0, 0, 0xFFFF, 0x0A00, 1], rfl⟩) := (hread _ _).1 (by rfl)
  refine ⟨hspells, fun lookUp => ?_⟩
  obtain ⟨-, -, hspelled, -⟩ := listenAddress_roundTrip lookUp
  exact hspelled { host := "::0:FFFF:0A00:1" } _ hspells

end OriginGate.Config
