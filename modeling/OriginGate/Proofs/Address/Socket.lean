import OriginGate.Address.Socket
import OriginGate.Proofs.Address.V6

/-!
# Addresses of either kind

No text writes addresses of both kinds, as every text of an IPv6 address has a colon. A socket
address shows where its address ends, so that it is told from its text.

* `Ip.Spells`: the texts of an address.
* `Ip.ofText?_eq_some_iff`: the reader takes these texts and nothing else.
* `Ip.spells_display`: the canonical text of an address is one of them.
* `Socket.render_injective`: different socket addresses have different texts.
-/

namespace OriginGate.Address

open Text

/-! ## Texts of either kind -/

theorem V6.WritesPieces.length_le {ts : List (List Char)} {ps : List UInt16}
    (h : WritesPieces ts ps) : ps.length ≤ ts.length + 1 := by
  induction h with
  | nil => exact Nat.zero_le _
  | embedded x => exact Nat.le_refl _
  | cons _ _ ih => exact Nat.succ_le_succ ih

/-- Between eight pieces there is a colon, and a gap is written with two. -/
theorem V6.Spells.colon_mem {cs : List Char} {x : V6} (h : Spells cs x) : ':' ∈ cs := by
  cases h with
  | @full ts _ h =>
    have hlength := h.length_le
    rw [x.length_eq] at hlength
    match ts, hlength with
    | t :: u :: us, _ => simp [join]
  | gap => simp

namespace Ip

/-- The texts of an address: an IPv4 address has one, an IPv6 address has many. -/
inductive Spells : List Char → Ip → Prop
  | v4 (x : V4) : Spells x.render (.v4 x)
  | v6 {cs : List Char} {x : V6} (h : V6.Spells cs x) : Spells cs (.v6 x)

theorem ofText?_of_spells {cs : List Char} {ip : Ip} (h : Spells cs ip) :
    ofText? cs = some ip := by
  cases h with
  | v4 x => rw [ofText?, V4.ofText?_render]
  | @v6 _ x h =>
    have hother : V4.ofText? cs = none := by
      rw [Option.eq_none_iff_forall_ne_some]
      intro y hy
      have hcolon := h.colon_mem
      rw [← V4.render_of_ofText? hy] at hcolon
      exact (V4.not_delimiter_of_mem_render hcolon).1 rfl
    rw [ofText?, hother, V6.ofText?_of_spells h]
    rfl

theorem spells_of_ofText? {cs : List Char} {ip : Ip} (h : ofText? cs = some ip) :
    Spells cs ip := by
  unfold ofText? at h
  split at h
  · rename_i x hx
    cases h
    rw [← V4.render_of_ofText? hx]
    exact .v4 x
  · obtain ⟨x, hx, rfl⟩ := Option.map_eq_some_iff.1 h
    exact .v6 (V6.spells_of_ofText? hx)

theorem ofText?_eq_some_iff {cs : List Char} {ip : Ip} : ofText? cs = some ip ↔ Spells cs ip :=
  ⟨spells_of_ofText?, ofText?_of_spells⟩

theorem spells_display (ip : Ip) : Spells ip.display ip := by
  cases ip with
  | v4 x => exact .v4 x
  | v6 x => exact .v6 x.spells_display

end Ip

/-! ## Socket addresses -/

namespace Socket

theorem render_v4 (x : V4) (port : UInt16) :
    render ⟨.v4 x, port⟩ = x.render ++ ':' :: decimal port.toNat :=
  rfl

theorem render_v6 (x : V6) (port : UInt16) :
    render ⟨.v6 x, port⟩ = '[' :: (x.display ++ ']' :: ':' :: decimal port.toNat) := by
  simp [render]

theorem head?_render_v4 (x : V4) (port : UInt16) :
    (render ⟨.v4 x, port⟩).head? ≠ some '[' := by
  rw [render_v4]
  obtain ⟨c, cs, hx⟩ := List.exists_cons_of_ne_nil (V6.isColonText_render x).1
  have hc : c ≠ '[' := (V4.not_delimiter_of_mem_render (x := x) (hx ▸ List.mem_cons_self)).2.1
  simpa [hx] using hc

theorem port_eq_of_decimal {p q : UInt16} (h : decimal p.toNat = decimal q.toNat) : p = q :=
  UInt16.toNat_inj.1 (decimal_injective h)

theorem render_injective : Function.Injective render := by
  rintro ⟨ip, p⟩ ⟨ip', q⟩ h
  cases ip with
  | v4 x =>
    cases ip' with
    | v4 y =>
      -- the first colon is the one before the port
      rw [render_v4, render_v4] at h
      have hcolon (z : V4) : ':' ∉ z.render := (V6.isColonText_render z).2
      obtain ⟨hxy, hport⟩ := append_sep_inj (hcolon x) (hcolon y) h
      rw [V4.render_injective hxy, port_eq_of_decimal hport]
    | v6 y =>
      rw [render_v6] at h
      exact absurd (congrArg List.head? h) (head?_render_v4 x p)
  | v6 x =>
    cases ip' with
    | v4 y =>
      rw [render_v6] at h
      exact absurd (congrArg List.head? h).symm (head?_render_v4 y q)
    | v6 y =>
      rw [render_v6, render_v6] at h
      have hbracket (z : V6) : ']' ∉ z.display := fun hm => V6.not_bracket_of_mem_display hm rfl
      obtain ⟨hxy, hport⟩ := append_sep_inj (hbracket x) (hbracket y) (List.cons.inj h).2
      rw [V6.display_injective hxy, port_eq_of_decimal (List.cons.inj hport).2]

end Socket

end OriginGate.Address
