import OriginGate.Proofs.Domain.Plain
import OriginGate.Proofs.Url.Origin

/-!
# The parts of an origin read back

Reading an address passes over much that is not written again, but it passes over nothing that is
written: visible characters all count, the text of a host is read as that host and the text of a
port as that port. Of a domain name this asks that it is its own ASCII form; IPv4 and IPv6 addresses
need nothing.

* `v4OfText?_render`: dotted decimal is one of the numeric forms of an address.
* `Host.readHost_render`: the text of a host is read as that host.
* `significant_of_isGraphic`: no visible character is passed over.
* `Origin.readPort_portText`: the text of a port is read as that port.
-/

namespace OriginGate

open Address Text

/-! ## IPv4 addresses in numeric forms -/

namespace Url

theorem numberInBase_decimal (n : Nat) : numberInBase 10 (decimal n) = n :=
  foldl_toDigits (by decide) (by decide) n

theorem all_isDigit_decimal (n : Nat) : (decimal n).all Char.isDigit = true :=
  List.all_eq_true.2 fun _ => isDigit_of_mem_decimal

/-- A decimal number is read as decimal: only zero starts with the digit that marks other bases. -/
theorem v4Number?_decimal (n : Nat) : v4Number? (decimal n) = some n := by
  have hdigits := all_isDigit_decimal n
  have hvalue := numberInBase_decimal n
  have hzero : ∀ d ds, decimal n ≠ '0' :: d :: ds := by
    intro d ds h
    have hone : decimal n = ['0'] := decimal_eq_zero_of_head? (by rw [h]; rfl)
    rw [h] at hone
    cases hone
  unfold v4Number?
  split
  · rename_i h
    exact absurd h decimal_ne_nil
  · rename_i h
    exact absurd h (hzero _ _)
  · rename_i h
    exact absurd h (hzero _ _)
  · rename_i h
    exact absurd h (hzero _ _)
  · rw [hdigits, hvalue]
    rfl

theorem ofNat_toNat (x : V4) : V4.ofNat x.toNat = x := by
  obtain ⟨a, b, c, d⟩ := x
  have ha := a.toNat_lt
  have hb := b.toNat_lt
  have hc := c.toNat_lt
  have hd := d.toNat_lt
  simp only [V4.ofNat, V4.toNat, V4.mk.injEq, Nat.pow_eq]
  refine ⟨?_, ?_, ?_, ?_⟩
  all_goals
    apply UInt8.toNat_inj.1
    simp only [UInt8.toNat_ofNat', Nat.toUInt8_eq]
    omega

/-- Of four numbers each fills one octet. -/
theorem v4OfNumbers?_four {a b c d : Nat} (ha : a ≤ 255) (hb : b ≤ 255) (hc : c ≤ 255)
    (hd : d ≤ 255) :
    v4OfNumbers? [a, b, c, d] = some (.ofNat (((a * 256 + b) * 256 + c) * 256 + d)) := by
  have hleading : [a, b, c].all (· ≤ 255) = true := by simp [ha, hb, hc]
  have hnumber : [a, b, c].foldl (fun n m => 256 * n + m) 0 * 256 + d =
      ((a * 256 + b) * 256 + c) * 256 + d := by
    simp only [List.foldl_cons, List.foldl_nil]
    omega
  have hlast : [a, b, c, d].getLast? = some d := rfl
  have hrange : Nat.pow 256 (4 - [a, b, c].length) = 256 := by
    rw [Nat.pow_eq]
    rfl
  simp only [v4OfNumbers?, hlast, List.dropLast_cons_cons, List.dropLast_singleton, hrange,
    hleading, hnumber]
  exact if_pos ⟨Nat.le_refl 3, trivial, Nat.lt_succ_of_le hd⟩

theorem v4OfText?_render (x : V4) : v4OfText? x.render = some x := by
  have hlast : octetText x.d ≠ [] := decimal_ne_nil
  have hparts : dotParts x.render =
      [octetText x.a, octetText x.b, octetText x.c, octetText x.d] := by
    simp [dotParts, V4.split_render, hlast]
  have hnumbers : [octetText x.a, octetText x.b, octetText x.c, octetText x.d].mapM v4Number? =
      some [x.a.toNat, x.b.toNat, x.c.toNat, x.d.toNat] := by
    simp only [octetText, List.mapM_cons, List.mapM_nil, v4Number?_decimal]
    rfl
  have hle (o : UInt8) : o.toNat ≤ 255 := Nat.le_of_lt_succ o.toNat_lt
  rw [v4OfText?, hparts, hnumbers]
  dsimp only
  rw [v4OfNumbers?_four (hle x.a) (hle x.b) (hle x.c) (hle x.d)]
  exact congrArg some (ofNat_toNat x)

/-! ## Hosts -/

theorem not_isForbidden_of_isDigit {c : Char} (h : c.isDigit = true) :
    Domain.isForbidden c = false := by
  have hall : ∀ n ∈ List.range 0x3A, 0x30 ≤ n → Domain.isForbidden (Char.ofNat n) = false := by
    decide
  simp only [Char.isDigit, Bool.and_eq_true, decide_eq_true_eq] at h
  have hc := hall c.toNat (List.mem_range.2 (Nat.lt_succ_of_le h.2)) h.1
  rwa [Char.ofNat_toNat] at hc

theorem not_isForbidden_of_mem_render_v4 {x : V4} {c : Char} (h : c ∈ x.render) :
    Domain.isForbidden c = false := by
  rcases V4.mem_render h with rfl | h
  · decide
  · exact not_isForbidden_of_isDigit h

/-- No part of an IPv4 address could be the ASCII form of a label. -/
theorem toAscii?_render_v4 (x : V4) : Domain.toAscii? x.render = some x.render := by
  refine Domain.toAscii?_eq_self (fun c hc => not_isForbidden_of_mem_render_v4 hc) ?_
  intro label hlabel hmark
  rw [V4.split_render] at hlabel
  have hx : 'x' ∈ label := List.mem_of_mem_take (by rw [hmark]; decide)
  simp only [List.mem_cons, List.not_mem_nil, or_false] at hlabel
  rcases hlabel with rfl | rfl | rfl | rfl <;> exact not_mem_octetText (by decide) _ hx

/-- A text of permitted characters is read by its ASCII form. -/
theorem readHost_eq_hostOfAscii {cs : List Char} (hhead : cs.head? ≠ some '[')
    (hchars : ∀ c ∈ cs, Domain.isForbidden c = false) (hascii : Domain.toAscii? cs = some cs) :
    readHost cs = hostOfAscii cs := by
  have hpercent : '%' ∉ cs := fun h => absurd (hchars '%' h) (by decide)
  rw [readHost, if_neg hhead, percentDecode?_of_not_mem hpercent, Option.bind_some, hascii]

namespace Host

theorem render_ne_nil {host : Host} (hw : host.WellFormed) : host.render ≠ [] := by
  cases host with
  | domain name => exact hw.1
  | v4 x =>
    intro hnil
    have hnumber := endsInNumber_render x
    rw [render_v4] at hnil
    rw [hnil] at hnumber
    cases hnumber
  | v6 x => exact List.cons_ne_nil _ _

/-- The text of a host is read as that host; a name must be its own ASCII form. -/
theorem readHost_render {host : Host} (hw : host.WellFormed)
    (hname : ∀ name, host = .domain name → Domain.toAscii? name = some name) :
    readHost host.render = .ok host := by
  have hempty : host.render.isEmpty = false := by simpa using render_ne_nil hw
  cases host with
  | domain name =>
    have hhead := head?_render_ne_bracket hw nofun
    rw [render_domain] at hhead hempty ⊢
    rw [readHost_eq_hostOfAscii hhead hw.2.1 (hname name rfl), hostOfAscii, hempty, hw.2.2]
    rfl
  | v4 x =>
    have hhead := head?_render_ne_bracket hw nofun
    rw [render_v4] at hhead hempty ⊢
    rw [readHost_eq_hostOfAscii hhead (fun c hc => not_isForbidden_of_mem_render_v4 hc)
      (toAscii?_render_v4 x), hostOfAscii, hempty, endsInNumber_render, v4OfText?_render]
    rfl
  | v6 x =>
    have hhead : ('[' :: (x.render ++ [']'])).head? = some '[' := rfl
    have hlast : ('[' :: (x.render ++ [']'])).getLast? = some ']' := by
      rw [← List.cons_append, List.getLast?_concat]
    have hinner : ('[' :: (x.render ++ [']'])).tail.dropLast = x.render := by
      rw [List.tail_cons, List.dropLast_concat]
    rw [render_v6, readHost, if_pos hhead, bracketed, if_pos hlast, hinner, V6.ofText?_render]

end Host

/-! ## Characters that are passed over -/

theorem not_isControlOrSpace_of_isGraphic {c : Char} (h : isGraphic c = true) :
    isControlOrSpace c = false := by
  simp only [isGraphic, Bool.and_eq_true, decide_eq_true_eq] at h
  exact decide_eq_false (by omega)

theorem not_isTabOrNewline_of_isGraphic {c : Char} (h : isGraphic c = true) :
    isTabOrNewline c = false := by
  rw [Bool.eq_false_iff]
  intro htab
  simp only [isTabOrNewline, Bool.or_eq_true, decide_eq_true_eq] at htab
  rcases htab with (rfl | rfl) | rfl <;> exact absurd h (by decide)

theorem dropWhile_isControlOrSpace {cs : List Char} (h : ∀ c ∈ cs, isGraphic c = true) :
    cs.dropWhile isControlOrSpace = cs := by
  cases cs with
  | nil => rfl
  | cons c cs =>
    refine List.dropWhile_cons_of_neg ?_
    simp [not_isControlOrSpace_of_isGraphic (h c List.mem_cons_self)]

/-- Nothing is passed over in a text of visible characters. -/
theorem significant_of_isGraphic {cs : List Char} (h : ∀ c ∈ cs, isGraphic c = true) :
    significant cs = cs := by
  have hreverse : ∀ c ∈ cs.reverse, isGraphic c = true := fun c hc => h c (List.mem_reverse.1 hc)
  simp only [significant]
  rw [dropWhile_isControlOrSpace h, dropWhile_isControlOrSpace hreverse, List.reverse_reverse,
    List.filter_eq_self]
  intro c hc
  rw [not_isTabOrNewline_of_isGraphic (h c hc)]
  rfl

end Url

/-! ## Origins -/

namespace Origin

/-- The address that the text of an origin is. -/
def address (o : Origin) : Url where
  scheme := o.scheme.name
  host := some o.host
  port := if o.port = o.scheme.usualPort then none else some o.port

theorem origin?_address (o : Origin) : o.address.origin? = some o := by
  refine Url.origin?_eq_some_iff.2 ⟨rfl, rfl, ?_⟩
  rw [Url.effectivePort?, address, Url.usualPort?_of_ofName? (WebScheme.ofName?_name o.scheme)]
  dsimp only
  split
  · rename_i hport
    rw [hport]
    rfl
  · rfl

theorem readPort_portText (o : Origin) :
    Url.readPort (some o.scheme.usualPort) o.portText = .ok o.address.port := by
  unfold portText address
  by_cases hport : o.port = o.scheme.usualPort
  · rw [if_pos hport, if_pos hport]
    rfl
  · have hempty : (decimal o.port.toNat).isEmpty = false := by
      simpa using decimal_ne_nil (n := o.port.toNat)
    have hlimit : ¬ 65535 < o.port.toNat := Nat.not_lt.2 (Nat.le_of_lt_succ o.port.toNat_lt)
    have hvalue : o.port.toNat.toUInt16 = o.port := UInt16.ofNat_toNat
    have husual : ¬ some o.scheme.usualPort = some o.port := fun h =>
      hport (Option.some.inj h).symm
    rw [if_neg hport, if_neg hport]
    simp only [Url.readPort, Url.numberInBase_decimal, Url.all_isDigit_decimal, hlimit, hempty,
      hvalue, husual, Bool.not_true, decide_false, Bool.or_self, Bool.false_eq_true, if_false]

end Origin

end OriginGate
