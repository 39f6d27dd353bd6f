import OriginGate.Text.Numeral
import OriginGate.Text.Split

/-!
# IPv4 addresses

An address of four octets, written as four decimal numbers with dots between them.

* `V4.ofText?_render`: the written address reads back.
* `V4.render_of_ofText?`: no other text is read as that address.
* `V4.mem_render`: it holds dots and digits only.
-/

namespace OriginGate.Address

open Text

structure V4 where
  a : UInt8
  b : UInt8
  c : UInt8
  d : UInt8
  deriving DecidableEq, Repr

/-! ## Octets -/

/-- The decimal text of an octet. -/
def octetText (o : UInt8) : List Char :=
  decimal o.toNat

/-- The octet with this decimal text; a leading zero is not accepted. -/
def octet? (cs : List Char) : Option UInt8 :=
  match natural? 255 cs with
  | .ok n => if octetText n.toUInt8 = cs then some n.toUInt8 else none
  | .error _ => none

theorem octetText_of_octet? {cs : List Char} {o : UInt8} (h : octet? cs = some o) :
    octetText o = cs := by
  unfold octet? at h
  split at h
  · split at h
    · rename_i hn
      rw [← Option.some.inj h, hn]
    · simp at h
  · simp at h

theorem octet?_octetText (o : UInt8) : octet? (octetText o) = some o := by
  have h : natural? 255 (octetText o) = .ok o.toNat :=
    natural?_decimal (Nat.le_of_lt_succ o.toNat_lt)
  simp [octet?, h]

theorem not_mem_octetText {c : Char} (hc : c.isDigit = false) (o : UInt8) : c ∉ octetText o := by
  intro hm
  simp [isDigit_of_mem_decimal hm] at hc

namespace V4

/-- The address in dotted decimal. -/
def render (x : V4) : List Char :=
  join ['.'] [octetText x.a, octetText x.b, octetText x.c, octetText x.d]

/-- The address that a text writes in dotted decimal. -/
def ofText? (cs : List Char) : Option V4 :=
  match split '.' cs with
  | [a, b, c, d] => do return ⟨← octet? a, ← octet? b, ← octet? c, ← octet? d⟩
  | _ => none

theorem split_render (x : V4) :
    split '.' x.render = [octetText x.a, octetText x.b, octetText x.c, octetText x.d] :=
  split_join (by simp) fun p hp => by
    simp only [List.mem_cons, List.not_mem_nil, or_false] at hp
    rcases hp with rfl | rfl | rfl | rfl <;> exact not_mem_octetText (by decide) _

theorem ofText?_render (x : V4) : ofText? x.render = some x := by
  simp [ofText?, split_render, octet?_octetText]

theorem render_of_ofText? {cs : List Char} {x : V4} (h : ofText? cs = some x) : x.render = cs := by
  unfold ofText? at h
  split at h
  · rename_i a b c d hs
    simp only [Option.bind_eq_bind, Option.bind_eq_some_iff, Option.pure_def] at h
    obtain ⟨oa, ha, ob, hb, oc, hc, od, hd, h⟩ := h
    rw [← Option.some.inj h]
    simp only [render, octetText_of_octet? ha, octetText_of_octet? hb, octetText_of_octet? hc,
      octetText_of_octet? hd]
    rw [← hs, join_split]
  · simp at h

theorem render_injective {x y : V4} (h : x.render = y.render) : x = y := by
  have hx := ofText?_render x
  rw [h, ofText?_render y] at hx
  exact (Option.some.inj hx).symm

theorem mem_render {x : V4} {c : Char} (h : c ∈ x.render) : c = '.' ∨ c.isDigit = true := by
  rcases mem_join h with h | ⟨t, ht, h⟩
  · exact .inl (List.mem_singleton.1 h)
  · simp only [List.mem_cons, List.not_mem_nil, or_false] at ht
    rcases ht with rfl | rfl | rfl | rfl <;> exact .inr (isDigit_of_mem_decimal h)

/-- An IPv4 address has nothing in it that delimits hosts and IPv6 addresses. -/
theorem not_delimiter_of_mem_render {x : V4} {c : Char} (h : c ∈ x.render) :
    c ≠ ':' ∧ c ≠ '[' ∧ c ≠ ']' := by
  rcases mem_render h with rfl | h
  · decide
  · refine ⟨?_, ?_, ?_⟩ <;> rintro rfl <;> exact absurd h (by decide)

/-- The address as one number. -/
def toNat (x : V4) : Nat :=
  ((x.a.toNat * 256 + x.b.toNat) * 256 + x.c.toNat) * 256 + x.d.toNat

def ofNat (n : Nat) : V4 :=
  ⟨(n / Nat.pow 256 3).toUInt8, (n / Nat.pow 256 2).toUInt8, (n / 256).toUInt8, n.toUInt8⟩

end V4

end OriginGate.Address
