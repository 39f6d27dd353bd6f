import OriginGate.Proofs.Address.V6
import OriginGate.Proofs.Text.Graphic
import OriginGate.Url.Reader

/-!
# Hosts and their texts

A host that was read is never a name that could be taken for an address: names hold no
character that delimits the parts of an address and do not end in a number. Such hosts are told
apart by their texts, and the text of one ends where the port begins.

* `Host.wellFormed_of_readHost`: reading gives well-formed hosts only.
* `Host.render_injective`: different well-formed hosts, of whatever kind, have different texts.
* `Host.cutHost_render`: the text of a well-formed host is cut off whole before a port.
* `Host.isGraphic_of_mem_render`: it consists of visible ASCII characters.
-/

namespace OriginGate

open Address Text

namespace Url

/-- The dotted decimal text of an address ends in a number, so that no name is written so. -/
theorem endsInNumber_render (x : V4) : endsInNumber x.render = true := by
  have hne : octetText x.d ≠ [] := decimal_ne_nil
  have hparts : dotParts x.render = split '.' x.render := by
    simp [dotParts, V4.split_render, hne]
  have hdigits : (octetText x.d).all Char.isDigit = true :=
    List.all_eq_true.2 fun c hc => isDigit_of_mem_decimal hc
  simp [endsInNumber, hparts, V4.split_render, hne, hdigits]

namespace Host

@[simp] theorem render_domain (name : List Char) : (domain name).render = name := rfl

@[simp] theorem render_v4 (x : V4) : (v4 x).render = x.render := rfl

@[simp] theorem render_v6 (x : V6) : (v6 x).render = '[' :: (x.render ++ [']']) := rfl

/-! ## Well-formed hosts -/

/-- A name is not empty, may stand in an address as it is and is no address itself. -/
def WellFormed : Host → Prop
  | .domain name =>
    name ≠ [] ∧ (∀ c ∈ name, Domain.isForbidden c = false) ∧ endsInNumber name = false
  | .v4 _ => True
  | .v6 _ => True

theorem wellFormed_of_bracketed {cs : List Char} {host : Host} (h : bracketed cs = .ok host) :
    host.WellFormed := by
  unfold bracketed at h
  split at h
  · split at h
    · cases h
      trivial
    · cases h
  · cases h

theorem wellFormed_of_hostOfAscii {name : List Char} {host : Host}
    (hname : ∀ c ∈ name, Domain.isForbidden c = false) (h : hostOfAscii name = .ok host) :
    host.WellFormed := by
  unfold hostOfAscii at h
  split at h
  · cases h
  · rename_i hne
    split at h
    · split at h
      · cases h
        trivial
      · cases h
    · rename_i hnumber
      cases h
      exact ⟨by simpa using hne, hname, by simpa using hnumber⟩

theorem wellFormed_of_readHost {cs : List Char} {host : Host} (h : readHost cs = .ok host) :
    host.WellFormed := by
  unfold readHost at h
  split at h
  · exact wellFormed_of_bracketed h
  · split at h
    · rename_i name hname
      obtain ⟨decoded, -, hascii⟩ := Option.bind_eq_some_iff.1 hname
      exact wellFormed_of_hostOfAscii
        (fun c hc => Domain.not_isForbidden_of_toAscii? hascii hc) h
    · cases h

/-! ## The characters of a host -/

theorem isGraphic_of_not_isForbidden {c : Char} (h : Domain.isForbidden c = false) :
    isGraphic c = true := by
  simp only [Domain.isForbidden, Bool.or_eq_false_iff, decide_eq_false_iff_not, Nat.not_le] at h
  simp [isGraphic, h.1.1.1, h.1.1.2]

theorem isGraphic_of_mem_render {host : Host} (hw : host.WellFormed) {c : Char}
    (h : c ∈ host.render) : isGraphic c = true := by
  cases host with
  | domain name => exact isGraphic_of_not_isForbidden (hw.2.1 c h)
  | v4 x =>
    rcases V4.mem_render h with rfl | h
    · decide
    · exact isGraphic_of_isDigit h
  | v6 x =>
    simp only [render_v6, List.mem_cons, List.mem_append, List.not_mem_nil, or_false] at h
    rcases h with rfl | h | rfl
    · decide
    · rcases V6.mem_render h with rfl | h
      · decide
      · exact isGraphic_of_isHexDigit h
    · decide

/-- No name holds a colon or a bracket. -/
theorem not_delimiter_of_not_isForbidden {c : Char} (h : Domain.isForbidden c = false) :
    c ≠ ':' ∧ c ≠ '[' ∧ c ≠ ']' := by
  refine ⟨?_, ?_, ?_⟩ <;> rintro rfl <;> exact absurd h (by decide)

/-! ## Texts of different hosts -/

/-- Only the text of an IPv6 address starts with a bracket. -/
theorem head?_render_ne_bracket {host : Host} (hw : host.WellFormed) (hv : ∀ x, host ≠ .v6 x) :
    host.render.head? ≠ some '[' := by
  intro h
  have hmem : '[' ∈ host.render := List.mem_of_mem_head? h
  cases host with
  | domain name => exact (not_delimiter_of_not_isForbidden (hw.2.1 _ hmem)).2.1 rfl
  | v4 x => exact (V4.not_delimiter_of_mem_render hmem).2.1 rfl
  | v6 x => exact hv x rfl

theorem render_injective {host host' : Host} (hw : host.WellFormed) (hw' : host'.WellFormed)
    (h : host.render = host'.render) : host = host' := by
  cases host with
  | domain name =>
    cases host' with
    | domain name' => exact congrArg domain h
    | v4 x =>
      have hname : name = x.render := h
      have := hw.2.2
      rw [hname, endsInNumber_render] at this
      cases this
    | v6 x => exact absurd (congrArg List.head? h) (head?_render_ne_bracket hw nofun)
  | v4 x =>
    cases host' with
    | domain name =>
      have hname : x.render = name := h
      have := hw'.2.2
      rw [← hname, endsInNumber_render] at this
      cases this
    | v4 y => exact congrArg v4 (V4.render_injective h)
    | v6 y => exact absurd (congrArg List.head? h) (head?_render_ne_bracket hw nofun)
  | v6 x =>
    cases host' with
    | domain name => exact absurd (congrArg List.head? h.symm) (head?_render_ne_bracket hw' nofun)
    | v4 y => exact absurd (congrArg List.head? h.symm) (head?_render_ne_bracket hw' nofun)
    | v6 y =>
      have hxy : x.render ++ [']'] = y.render ++ [']'] := (List.cons.inj h).2
      exact congrArg v6 (V6.render_injective (List.append_cancel_right hxy))

/-! ## Where the text of a host ends -/

theorem cutHost_append_plain {cs : List Char} (h : ∀ c ∈ cs, c ≠ ':' ∧ c ≠ '[' ∧ c ≠ ']')
    (tail : List Char) :
    cutHost false (cs ++ tail) = (cs ++ (cutHost false tail).1, (cutHost false tail).2) := by
  induction cs with
  | nil => rfl
  | cons c cs ih =>
    obtain ⟨hcolon, hopen, hclose⟩ := h c (by simp)
    simp [cutHost, hcolon, hopen, hclose, ih fun d hd => h d (by simp [hd])]

theorem cutHost_append_bracketed {cs : List Char} (h : ∀ c ∈ cs, c ≠ ']') (tail : List Char) :
    cutHost true (cs ++ ']' :: tail) =
      (cs ++ ']' :: (cutHost false tail).1, (cutHost false tail).2) := by
  induction cs with
  | nil => simp [cutHost]
  | cons c cs ih => simp [cutHost, h c (by simp), ih fun d hd => h d (by simp [hd])]

theorem cutHost_render {host : Host} (hw : host.WellFormed) {tail : List Char}
    (ht : cutHost false tail = ([], tail)) :
    cutHost false (host.render ++ tail) = (host.render, tail) := by
  cases host with
  | domain name =>
    have h := cutHost_append_plain (fun c hc => not_delimiter_of_not_isForbidden (hw.2.1 c hc)) tail
    simpa [ht] using h
  | v4 x =>
    have h := cutHost_append_plain (fun c hc => V4.not_delimiter_of_mem_render (x := x) hc) tail
    simpa [ht] using h
  | v6 x =>
    have h := cutHost_append_bracketed (fun c hc => V6.not_bracket_of_mem_render (x := x) hc) tail
    simp [cutHost, h, ht]

end Host

end Url

end OriginGate
