import OriginGate.Proofs.Config.Validate

/-!
# The form of accepted origins

The check of an origin compares it with what is written for the address it reads as. The reader
is lenient: it passes over blanks, user names, paths and much else. But whatever it passes over is
not written again, so that only a text in the very form in which browsers send origins is accepted.

* `Url.Host.isHostText_render`: the texts of well-formed hosts.
* `Origin.isPortText_decimal`: the texts of ports that are written.
* `isSentForm_of_checkOrigin`: every accepted origin is a scheme, a host and perhaps a port, and
  nothing else.
-/

namespace OriginGate

open Address Text

/-! ## What browsers send -/

/-- The text of a host: in lower case, without characters that set the parts of an address apart,
and with colons and brackets in an IPv6 address only. -/
structure IsHostText (host : List Char) : Prop where
  ne_nil : host ≠ []
  lower : ∀ c ∈ host, c.isUpper = false
  plain : ∀ c ∈ host, c ∉ "/?#@\\%".toList
  brackets : (∃ inner x, host = '[' :: (inner ++ [']']) ∧ V6.ofText? inner = some x) ∨
    ∀ c ∈ host, c ∉ ":[]".toList

/-- The text of a port other than the usual one: a decimal number without leading zeros. -/
structure IsPortText (usual : UInt16) (port : List Char) : Prop where
  ne_nil : port ≠ []
  digits : ∀ c ∈ port, c.isDigit = true
  leading : port.head? = some '0' → port = ['0']
  limit : Nat.ofDigitChars 10 port 0 ≤ 65535
  unusual : Nat.ofDigitChars 10 port 0 ≠ usual.toNat

/-- The form in which browsers send an origin. -/
structure IsSentForm (s : List Char) : Prop where
  graphic : ∀ c ∈ s, isGraphic c = true
  parts : ∃ (w : WebScheme) (host : List Char), IsHostText host ∧
    (s = w.name ++ "://".toList ++ host ∨
      ∃ port, IsPortText w.usualPort port ∧ s = w.name ++ "://".toList ++ host ++ ':' :: port)
  /-- There is no user, no query, no fragment and nothing encoded. -/
  plain : ∀ c ∈ s, c ∉ "?#@\\%".toList
  /-- There is no path: the only slashes are those before the host. -/
  slashes : s.count '/' = 2

/-! ## Characters -/

theorem not_mem_of_all {p : Char → Bool} {marks : List Char} {c : Char}
    (hmarks : marks.all (! p ·) = true) (h : p c = true) : c ∉ marks := by
  intro hc
  have hno := List.all_eq_true.1 hmarks c hc
  simp [h] at hno

theorem not_isUpper_of_isDigit {c : Char} (h : c.isDigit = true) : c.isUpper = false := by
  rw [Bool.eq_false_iff]
  intro hupper
  have hlow : 'A' ≤ c ∧ c ≤ 'Z' := of_decide_eq_true hupper
  simp only [Char.isDigit, Bool.and_eq_true, decide_eq_true_eq] at h
  exact absurd (Nat.le_trans hlow.1 h.2) (by decide)

theorem not_isUpper_of_not_isForbidden {c : Char} (h : Domain.isForbidden c = false) :
    c.isUpper = false := by
  rw [Bool.eq_false_iff]
  intro hupper
  have hcapital : 'A' ≤ c ∧ c ≤ 'Z' := of_decide_eq_true hupper
  simp [Domain.isForbidden, hcapital.1, hcapital.2] at h

/-! ## Hosts -/

namespace Url.Host

theorem isHostText_domain {name : List Char} (hne : name ≠ [])
    (h : ∀ c ∈ name, Domain.isForbidden c = false) : IsHostText name where
  ne_nil := hne
  lower := fun c hc => not_isUpper_of_not_isForbidden (h c hc)
  plain := fun c hc => not_mem_of_all (p := (! Domain.isForbidden ·)) (by decide) (by simp [h c hc])
  brackets := .inr fun c hc =>
    not_mem_of_all (p := (! Domain.isForbidden ·)) (by decide) (by simp [h c hc])

theorem isHostText_v4 (x : V4) : IsHostText x.render where
  ne_nil := by
    intro hnil
    have hnumber := endsInNumber_render x
    rw [hnil] at hnumber
    cases hnumber
  lower := by
    intro c hc
    rcases V4.mem_render hc with rfl | h
    · decide
    · exact not_isUpper_of_isDigit h
  plain := by
    intro c hc
    rcases V4.mem_render hc with rfl | h
    · decide
    · exact not_mem_of_all (by decide) h
  brackets := by
    refine .inr fun c hc => ?_
    rcases V4.mem_render hc with rfl | h
    · decide
    · exact not_mem_of_all (by decide) h

theorem isHostText_v6 (x : V6) : IsHostText ('[' :: (x.render ++ [']'])) where
  ne_nil := List.cons_ne_nil _ _
  lower := by
    intro c hc
    simp only [List.mem_cons, List.mem_append, List.not_mem_nil, or_false] at hc
    rcases hc with rfl | h | rfl
    · decide
    · exact V6.not_isUpper_of_mem_render h
    · decide
  plain := by
    intro c hc
    simp only [List.mem_cons, List.mem_append, List.not_mem_nil, or_false] at hc
    rcases hc with rfl | h | rfl
    · decide
    · rcases V6.mem_render h with rfl | h
      · decide
      · exact not_mem_of_all (p := (hexDigit? · |>.isSome)) (by decide) h
    · decide
  brackets := .inl ⟨x.render, x, rfl, V6.ofText?_render x⟩

theorem isHostText_render {host : Host} (hw : host.WellFormed) : IsHostText host.render := by
  cases host with
  | domain name => exact isHostText_domain hw.1 hw.2.1
  | v4 x => exact isHostText_v4 x
  | v6 x => exact isHostText_v6 x

end Url.Host

/-! ## Ports -/

theorem isPortText_decimal {usual port : UInt16} (h : port ≠ usual) :
    IsPortText usual (decimal port.toNat) where
  ne_nil := decimal_ne_nil
  digits := fun _ => isDigit_of_mem_decimal
  leading := decimal_eq_zero_of_head?
  limit := by
    have hvalue : Nat.ofDigitChars 10 (decimal port.toNat) 0 = port.toNat :=
      Nat.ofDigitChars_ten_toDigits
    have hlt := port.toNat_lt
    omega
  unusual := by
    have hvalue : Nat.ofDigitChars 10 (decimal port.toNat) 0 = port.toNat :=
      Nat.ofDigitChars_ten_toDigits
    rw [hvalue]
    exact fun heq => h (UInt16.toNat_inj.1 heq)

/-! ## Origins -/

namespace Origin

theorem mem_portText {o : Origin} {c : Char} (h : c ∈ o.portText) : c = ':' ∨ c.isDigit = true := by
  unfold portText at h
  split at h
  · cases h
  · rcases List.mem_cons.1 h with rfl | h
    · exact .inl rfl
    · exact .inr (isDigit_of_mem_decimal h)

theorem render_parts {o : Origin} (hw : o.host.WellFormed) :
    ∃ (w : WebScheme) (host : List Char), IsHostText host ∧
      (o.render = w.name ++ "://".toList ++ host ∨
        ∃ port, IsPortText w.usualPort port ∧
          o.render = w.name ++ "://".toList ++ host ++ ':' :: port) := by
  refine ⟨o.scheme, o.host.render, Url.Host.isHostText_render hw, ?_⟩
  unfold render
  by_cases hport : o.port = o.scheme.usualPort
  · rw [if_pos hport]
    exact .inl (List.append_nil _)
  · rw [if_neg hport]
    exact .inr ⟨decimal o.port.toNat, isPortText_decimal hport, rfl⟩

theorem isSentForm_render {o : Origin} (hw : o.host.WellFormed) : IsSentForm o.render := by
  have hhost := Url.Host.isHostText_render hw
  have hport : ∀ marks : List Char, ':' ∉ marks → marks.all (! ·.isDigit) = true →
      ∀ c ∈ o.portText, c ∉ marks := by
    intro marks hcolon hdigits c hc
    rcases mem_portText hc with rfl | hd
    · exact hcolon
    · exact not_mem_of_all hdigits hd
  have hname : ∀ c ∈ o.scheme.name, c ∉ "/?#@\\%".toList := by
    intro c hc
    have hmarks : "/?#@\\%".toList.all (· ∉ o.scheme.name) = true := by
      cases o.scheme <;> decide
    exact fun h => of_decide_eq_true (List.all_eq_true.1 hmarks c h) hc
  refine ⟨fun c => isGraphic_of_mem_render hw, render_parts hw, ?_, ?_⟩
  · intro c hc
    rw [render_eq] at hc
    simp only [List.mem_append] at hc
    rcases hc with hc | hc | hc | hc
    · exact fun h => hname c hc (List.mem_cons_of_mem _ h)
    · have hmarks : "?#@\\%".toList.all (· ∉ "://".toList) = true := by decide
      exact fun h => of_decide_eq_true (List.all_eq_true.1 hmarks c h) hc
    · exact fun h => hhost.plain c hc (List.mem_cons_of_mem _ h)
    · exact hport _ (by decide) (by decide) c hc
  · -- no part but the separator has a slash
    have hnone : ∀ {cs : List Char}, (∀ c ∈ cs, c ∉ "/?#@\\%".toList) → cs.count '/' = 0 := by
      intro cs h
      exact List.count_eq_zero.2 fun hc => h _ hc (by decide)
    rw [render_eq, List.count_append, List.count_append, List.count_append, hnone hname,
      hnone hhost.plain, hnone (hport _ (by decide) (by decide))]
    decide

end Origin

theorem isSentForm_of_checkOrigin {s : String} (h : checkOrigin s = .ok ()) :
    IsSentForm s.toList := by
  obtain ⟨u, o, hu, ho, hrender⟩ := checkOrigin_eq_ok_iff.1 h
  rw [← hrender]
  exact Origin.isSentForm_render (Url.wellFormed_of_origin? hu ho)

/-- An address in brackets is accepted with the usual port of the other scheme. -/
theorem isSentForm_mapped :
    checkOrigin "https://[::ffff:7f00:1]:80" = .ok () ∧
      IsSentForm "https://[::ffff:7f00:1]:80".toList := by
  have hok : checkOrigin "https://[::ffff:7f00:1]:80" = .ok () := by rfl
  exact ⟨hok, isSentForm_of_checkOrigin hok⟩

end OriginGate
