import OriginGate.Proofs.Config.Validate
import OriginGate.Proofs.Cors.Policy

/-!
# The allow-list is the same-origin relation

A policy compares origins byte for byte. For an accepted configuration this grants exactly the
pages that have the origin of some configured address: an origin has one text, and different
origins have different texts.

* `Policy.allowsOrigin_iff_sameOrigin`: the comparison and the relation agree on every page.
-/

namespace OriginGate.Policy

open Http Text

/-- A configured origin is granted exactly if it is one of the entries. -/
theorem allowsOrigin_ofText?_iff {c : Config} {p : Policy} (hp : ofConfig c = .ok p)
    {cs : List Char} {v : FieldValue} (hv : FieldValue.ofText? cs = some v) :
    p.allowsOrigin v = true ↔ ∃ e ∈ c.allowedOrigins, e.toList = cs := by
  have hbytes := map_bytes_of_readOrigins (ofConfig_eq_ok_iff.1 hp).1
  rw [allowsOrigin_iff, hbytes, FieldValue.bytes_of_ofText? hv, List.mem_map]
  constructor
  · rintro ⟨e, he, hecs⟩
    exact ⟨e, he, Utf8.encode_injective hecs⟩
  · rintro ⟨e, he, rfl⟩
    exact ⟨e, he, rfl⟩

theorem allowsOrigin_iff_sameOrigin {c : Config} {p : Policy} {text : List Char} {u : Url}
    {w : WebScheme} (hc : c.validate = .ok ()) (hp : ofConfig c = .ok p)
    (hu : Url.read text = .ok u) (hs : u.scheme = w.name) :
    ∃ o v, u.origin? = some o ∧ FieldValue.ofText? o.render = some v ∧
      (p.allowsOrigin v = true ↔
        ∃ e ∈ c.allowedOrigins, ∃ u', Url.read e.toList = .ok u' ∧ u'.SameOrigin u) := by
  obtain ⟨o, ho, -, hw⟩ := Url.exists_origin?_of_read hu hs
  have hgraphic : ∀ ch ∈ o.render, isGraphic ch = true := fun _ => Origin.isGraphic_of_mem_render hw
  obtain ⟨v, hv⟩ := FieldValue.ofText?_of_isGraphic hgraphic
  refine ⟨o, v, ho, hv, ?_⟩
  rw [allowsOrigin_ofText?_iff hp hv]
  have hpass := Config.passesChecks_of_validate hc
  constructor
  · rintro ⟨e, he, hecs⟩
    obtain ⟨u', o', hu', ho', hrender⟩ := checkOrigin_eq_ok_iff.1 (hpass.origins e he)
    have hoo : o' = o :=
      Origin.render_injective (Url.wellFormed_of_origin? hu' ho') hw (hrender.trans hecs)
    exact ⟨e, he, u', hu', (Url.sameOrigin_iff ho).2 (hoo ▸ ho')⟩
  · rintro ⟨e, he, u', hu', hsame⟩
    obtain ⟨u'', o', hu'', ho', hrender⟩ := checkOrigin_eq_ok_iff.1 (hpass.origins e he)
    rw [hu'] at hu''
    cases hu''
    rw [(Url.sameOrigin_iff ho).1 hsame] at ho'
    cases ho'
    exact ⟨e, he, hrender.symm⟩

/-- A page of the loopback address is granted although its address is written in another way
than the entry for it. -/
theorem allowsOrigin_loopback :
    ∃ p u o v, ofConfig { origins := [" http://[::1]:8080 "] } = .ok p ∧
      Url.read "HTTP://user@[0:0:0:0::1]:08080/index?x#y".toList = .ok u ∧
      u.origin? = some o ∧ FieldValue.ofText? o.render = some v ∧ p.allowsOrigin v = true := by
  have hc : ({ origins := [" http://[::1]:8080 "] } : Config).validate = .ok () := by rfl
  obtain ⟨-, p, hp⟩ := Config.validate_eq_ok_iff.1 hc
  have hu : Url.read "HTTP://user@[0:0:0:0::1]:08080/index?x#y".toList =
      .ok ⟨"http".toList, some (.v6 ⟨[0, 0, 0, 0, 0, 0, 0, 1], rfl⟩), some 8080⟩ := by rfl
  obtain ⟨o, v, ho, hv, hgranted⟩ := allowsOrigin_iff_sameOrigin (w := .http) hc hp hu rfl
  have he : "http://[::1]:8080" ∈
      Config.allowedOrigins { origins := [" http://[::1]:8080 "] } := by decide
  exact ⟨p, _, o, v, hp, hu, ho, hv, hgranted.2 ⟨_, he, _, by rfl, rfl, rfl, rfl⟩⟩

end OriginGate.Policy
