import OriginGate.Config.Validate
import OriginGate.Proofs.Url.Origin

/-!
# Accepted configurations

A configuration is accepted if it passes the checks of its own and a policy can be made of it.

* `checkOrigin_eq_ok_iff`: a text is accepted as an origin if it reads as an address whose origin
  is written just so.
* `Config.validate_eq_ok_iff`: what an accepted configuration fulfils.
* `isGraphic_of_checkOrigin`: accepted origins consist of visible ASCII characters.
-/

namespace OriginGate

open Text

/-! ## Accepted origins -/

theorem checkOrigin_eq_ok_iff {s : String} :
    checkOrigin s = .ok () ↔
      ∃ u o, Url.read s.toList = .ok u ∧ u.origin? = some o ∧ o.render = s.toList := by
  constructor
  · intro h
    unfold checkOrigin at h
    split at h
    · cases h
    · rename_i u hu
      split at h
      · cases h
      · rename_i o ho
        split at h
        · rename_i hrender
          exact ⟨u, o, hu, ho, hrender⟩
        · cases h
  · rintro ⟨u, o, hu, ho, hrender⟩
    simp [checkOrigin, hu, ho, hrender]

theorem checkOrigins_eq_ok_iff {ss : List String} :
    checkOrigins ss = .ok () ↔ ∀ s ∈ ss, checkOrigin s = .ok () := by
  induction ss with
  | nil => simp [checkOrigins]
  | cons s ss ih =>
    rw [checkOrigins, List.forall_mem_cons]
    split
    · rename_i fault hs
      simp [hs]
    · rename_i hs
      rw [ih, hs]
      simp

theorem isGraphic_of_checkOrigin {s : String} (h : checkOrigin s = .ok ()) :
    ∀ c ∈ s.toList, isGraphic c = true := by
  obtain ⟨u, o, hu, ho, hrender⟩ := checkOrigin_eq_ok_iff.1 h
  intro c hc
  rw [← hrender] at hc
  exact Origin.isGraphic_of_mem_render (Url.wellFormed_of_origin? hu ho) hc

/-! ## Accepted configurations -/

namespace Config

/-- What is checked before a policy is made of a configuration. -/
structure PassesChecks (c : Config) : Prop where
  port : c.port ≠ 0
  metricsPort : c.metricsPort ≠ some c.port
  someOrigin : c.allowedOrigins ≠ []
  origins : ∀ s ∈ c.allowedOrigins, checkOrigin s = .ok ()

theorem validate_of_passesChecks {c : Config} (h : c.PassesChecks) :
    c.validate = (Policy.ofConfig c).map fun _ => () := by
  have horigins : checkOrigins c.allowedOrigins = .ok () := checkOrigins_eq_ok_iff.2 h.origins
  have hsome : c.allowedOrigins.isEmpty = false := by simpa using h.someOrigin
  simp only [validate, h.port, h.metricsPort, hsome, horigins]
  cases Policy.ofConfig c <;> rfl

theorem passesChecks_of_validate {c : Config} (h : c.validate = .ok ()) : c.PassesChecks := by
  simp only [validate, bind, Except.bind, pure, Except.pure] at h
  split at h
  · cases h
  · rename_i hport
    split at h
    · cases h
    · rename_i hmetrics
      split at h
      · cases h
      · rename_i hsome
        split at h
        · cases h
        · rename_i horigins
          exact ⟨hport, hmetrics, by simpa using hsome, checkOrigins_eq_ok_iff.1 horigins⟩

theorem validate_eq_ok_iff {c : Config} :
    c.validate = .ok () ↔ c.PassesChecks ∧ ∃ p, Policy.ofConfig c = .ok p := by
  constructor
  · intro h
    have hpass := passesChecks_of_validate h
    refine ⟨hpass, ?_⟩
    rw [validate_of_passesChecks hpass] at h
    cases hp : Policy.ofConfig c with
    | error fault =>
      rw [hp] at h
      cases h
    | ok p => exact ⟨p, rfl⟩
  · rintro ⟨hpass, p, hp⟩
    rw [validate_of_passesChecks hpass, hp]
    rfl

end Config

end OriginGate
