import OriginGate.Program.Run
import OriginGate.Proofs.Config.Validate
import OriginGate.Proofs.Cors.Policy
import OriginGate.Proofs.Service.Advertising

/-!
# An accepted configuration brings up its service

What the check of a configuration accepts cannot fail later on for its policy: the policy is
made, it lists the configured origins as they are written, and the service is built with it. Of all
policies only those cannot be enforced that allow credentials and list nothing but `*` as a method
or as a header; no configuration makes one of them.

* `Policy.conflict?_iff_isStar`: the policies that cannot be enforced.
* `Config.serves_of_validate`: the policy and the service of an accepted configuration, and the
  only two faults that making the policy can add to the check.
-/

namespace OriginGate

open Http Text

theorem buildService_eq_ok {c : Config} {p : Policy} {assets : List Docs.File} {s : Service}
    (hp : Policy.ofConfig c = .ok p) (hs : Service.build {} p assets = .ok s)
    (written : List Output) : (buildService c assets).run.run written = (.ok s, written) := by
  unfold buildService
  rw [hp]
  simp only [hs]
  rfl

namespace Policy

/-- The text of an explicit list is a field value, so that nothing else can go wrong with a list. -/
theorem exists_joinTokens_of_list {p : Policy} {tokens : List (List Char)} (hne : tokens ≠ [])
    (h : p.methods.map (·.chars) = .list tokens ∨ p.headers.map (·.chars) = .list tokens) :
    ∃ v, joinTokens tokens = some v := by
  suffices htoken : ∀ t ∈ tokens, ∀ c ∈ t, isTokenChar c = true by
    obtain ⟨v, hv, -⟩ := exists_joinTokens hne htoken
    exact ⟨v, hv⟩
  rcases h with h | h
  · cases hm : p.methods with
    | any =>
      rw [hm] at h
      cases h
    | list methods =>
      rw [hm] at h
      rw [← Allowed.list.inj h, List.forall_mem_map]
      exact fun m _ _ => Method.isTokenChar_of_mem
  · cases hh : p.headers with
    | any =>
      rw [hh] at h
      cases h
    | list headers =>
      rw [hh] at h
      rw [← Allowed.list.inj h, List.forall_mem_map]
      exact fun n _ _ => FieldName.isTokenChar_of_mem

theorem conflict?_iff_isStar (p : Policy) (assets : List Docs.File) :
    ((∃ k, p.conflict? = some k) ↔
      p.credentials = true ∧ (p.methods.IsStar (·.chars) ∨ p.headers.IsStar (·.chars))) ∧
    (∀ fault, Service.build {} p assets = .error fault ↔
      ∃ k, p.conflict? = some k ∧ fault = .policy k) ∧
    (∀ tokens, p.methods.map (·.chars) = .list tokens ∨ p.headers.map (·.chars) = .list tokens →
      tokens ≠ [] → ∃ v, joinTokens tokens = some v) ∧
    ∀ c, ofConfig c = .ok p → p.conflict? = none ∧ ∃ s, Service.build {} p assets = .ok s := by
  refine ⟨?_, fun fault => Service.build_eq_error_iff rfl,
    fun tokens h hne => exists_joinTokens_of_list hne h, fun c hc => ?_⟩
  · constructor
    · rintro ⟨k, hk⟩
      obtain ⟨hcredentials, hstar⟩ := conflict?_eq_some_iff.1 hk
      cases k with
      | headers => exact ⟨hcredentials, .inr hstar⟩
      | methods => exact ⟨hcredentials, .inl hstar.1⟩
    · rintro ⟨hcredentials, hstar⟩
      by_cases hheaders : p.headers.IsStar (·.chars)
      · exact ⟨.headers, conflict?_eq_some_iff.2 ⟨hcredentials, hheaders⟩⟩
      · have hmethods := hstar.resolve_right hheaders
        exact ⟨.methods, conflict?_eq_some_iff.2 ⟨hcredentials, hmethods, hheaders⟩⟩
  · have hnone := conflict?_of_ofConfig hc
    obtain ⟨s, hs, -⟩ := Service.exists_build (m := {}) assets rfl hnone
    exact ⟨hnone, s, hs⟩

/-- A list of two `*` is no conflict, and a configured `*` is no entry of a list, whatever surrounds
it. -/
theorem conflict?_iff_isStar_padded :
    let star : Method := ⟨['*'], by decide⟩
    let padded : Config := { methods := ["GET", "\t* ", ""], headers := ["x-*", "\u3000*"] }
    Service.build {} ⟨[], true, .list [star], .any, 600⟩ [] = .error (.policy .methods) ∧
      (⟨[], true, .list [star, star], .any, 600⟩ : Policy).conflict? = none ∧
      ∃ p, ofConfig padded = .ok p ∧ p.conflict? = none := by
  intro star padded
  obtain ⟨-, hbuild, -⟩ := conflict?_iff_isStar ⟨[], true, .list [star], .any, 600⟩ []
  obtain ⟨hsome, -⟩ := conflict?_iff_isStar ⟨[], true, .list [star, star], .any, 600⟩ []
  obtain ⟨p, hp⟩ : ∃ p, ofConfig padded = .ok p := ⟨_, rfl⟩
  refine ⟨(hbuild _).2 ⟨.methods, by rfl, rfl⟩, ?_, p, hp, ?_⟩
  · rw [Option.eq_none_iff_forall_ne_some]
    intro k hk
    obtain ⟨-, ⟨m, hm, -⟩ | ⟨n, hn, -⟩⟩ := hsome.1 ⟨k, hk⟩
    · cases hm
    · cases hn
  · exact ((conflict?_iff_isStar p []).2.2.2 padded hp).1

end Policy

namespace Config

/-- The origins of a configuration that passes the checks can be sent. -/
theorem PassesChecks.isGraphic {c : Config} (h : c.PassesChecks) :
    ∀ s ∈ c.allowedOrigins, ∀ ch ∈ s.toList, isGraphic ch = true :=
  fun s hs => isGraphic_of_checkOrigin (h.origins s hs)

theorem serves_of_validate (c : Config) (assets : List Docs.File) :
    (c.validate = .ok () →
      ∃ p s, Policy.ofConfig c = .ok p ∧ p.origins ≠ [] ∧
        p.origins.map (·.bytes) = c.allowedOrigins.map Utf8.ofString ∧
        Service.build {} p assets = .ok s ∧
        ∀ written, (buildService c assets).run.run written = (.ok s, written)) ∧
    ∀ fault, c.PassesChecks → Policy.ofConfig c = .error fault →
      c.validate = .error fault ∧
        ((∃ text, fault = .invalidMethod text) ∨ ∃ text, fault = .invalidHeader text) := by
  constructor
  · intro hc
    obtain ⟨-, p, hp⟩ := validate_eq_ok_iff.1 hc
    obtain ⟨horigins, hsome, -⟩ := Policy.ofConfig_eq_ok_iff.1 hp
    obtain ⟨s, hs, -⟩ :=
      Service.exists_build (m := {}) assets rfl (Policy.conflict?_of_ofConfig hp)
    exact ⟨p, s, hp, hsome, Policy.map_bytes_of_readOrigins horigins, hs,
      buildService_eq_ok hp hs⟩
  · intro fault hpass hfault
    refine ⟨?_, Policy.ofConfig_eq_error hpass.someOrigin hpass.isGraphic hfault⟩
    rw [validate_of_passesChecks hpass, hfault]
    rfl

/-- The service starts for the entry of a loopback address, and a method with a blank in it is the
fault that is found once the origins are accepted. -/
theorem serves_of_validate_loopback :
    (∃ p s, Policy.ofConfig { origins := ["http://[::1]:8080"] } = .ok p ∧
      p.origins.map (·.bytes) = [Utf8.ofString "http://[::1]:8080"] ∧
      Service.build {} p [] = .ok s) ∧
    ({ origins := ["http://[::1]:8080"], methods := ["GET", "GE T"] } : Config).validate =
      .error (.invalidMethod "GE T") := by
  have haccepted : ({ origins := ["http://[::1]:8080"] } : Config).validate = .ok () := by rfl
  have hallowed : Config.allowedOrigins { origins := ["http://[::1]:8080"] } =
      ["http://[::1]:8080"] := by decide
  have hpass := passesChecks_of_validate haccepted
  obtain ⟨p, s, hp, -, horigins, hs, -⟩ := (serves_of_validate _ []).1 haccepted
  rw [hallowed] at horigins
  refine ⟨⟨p, s, hp, horigins, hs⟩, ?_⟩
  have hfault : Policy.ofConfig { origins := ["http://[::1]:8080"], methods := ["GET", "GE T"] } =
      .error (.invalidMethod "GE T") := by rfl
  obtain ⟨-, hfaults⟩ :=
    serves_of_validate { origins := ["http://[::1]:8080"], methods := ["GET", "GE T"] } []
  exact (hfaults _ ⟨hpass.port, nofun, hpass.someOrigin, hpass.origins⟩ hfault).1

end Config

end OriginGate
