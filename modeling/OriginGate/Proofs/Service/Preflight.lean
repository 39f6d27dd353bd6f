import OriginGate.Proofs.Service.CrossOrigin

/-!
# Pre-flights are answered from the policy alone

The gate answers a pre-flight before any handler can run, on every path. The answer depends on
the request only by its first origin and by the first list of headers that it asks for.

* `isPreflight_iff`: what makes a request a pre-flight.
* `Service.respond_preflight`: the answer to a pre-flight, and what two of them share.
-/

namespace OriginGate

open Http Metrics Text

theorem isPreflight_iff {r : Request} :
    isPreflight r = true ↔
      r.method = .options ∧ r.fields.has .origin = true ∧ r.fields.has .requestMethod = true := by
  simp only [isPreflight, isCrossOrigin, Bool.and_eq_true, Bool.or_eq_true, decide_eq_true_eq]
  constructor
  · rintro ⟨hmethod, horigin, hrequested⟩
    exact ⟨hmethod, horigin, hrequested.resolve_left (not_not.2 hmethod)⟩
  · rintro ⟨hmethod, horigin, hrequested⟩
    exact ⟨hmethod, horigin, .inr hrequested⟩

/-- The two fields of a request that the answer to a pre-flight depends on. -/
theorem Policy.preflightResponse_congr (p : Policy) {r₁ r₂ : Request}
    (horigin : r₁.fields.get? .origin = r₂.fields.get? .origin)
    (hheaders : r₁.fields.get? .requestHeaders = r₂.fields.get? .requestHeaders) :
    p.preflightResponse r₁ = p.preflightResponse r₂ := by
  simp only [preflightResponse, grantFields, preflightFields, advertisedHeaders, horigin, hheaders]

namespace Service

/-! ## What two answers share -/

/-- Whether a field tells of the policy or of what the answer depends on. -/
def isShared (f : FieldName × FieldValue) : Bool :=
  f.1 = .vary || isPolicyField f.1

theorem filter_isShared_complete (s : Service) (r : Request) (response : Response) :
    (s.complete r response).fields.filter isShared = response.fields.filter isShared :=
  s.filter_complete r response (fun n => n = .vary || isPolicyField n) (by decide) (by decide)

theorem respond_preflight {m : Metadata} {p : Policy} (assets : List Docs.File)
    (hm : m.docsPath = ({} : Metadata).docsPath) (hp : p.conflict? = none) :
    ∃ s, build m p assets = .ok s ∧
      (∀ r : Request, r.method = .options → r.fields.has .origin = true →
        r.fields.has .requestMethod = true →
        ∃ response : Response, response.status = 200 ∧ response.body = [] ∧
          (∀ rec : Recorder, (s.respond r).run rec = (response, rec)) ∧
          ∀ (μ : Type → Type) [Monad μ] [LawfulMonad μ]
            (handle : Endpoint → List (List Char) → Request → μ Response)
            (unknown : Request → μ Response), s.respondWith handle unknown r = pure response) ∧
      ∀ (r₁ r₂ : Request) (rec₁ rec₂ : Recorder),
        isPreflight r₁ = true → isPreflight r₂ = true →
        r₁.fields.get? .origin = r₂.fields.get? .origin →
        r₁.fields.get? .requestHeaders = r₂.fields.get? .requestHeaders →
        ((s.respond r₁).run rec₁).1.status = ((s.respond r₂).run rec₂).1.status ∧
          ((s.respond r₁).run rec₁).1.body = ((s.respond r₂).run rec₂).1.body ∧
          ((s.respond r₁).run rec₁).1.fields.filter isShared =
            ((s.respond r₂).run rec₂).1.fields.filter isShared := by
  obtain ⟨s, hs, -, rfl⟩ := exists_build assets hm hp
  have hrun : ∀ (r : Request) (rec : Recorder), isPreflight r = true →
      (s.respond r).run rec = (s.complete r (s.policy.preflightResponse r), rec) := by
    intro r rec h
    rw [run_respond, Policy.gated, h]
    rfl
  refine ⟨s, hs, ?_, ?_⟩
  · intro r hmethod horigin hrequested
    have h : isPreflight r = true := isPreflight_iff.2 ⟨hmethod, horigin, hrequested⟩
    exact ⟨s.complete r (s.policy.preflightResponse r), status_complete s r _,
      body_complete s r rfl, fun rec => hrun r rec h,
      fun μ _ _ handle unknown => s.respondWith_of_isPreflight handle unknown h⟩
  · intro r₁ r₂ rec₁ rec₂ h₁ h₂ horigin hheaders
    have hresponse := s.policy.preflightResponse_congr horigin hheaders
    rw [hrun r₁ rec₁ h₁, hrun r₂ rec₂ h₂]
    dsimp only
    rw [status_complete, status_complete, body_complete s r₁ rfl, body_complete s r₂ rfl,
      filter_isShared_complete, filter_isShared_complete, hresponse]
    exact ⟨rfl, rfl, rfl⟩

/-- A path that is found and one that is not give the same grants, also for different methods. -/
theorem respond_preflight_unknown :
    ∃ s, build { name := "Other" } ⟨[.ofString "http://a"], false, .list [.get], .any, 5⟩ [] =
        .ok s ∧
      ∀ rec, let known : Request := ⟨.options, ⟨"/health".toList, none⟩,
          [(.origin, .ofString "http://a"), (.requestMethod, .ofString "GET")], []⟩
        let unknown : Request := ⟨.options, ⟨"/nowhere".toList, none⟩,
          [(.requestMethod, .ofString "PUT"), (.origin, .ofString "http://a")], [0]⟩
        ((s.respond known).run rec).1.status = 200 ∧ ((s.respond known).run rec).2 = rec ∧
          ((s.respond known).run rec).1.fields.filter isShared =
            ((s.respond unknown).run rec).1.fields.filter isShared := by
  obtain ⟨s, hs, hanswer, hshared⟩ := respond_preflight (m := { name := "Other" })
    (p := ⟨[.ofString "http://a"], false, .list [.get], .any, 5⟩) [] rfl rfl
  refine ⟨s, hs, fun rec => ?_⟩
  intro known unknown
  obtain ⟨response, hstatus, -, hrun, -⟩ := hanswer known rfl rfl rfl
  obtain ⟨-, -, hfields⟩ := hshared known unknown rec rec (by decide) (by decide) (by decide)
    (by decide)
  rw [hrun rec] at hfields ⊢
  exact ⟨hstatus, rfl, hfields⟩

end Service

end OriginGate
