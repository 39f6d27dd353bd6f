import OriginGate.Proofs.Text.Graphic
import OriginGate.Service.Router

/-!
# Answers behind and before the gate

An answer is made in three steps: an endpoint, or the refusal of an unknown path, gives a plain
answer; the gate replaces or decorates it; and what is told of every answer is added at the end.
The steps are given here as functions without state, so that answers can be compared.

* `Service.build_eq_ok_iff`: what is known of a service that was built; `Service.exists_build`: it
  can be built with every policy that can be enforced.
* `Service.respondWith`: answering with any handlers, in any monad, in place of the endpoints;
  `Service.respondWith_of_isPreflight`: for a pre-flight they do not run.
* `Service.run_respond`: an answer is the composition of the three steps, and only a request that
  is no pre-flight is counted.
* `Service.breaksOff?_eq_some_iff`: which requests get no answer; `Service.run_attempt`,
  `run_attempt_of_breaksOff`: what comes of a request, with and without an answer.
* `Service.name_of_mem_plain`, `Service.fields_complete`: the fields of the first step and those
  that the last step adds; `Service.filter_complete`: what is kept by the last step.
-/

namespace OriginGate

open Http Metrics Text

theorem exists_of_bind_eq_ok {ε α β : Type} {x : Except ε α} {f : α → Except ε β} {b : β}
    (h : x >>= f = .ok b) : ∃ a, x = .ok a ∧ f a = .ok b := by
  cases x with
  | error e => cases h
  | ok a => exact ⟨a, rfl, h⟩

/-! ## The gate without state -/

/-- The answer that leaves the gate where `plain` is the answer behind it. -/
def Policy.gated (p : Policy) (r : Request) (plain : Response) : Response :=
  if isPreflight r then p.preflightResponse r
  else if isCrossOrigin r then p.decorate r plain
  else plain

theorem Policy.gate_of_isPreflight {m : Type → Type} [Monad m] (p : Policy)
    (service : Request → m Response) {r : Request} (h : isPreflight r = true) :
    p.gate service r = pure (p.preflightResponse r) := by
  simp only [isPreflight, Bool.and_eq_true, decide_eq_true_eq] at h
  simp [gate, answer, h]

theorem Policy.gate_of_not_isPreflight {m : Type → Type} [Monad m] [LawfulMonad m] (p : Policy)
    (service : Request → m Response) {r : Request} (h : isPreflight r = false) :
    p.gate service r = p.gated r <$> service r := by
  have hgated : p.gated r = if isCrossOrigin r then p.decorate r else id := by
    funext plain
    cases hcross : isCrossOrigin r <;> simp [gated, h, hcross]
  rw [hgated, gate]
  split
  · rename_i hcross
    have hmethod : ¬ r.method = .options := by simpa [isPreflight, hcross] using h
    simp [answer, hmethod]
  · simp

theorem Policy.name_of_mem_optionalField {n : FieldName} {v : Option FieldValue}
    {f : FieldName × FieldValue} (h : f ∈ optionalField n v) : f.1 = n := by
  cases v with
  | none => cases h
  | some v => rw [List.mem_singleton.1 h]

namespace Service

/-! ## Building -/

theorem build_eq_ok_iff {m : Metadata} {p : Policy} {assets : List Docs.File} {s : Service} :
    build m p assets = .ok s ↔
      allRoutes m.docsPath.toList = .ok s.routes ∧ p.conflict? = none ∧
        s.metadata = m ∧ s.policy = p ∧ s.assets = assets := by
  constructor
  · intro h
    obtain ⟨routes, hroutes, hbuilt⟩ := exists_of_bind_eq_ok h
    split at hbuilt
    · cases hbuilt
    · rename_i hconflict
      obtain rfl := Except.ok.inj hbuilt
      exact ⟨hroutes, hconflict, rfl, rfl, rfl⟩
  · rintro ⟨hroutes, hconflict, rfl, rfl, rfl⟩
    rw [build, hroutes, hconflict]
    rfl

/-- With the usual place of its documentation there is a service. -/
theorem exists_build {m : Metadata} {p : Policy} (assets : List Docs.File)
    (hm : m.docsPath = ({} : Metadata).docsPath) (hp : p.conflict? = none) :
    ∃ s, build m p assets = .ok s ∧ s.metadata = m ∧ s.policy = p := by
  obtain ⟨routes, hroutes⟩ :
      ∃ routes, allRoutes ({} : Metadata).docsPath.toList = .ok routes := ⟨_, rfl⟩
  exact ⟨⟨m, p, routes, assets⟩, build_eq_ok_iff.2 ⟨hm ▸ hroutes, hp, rfl, rfl, rfl⟩, rfl, rfl⟩

/-- With the usual place of its documentation a policy that cannot be enforced is the only fault. -/
theorem build_eq_error_iff {m : Metadata} {p : Policy} {assets : List Docs.File}
    (hm : m.docsPath = ({} : Metadata).docsPath) {fault : BuildFault} :
    build m p assets = .error fault ↔ ∃ k, p.conflict? = some k ∧ fault = .policy k := by
  obtain ⟨routes, hroutes⟩ :
      ∃ routes, allRoutes ({} : Metadata).docsPath.toList = .ok routes := ⟨_, rfl⟩
  rw [build, hm, hroutes]
  cases p.conflict? with
  | none => exact ⟨nofun, fun ⟨_, h, _⟩ => nomatch h⟩
  | some k =>
    constructor
    · rintro ⟨⟩
      exact ⟨k, rfl, rfl⟩
    · rintro ⟨_, ⟨⟩, rfl⟩
      rfl

/-! ## The three steps -/

/-- The answer as it is sent, from the one that left the gate. -/
def complete (s : Service) (r : Request) (response : Response) : Response :=
  match s.endpoint? r.uri.path with
  | some _ => finish r.method response
  | none => withLength response

section Handlers

variable {μ : Type → Type} [Monad μ] (s : Service)
  (handle : Endpoint → List (List Char) → Request → μ Response) (unknown : Request → μ Response)

/-- Answers a request by handlers for the endpoints and a handler for unknown paths. -/
def respondWith (r : Request) : μ Response :=
  match s.endpoint? r.uri.path with
  | some (endpoint, captured) => do
    return finish r.method (← s.policy.gate (handle endpoint captured) r)
  | none => do
    return withLength (← s.policy.gate unknown r)

/-- What the handlers answer, behind the gate. -/
def behindGate (r : Request) : μ Response :=
  match s.endpoint? r.uri.path with
  | some (endpoint, captured) => handle endpoint captured r
  | none => unknown r

/-- The handlers do not matter to a pre-flight. -/
theorem respondWith_of_isPreflight [LawfulMonad μ] {r : Request} (h : isPreflight r = true) :
    s.respondWith handle unknown r = pure (s.complete r (s.policy.preflightResponse r)) := by
  unfold respondWith complete
  cases s.endpoint? r.uri.path with
  | none => simp only [Policy.gate_of_isPreflight _ _ h, pure_bind]
  | some found => simp only [Policy.gate_of_isPreflight _ _ h, pure_bind]

theorem respondWith_of_not_isPreflight [LawfulMonad μ] {r : Request}
    (h : isPreflight r = false) :
    s.respondWith handle unknown r =
      (fun plain => s.complete r (s.policy.gated r plain)) <$> s.behindGate handle unknown r := by
  unfold respondWith complete behindGate
  cases s.endpoint? r.uri.path with
  | none => simp [Policy.gate_of_not_isPreflight _ _ h]
  | some found => simp [Policy.gate_of_not_isPreflight _ _ h]

end Handlers

theorem respond_eq_respondWith (s : Service) (r : Request) :
    s.respond r = s.respondWith s.handle (fun _ => pure notFound) r := rfl

/-- The answer behind the gate. -/
def plain (s : Service) (r : Request) : Response :=
  match s.endpoint? r.uri.path with
  | some (endpoint, captured) =>
    if isRead r.method then s.read endpoint captured else emptyResponse 405
  | none => notFound

/-- What is recorded when a request passes the gate. -/
def recorded (s : Service) (r : Request) (rec : Recorder) : Recorder :=
  match s.endpoint? r.uri.path with
  | some (endpoint, _) => record endpoint r.method (s.plain r).status rec
  | none => rec

theorem run_behindGate (s : Service) (r : Request) (rec : Recorder) :
    (s.behindGate s.handle (fun _ => pure notFound) r).run rec =
      (s.plain r, s.recorded r rec) := by
  unfold behindGate recorded plain
  cases s.endpoint? r.uri.path <;> rfl

theorem run_respond (s : Service) (r : Request) (rec : Recorder) :
    (s.respond r).run rec =
      (s.complete r (s.policy.gated r (s.plain r)),
        if isPreflight r then rec else s.recorded r rec) := by
  rw [respond_eq_respondWith]
  cases h : isPreflight r with
  | true =>
    rw [respondWith_of_isPreflight _ _ _ h, Policy.gated, h]
    rfl
  | false =>
    rw [respondWith_of_not_isPreflight _ _ _ h, StateT.run_map, run_behindGate]
    rfl

/-! ## Requests without an answer -/

theorem exists_pageLocation?_iff {m : Metadata} :
    (∃ location, pageLocation? m = some location) ↔
      ∀ c ∈ docsBase m.docsPath.toList, isValueChar c = true := by
  rw [pageLocation?, FieldValue.exists_ofText?_iff, List.forall_mem_append]
  refine and_iff_left fun c hc => ?_
  rw [List.mem_singleton.1 hc]
  decide

/-- A reader is not sent to the page if its path holds a control. -/
theorem breaksOff?_eq_some_iff {s : Service} {r : Request} {fault : AnswerFault} :
    s.breaksOff? r = some fault ↔
      (∃ captured, s.endpoint? r.uri.path = some (.docsEntry, captured)) ∧
        isRead r.method = true ∧
          ∃ c ∈ docsBase s.metadata.docsPath.toList, isValueChar c = false := by
  have hcontrol : pageLocation? s.metadata = none ↔
      ∃ c ∈ docsBase s.metadata.docsPath.toList, isValueChar c = false := by
    rw [← Option.not_isSome_iff_eq_none, Option.isSome_iff_exists, exists_pageLocation?_iff]
    simp
  rw [← hcontrol]
  unfold breaksOff?
  split
  · rename_i captured hpath hread hnone
    cases fault
    exact iff_of_true rfl ⟨⟨captured, hpath⟩, hread, hnone⟩
  · rename_i hother
    refine iff_of_false nofun fun ⟨⟨captured, hpath⟩, hread, hnone⟩ => ?_
    exact hother captured hpath hread hnone

theorem breaksOff?_of_pageLocation? {s : Service} {location : FieldValue}
    (h : pageLocation? s.metadata = some location) (r : Request) : s.breaksOff? r = none := by
  unfold breaksOff?
  split
  · rename_i hnone
    rw [h] at hnone
    cases hnone
  · rfl

theorem run_attempt {s : Service} {r : Request} (h : s.breaksOff? r = none) (rec : Recorder) :
    (s.attempt r).run.run rec = (.ok ((s.respond r).run rec).1, ((s.respond r).run rec).2) := by
  rw [attempt, h]
  rfl

/-- A request that breaks off leaves no trace. -/
theorem run_attempt_of_breaksOff {s : Service} {r : Request} {fault : AnswerFault}
    (h : s.breaksOff? r = some fault) (rec : Recorder) :
    (s.attempt r).run.run rec = (.error fault, rec) := by
  rw [attempt, h]
  rfl

/-! ## Fields -/

theorem name_of_mem_jsonResponse {status : Nat} {v : Json.Value} {f : FieldName × FieldValue}
    (h : f ∈ (jsonResponse status v).fields) : f.1 = .contentType := by
  rw [List.mem_singleton.1 h]

theorem name_of_mem_docsResponse {assets : List Docs.File} {captured : List (List Char)}
    {f : FieldName × FieldValue} (h : f ∈ (docsResponse assets captured).fields) :
    f.1 = .contentType := by
  unfold docsResponse at h
  split at h
  · rw [List.mem_singleton.1 h]
  · cases h

theorem name_of_mem_entry {location : Option FieldValue} {f : FieldName × FieldValue}
    (h : f ∈ (location.elim (emptyResponse 500) redirect).fields) : f.1 = .location := by
  cases location with
  | none => cases h
  | some v => rw [List.mem_singleton.1 h]

/-- The answer behind the gate tells the type of its content or another place, and no more. -/
theorem name_of_mem_plain {s : Service} {r : Request} {f : FieldName × FieldValue}
    (h : f ∈ (s.plain r).fields) : f.1 = .contentType ∨ f.1 = .location := by
  unfold plain at h
  split at h
  · rename_i endpoint captured _
    split at h
    · cases endpoint with
      | root => exact .inl (name_of_mem_jsonResponse h)
      | health => exact .inl (name_of_mem_jsonResponse h)
      | description => exact .inl (name_of_mem_jsonResponse h)
      | docsEntry => exact .inr (name_of_mem_entry h)
      | docsFile => exact .inl (name_of_mem_docsResponse h)
    · cases h
  · exact .inl (name_of_mem_jsonResponse h)

/-! ## What is added at the end -/

theorem fields_withLength (response : Response) :
    ∃ added, (withLength response).fields = response.fields ++ added ∧
      ∀ f ∈ added, f.1 = .contentLength := by
  unfold withLength
  split
  · exact ⟨[], (List.append_nil _).symm, by simp⟩
  · exact ⟨_, rfl, by simp⟩

theorem fields_finish (m : Method) (response : Response) :
    ∃ added, (finish m response).fields = response.fields ++ added ∧
      ∀ f ∈ added, f.1 = .allow ∨ f.1 = .contentLength := by
  have hsized : ∀ told : Response,
      (if m = .head then { withLength told with body := [] } else withLength told).fields =
        (withLength told).fields := by
    intro told
    split <;> rfl
  unfold finish
  rw [hsized]
  split
  · obtain ⟨added, hadded, hnames⟩ := fields_withLength response
    exact ⟨added, hadded, fun f hf => .inr (hnames f hf)⟩
  · obtain ⟨added, hadded, hnames⟩ := fields_withLength
      { response with fields := response.fields.append .allow (.ofString "GET,HEAD") }
    refine ⟨(.allow, .ofString "GET,HEAD") :: added, ?_, ?_⟩
    · rw [hadded]
      simp [Fields.append]
    · intro f hf
      rcases List.mem_cons.1 hf with rfl | hf
      · exact .inl rfl
      · exact .inr (hnames f hf)

/-- Completing an answer keeps its fields and tells no more than the allowed methods and the
length of the content. -/
theorem fields_complete (s : Service) (r : Request) (response : Response) :
    ∃ added, (s.complete r response).fields = response.fields ++ added ∧
      ∀ f ∈ added, f.1 = .allow ∨ f.1 = .contentLength := by
  unfold complete
  split
  · exact fields_finish r.method response
  · obtain ⟨added, hadded, hnames⟩ := fields_withLength response
    exact ⟨added, hadded, fun f hf => .inr (hnames f hf)⟩

/-- Readers that look at neither of the two names do not see that an answer was completed. -/
theorem filter_complete (s : Service) (r : Request) (response : Response) (keep : FieldName → Bool)
    (hallow : keep .allow = false) (hlength : keep .contentLength = false) :
    (s.complete r response).fields.filter (fun f => keep f.1) =
      response.fields.filter fun f => keep f.1 := by
  obtain ⟨added, hadded, hnames⟩ := fields_complete s r response
  have hnil : added.filter (fun f => keep f.1) = [] := by
    refine List.filter_eq_nil_iff.2 fun f hf => ?_
    rcases hnames f hf with h | h
    · rw [h, hallow]
      nofun
    · rw [h, hlength]
      nofun
  rw [hadded, List.filter_append, hnil, List.append_nil]

theorem getAll_complete (s : Service) (r : Request) (response : Response) {n : FieldName}
    (hallow : FieldName.allow ≠ n) (hlength : FieldName.contentLength ≠ n) :
    (s.complete r response).fields.getAll n = response.fields.getAll n := by
  unfold Fields.getAll
  rw [filter_complete s r response (· = n) (decide_eq_false hallow) (decide_eq_false hlength)]

theorem status_withLength (response : Response) :
    (withLength response).status = response.status := by
  unfold withLength
  split <;> rfl

theorem body_withLength (response : Response) : (withLength response).body = response.body := by
  unfold withLength
  split <;> rfl

theorem status_complete (s : Service) (r : Request) (response : Response) :
    (s.complete r response).status = response.status := by
  unfold complete finish
  split
  · dsimp only
    split <;> split <;> exact status_withLength _
  · exact status_withLength response

theorem body_complete (s : Service) (r : Request) {response : Response}
    (h : response.body = []) : (s.complete r response).body = [] := by
  unfold complete finish
  split
  · dsimp only
    split
    · rfl
    · split <;> rw [body_withLength, h]
  · rw [body_withLength, h]

end Service

end OriginGate
