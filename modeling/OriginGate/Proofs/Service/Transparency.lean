import OriginGate.Proofs.Service.CrossOrigin

/-!
# The policy changes nothing that is served

Behind the gate an answer depends on the method and the path of a request alone, and the gate
touches the fields of three names only. So a request that is no pre-flight is served the same
with and without its origins: they decide nothing but those three fields.

* `Response.AgreeOutside`: two answers that differ in the fields of some names at most.
* `Service.agreeOutside_complete`: the last step of answering keeps such an agreement.
* `Service.agreeOutside_respond`: what is answered is, outside the three names, what would be
  answered without a gate.
* `Service.respond_withoutOrigin`: the two answers to a request with and without its origins.
-/

namespace OriginGate

open Http Metrics Text

/-! ## Answers that agree outside some names -/

namespace Http.Response

/-- The same status, the same content and, apart from those of the hidden names, the same fields in
the same order. -/
structure AgreeOutside (hidden : List FieldName) (a b : Response) : Prop where
  status : a.status = b.status
  body : a.body = b.body
  fields : a.fields.filter (fun f => f.1 ∉ hidden) = b.fields.filter fun f => f.1 ∉ hidden

namespace AgreeOutside

variable {hidden : List FieldName} {a b c : Response}

theorem refl (hidden : List FieldName) (a : Response) : AgreeOutside hidden a a :=
  ⟨rfl, rfl, rfl⟩

theorem symm (h : AgreeOutside hidden a b) : AgreeOutside hidden b a :=
  ⟨h.status.symm, h.body.symm, h.fields.symm⟩

theorem trans (h : AgreeOutside hidden a b) (h' : AgreeOutside hidden b c) :
    AgreeOutside hidden a c :=
  ⟨h.status.trans h'.status, h.body.trans h'.body, h.fields.trans h'.fields⟩

theorem getAll (h : AgreeOutside hidden a b) {n : FieldName} (hn : n ∉ hidden) :
    a.fields.getAll n = b.fields.getAll n := by
  have hkeep (fs : Fields) : Fields.getAll (fs.filter fun f => f.1 ∉ hidden) n = fs.getAll n :=
    Fields.getAll_filter fs (fun m => m ∉ hidden) (decide_eq_true hn)
  rw [← hkeep a.fields, ← hkeep b.fields, h.fields]

theorem has (h : AgreeOutside hidden a b) {n : FieldName} (hn : n ∉ hidden) :
    a.fields.has n = b.fields.has n := by
  rw [Fields.has, Fields.has, Fields.get?, Fields.get?, h.getAll hn]

/-- One more field for both. -/
theorem append (h : AgreeOutside hidden a b) (n : FieldName) (v : FieldValue) :
    AgreeOutside hidden { a with fields := a.fields.append n v }
      { b with fields := b.fields.append n v } := by
  refine ⟨h.status, h.body, ?_⟩
  simp only [Fields.append, List.filter_append, h.fields]

theorem withoutBody (h : AgreeOutside hidden a b) :
    AgreeOutside hidden { a with body := [] } { b with body := [] } :=
  ⟨h.status, rfl, h.fields⟩

end AgreeOutside

end Http.Response

open Http.Response (AgreeOutside)

/-! ## The gate -/

/-- The names of the fields that the gate gives to answers of the service. -/
def Policy.gateNames : List FieldName := [.vary, .allowOrigin, .allowCredentials]

theorem Policy.agreeOutside_gated (p : Policy) {r : Request} (hr : isPreflight r = false)
    (plain : Response) : AgreeOutside gateNames (p.gated r plain) plain := by
  unfold gated
  rw [hr, if_neg nofun]
  split
  · -- one field is appended and the others are set; all of them are hidden
    have hset : ∀ f ∈ p.credentialFields ++ p.grantFields r, decide (f.1 ∉ gateNames) = false := by
      intro f hf
      rcases List.mem_append.1 hf with hf | hf
      · rw [name_of_mem_credentialFields hf]
        decide
      · rw [name_of_mem_grantFields hf]
        decide
    refine ⟨rfl, rfl, ?_⟩
    have hvary : decide (FieldName.vary ∉ gateNames) = false := by decide
    rw [decorate, Fields.filter_setAll _ (fun n => n ∉ gateNames) hset, Fields.append,
      List.filter_append, List.filter_singleton, hvary]
    exact List.append_nil _
  · exact AgreeOutside.refl gateNames plain

namespace Service

/-! ## The last step -/

theorem agreeOutside_withLength {hidden : List FieldName} (hlength : .contentLength ∉ hidden)
    {a b : Response} (h : AgreeOutside hidden a b) :
    AgreeOutside hidden (withLength a) (withLength b) := by
  have hsize : b.body.length = a.body.length := by rw [h.body]
  unfold withLength
  rw [h.has hlength, hsize]
  split
  · exact h
  · exact h.append .contentLength (.ofNat a.body.length)

theorem agreeOutside_finish {hidden : List FieldName} (hallow : .allow ∉ hidden)
    (hlength : .contentLength ∉ hidden) (m : Method) {a b : Response}
    (h : AgreeOutside hidden a b) : AgreeOutside hidden (finish m a) (finish m b) := by
  unfold finish
  rw [h.has hallow]
  have hsized := agreeOutside_withLength hlength h
  have htold := agreeOutside_withLength hlength (h.append .allow (.ofString "GET,HEAD"))
  split
  · split
    · exact hsized.withoutBody
    · exact hsized
  · split
    · exact htold.withoutBody
    · exact htold

theorem agreeOutside_complete (s : Service) (r : Request) {a b : Response}
    (h : AgreeOutside Policy.gateNames a b) :
    AgreeOutside Policy.gateNames (s.complete r a) (s.complete r b) := by
  unfold complete
  split
  · exact agreeOutside_finish (by decide) (by decide) r.method h
  · exact agreeOutside_withLength (by decide) h

/-! ## Answers with and without origins -/

/-- The answer to a request if there were no gate. -/
def ungated (s : Service) (r : Request) : Response :=
  s.complete r (s.plain r)

theorem agreeOutside_respond (s : Service) {r : Request} (hr : isPreflight r = false)
    (rec : Recorder) :
    AgreeOutside Policy.gateNames ((s.respond r).run rec).1 (s.ungated r) := by
  rw [run_respond]
  exact s.agreeOutside_complete r (s.policy.agreeOutside_gated hr (s.plain r))

theorem run_respond_of_not_isCrossOrigin (s : Service) {r : Request}
    (hr : isCrossOrigin r = false) (rec : Recorder) :
    (s.respond r).run rec = (s.ungated r, s.recorded r rec) := by
  have hpre : isPreflight r = false := by simp [isPreflight, hr]
  rw [run_respond, Policy.gated, hpre, hr]
  rfl

end Service

/-- The request without its origins. -/
def Http.Request.withoutOrigin (r : Request) : Request :=
  { r with fields := r.fields.erase .origin }

theorem isCrossOrigin_withoutOrigin (r : Request) : isCrossOrigin r.withoutOrigin = false := by
  have hnone : r.withoutOrigin.fields.has .origin = false := by
    rw [Bool.eq_false_iff, Ne, Fields.has_eq_true_iff, not_not]
    exact Fields.getAll_erase_self r.fields .origin
  simp [isCrossOrigin, hnone]

/-- An `OPTIONS` request is cross-origin only as a pre-flight. -/
theorem isCrossOrigin_of_options {r : Request} (hm : r.method = .options)
    (hr : isPreflight r = false) : isCrossOrigin r = false := by
  simpa [isPreflight, hm] using hr

namespace Service

theorem respond_withoutOrigin {m : Metadata} {p : Policy} (assets : List Docs.File)
    (hm : m.docsPath = ({} : Metadata).docsPath) (hp : p.conflict? = none) :
    ∃ s, build m p assets = .ok s ∧
      ∀ r : Request, isPreflight r = false →
        (∀ rec rec₀ : Recorder, AgreeOutside [.vary, .allowOrigin, .allowCredentials]
          ((s.respond r).run rec).1 ((s.respond r.withoutOrigin).run rec₀).1) ∧
        (∀ rec : Recorder, ((s.respond r).run rec).2 = ((s.respond r.withoutOrigin).run rec).2) ∧
        (r.method = .options → ∀ rec : Recorder,
          (s.respond r).run rec = (s.respond r.withoutOrigin).run rec) := by
  obtain ⟨s, hs, -, rfl⟩ := exists_build assets hm hp
  refine ⟨s, hs, fun r hr => ⟨?_, ?_, ?_⟩⟩
  · intro rec rec₀
    rw [s.run_respond_of_not_isCrossOrigin (isCrossOrigin_withoutOrigin r)]
    exact s.agreeOutside_respond hr rec
  · intro rec
    rw [s.run_respond_of_not_isCrossOrigin (isCrossOrigin_withoutOrigin r), run_respond, hr]
    rfl
  · intro hoptions rec
    rw [s.run_respond_of_not_isCrossOrigin (isCrossOrigin_withoutOrigin r),
      s.run_respond_of_not_isCrossOrigin (isCrossOrigin_of_options hoptions hr)]
    rfl

/-- A page that is not granted is refused its `OPTIONS` request as the same request without an
origin is, and is served the health of the service all the same. -/
theorem respond_withoutOrigin_foreign :
    ∃ s, build { name := "Other" } ⟨[.ofString "http://a"], true, .any, .any, 5⟩ [] = .ok s ∧
      ∀ rec, let read : Request :=
          ⟨.get, ⟨"/health".toList, none⟩, [(.origin, .ofString "http://evil")], []⟩
        let bare : Request :=
          ⟨.options, ⟨"/health".toList, none⟩, [(.origin, .ofString "http://evil")], []⟩
        ((s.respond read).run rec).1.body =
            ((s.respond ⟨.get, ⟨"/health".toList, none⟩, [], []⟩).run rec).1.body ∧
          (s.respond bare).run rec =
            (s.respond ⟨.options, ⟨"/health".toList, none⟩, [], []⟩).run rec := by
  obtain ⟨s, hs, hsame⟩ := respond_withoutOrigin (m := { name := "Other" })
    (p := ⟨[.ofString "http://a"], true, .any, .any, 5⟩) [] rfl rfl
  refine ⟨s, hs, fun rec => ?_⟩
  intro read bare
  obtain ⟨hread, -, -⟩ := hsame read (by decide)
  obtain ⟨-, -, hbare⟩ := hsame bare (by decide)
  exact ⟨(hread rec rec).body, hbare rfl rec⟩

end Service

end OriginGate
