import OriginGate.Proofs.Service.Transparency

/-!
# What caches are told of origins

A cache may hand out the answer to one request for another request unless the answer lists, in
`vary`, a field in which the two differ. The gate lists the origin in the answers that go
through it. Requests without an origin pass it by, and their answers have no `vary` at all.

* `Service.getAll_respond_vary`: the values of `vary` in an answer to a request that is no
  pre-flight.
* `Service.respond_anonymous_no_vary`: two answers that differ because of the origin need not both
  say so.
* `Service.respond_vary`: of the answers to two requests that differ in their origins only, each
  lists the origin exactly if its request has one.
-/

namespace OriginGate

open Http Metrics Text

/-! ## Lists in field values -/

namespace Http

/-- A text of bytes without the spaces and tabs around it. -/
def trimBytes (bs : List UInt8) : List UInt8 :=
  let isSpace (b : UInt8) : Bool := b = 0x20 || b = 0x09
  ((bs.dropWhile isSpace).reverse.dropWhile isSpace).reverse

/-- Whether a value, read as a list with commas between its members, names the field. -/
def FieldValue.lists (v : FieldValue) (n : FieldName) : Bool :=
  (v.bytes.splitOn 0x2C).any fun member =>
    (trimBytes member).map Utf8.toLowerByte = Utf8.encode n.chars

/-- Whether the answer tells caches that it depends on the field of the request. -/
def Response.VariesBy (response : Response) (n : FieldName) : Prop :=
  ∃ v ∈ response.fields.getAll .vary, v.lists n = true

/-- The same request but for its origins, which one of the two may lack. -/
structure Request.DifferInOrigin (r₁ r₂ : Request) : Prop where
  method : r₁.method = r₂.method
  uri : r₁.uri = r₂.uri
  fields : ∀ n, n ≠ .origin → r₁.fields.getAll n = r₂.fields.getAll n
  body : r₁.body = r₂.body

end Http

open Http.Response (AgreeOutside)

theorem Policy.lists_varyValue : varyValue.lists .origin = true := by decide

/-! ## What an answer varies by -/

theorem Policy.getAll_gated_vary (p : Policy) {r : Request} (hr : isPreflight r = false)
    {plain : Response} (hplain : plain.fields.getAll .vary = []) :
    (p.gated r plain).fields.getAll .vary = if isCrossOrigin r then [varyValue] else [] := by
  have hnames : ∀ f ∈ p.credentialFields ++ p.grantFields r, f.1 ≠ .vary := by
    intro f hf
    rcases List.mem_append.1 hf with hf | hf
    · rw [name_of_mem_credentialFields hf]
      decide
    · rw [name_of_mem_grantFields hf]
      decide
  unfold gated
  rw [hr, if_neg nofun]
  split
  · rw [decorate, Fields.getAll_setAll_ne hnames, Fields.append, Fields.getAll_append, hplain,
      Fields.getAll_cons_self, Fields.getAll_nil, List.nil_append]
  · exact hplain

namespace Service

theorem getAll_plain_vary (s : Service) (r : Request) : (s.plain r).fields.getAll .vary = [] := by
  refine Fields.getAll_eq_nil_iff.2 fun f hf => ?_
  rcases name_of_mem_plain hf with h | h
  · rw [h]
    decide
  · rw [h]
    decide

theorem getAll_respond_vary (s : Service) {r : Request} (hr : isPreflight r = false)
    (rec : Recorder) :
    ((s.respond r).run rec).1.fields.getAll .vary =
      if isCrossOrigin r then [Policy.varyValue] else [] := by
  rw [run_respond]
  dsimp only
  rw [getAll_complete s r _ (by decide) (by decide),
    s.policy.getAll_gated_vary hr (s.getAll_plain_vary r)]

/-- The answer to a request without an origin lacks the grant that a page of the machine itself is
given, and does not say that it depends on the origin: a cache may hand it out to that page. -/
theorem respond_anonymous_no_vary :
    ∃ s, build {} ⟨[.ofString "http://localhost:5173"], true, .any, .any, 600⟩ [] = .ok s ∧
      ∀ rec, let anonymous : Request := ⟨.get, ⟨"/health".toList, none⟩, [], []⟩
        let page : Request :=
          ⟨.get, ⟨"/health".toList, none⟩, [(.origin, .ofString "http://localhost:5173")], []⟩
        anonymous.DifferInOrigin page ∧
          ((s.respond anonymous).run rec).1.fields.getAll .allowOrigin ≠
            ((s.respond page).run rec).1.fields.getAll .allowOrigin ∧
          ((s.respond page).run rec).1.VariesBy .origin ∧
          ¬ ((s.respond anonymous).run rec).1.VariesBy .origin := by
  obtain ⟨s, hs, -, hpolicy⟩ := exists_build (m := {})
    (p := ⟨[.ofString "http://localhost:5173"], true, .any, .any, 600⟩) [] rfl rfl
  refine ⟨s, hs, fun rec => ?_⟩
  intro anonymous page
  have hanonymous := s.getAll_respond_vary (r := anonymous) (by decide) rec
  have hpage := s.getAll_respond_vary (r := page) (by decide) rec
  refine ⟨⟨rfl, rfl, ?_, rfl⟩, ?_, ?_, ?_⟩
  · intro n hn
    rw [Fields.getAll_cons_ne (Ne.symm hn)]
  · rw [s.getAll_respond anonymous rec (by decide), s.getAll_respond page rec (by decide),
      hpolicy]
    decide
  · exact ⟨Policy.varyValue, by rw [hpage]; decide, Policy.lists_varyValue⟩
  · rintro ⟨v, hv, -⟩
    rw [hanonymous] at hv
    cases hv

/-! ## Two requests that differ in their origins -/

theorem isCrossOrigin_of_ne_options {r : Request} (hm : r.method ≠ .options) :
    isCrossOrigin r = r.fields.has .origin := by
  simp [isCrossOrigin, hm]

theorem isPreflight_of_ne_options {r : Request} (hm : r.method ≠ .options) :
    isPreflight r = false := by
  simp [isPreflight, hm]

theorem variesBy_origin_iff (s : Service) {r : Request} (hm : r.method ≠ .options)
    (rec : Recorder) :
    ((s.respond r).run rec).1.VariesBy .origin ↔ r.fields.has .origin = true := by
  have hvary := s.getAll_respond_vary (isPreflight_of_ne_options hm) rec
  rw [isCrossOrigin_of_ne_options hm] at hvary
  unfold Response.VariesBy
  rw [hvary]
  constructor
  · rintro ⟨v, hv, -⟩
    by_contra horigin
    rw [if_neg horigin] at hv
    cases hv
  · intro horigin
    rw [if_pos horigin]
    exact ⟨Policy.varyValue, List.mem_singleton_self _, Policy.lists_varyValue⟩

/-- A request without an origin passes by the gate. -/
theorem run_respond_of_bare (s : Service) {r : Request} (hm : r.method ≠ .options)
    (horigin : r.fields.has .origin = false) (rec : Recorder) :
    (s.respond r).run rec = (s.ungated r, s.recorded r rec) := by
  have hcross : isCrossOrigin r = false := by rw [isCrossOrigin_of_ne_options hm, horigin]
  exact s.run_respond_of_not_isCrossOrigin hcross rec

theorem getAll_respond_vary_of_bare (s : Service) {r : Request} (hm : r.method ≠ .options)
    (horigin : r.fields.has .origin = false) (rec : Recorder) :
    ((s.respond r).run rec).1.fields.getAll .vary = [] := by
  rw [s.getAll_respond_vary (isPreflight_of_ne_options hm), isCrossOrigin_of_ne_options hm,
    horigin]
  rfl

theorem ungated_congr (s : Service) {r₁ r₂ : Request} (hm : r₁.method = r₂.method)
    (hu : r₁.uri = r₂.uri) : s.ungated r₁ = s.ungated r₂ := by
  unfold ungated complete plain
  rw [hm, hu]

theorem respond_vary {p : Policy} (assets : List Docs.File) (hp : p.conflict? = none) :
    ∃ s, build {} p assets = .ok s ∧
      ∀ r₁ r₂ : Request, r₁.DifferInOrigin r₂ → r₁.method ≠ .options → ∀ rec₁ rec₂ : Recorder,
        let a₁ := ((s.respond r₁).run rec₁).1
        let a₂ := ((s.respond r₂).run rec₂).1
        AgreeOutside [.vary, .allowOrigin, .allowCredentials] a₁ a₂ ∧
          (a₁ ≠ a₂ → a₁.VariesBy .origin ∨ a₂.VariesBy .origin) ∧
          (a₁.VariesBy .origin ↔ r₁.fields.has .origin = true) ∧
          (a₂.VariesBy .origin ↔ r₂.fields.has .origin = true) ∧
          (r₁.fields.has .origin = false → a₁.fields.getAll .vary = []) ∧
          (r₂.fields.has .origin = false → a₂.fields.getAll .vary = []) := by
  obtain ⟨s, hs, -, rfl⟩ := exists_build (m := {}) assets rfl hp
  refine ⟨s, hs, fun r₁ r₂ hdiffer hm₁ rec₁ rec₂ => ?_⟩
  have hm₂ : r₂.method ≠ .options := hdiffer.method ▸ hm₁
  have hungated := s.ungated_congr hdiffer.method hdiffer.uri
  intro a₁ a₂
  refine ⟨?_, ?_, s.variesBy_origin_iff hm₁ rec₁, s.variesBy_origin_iff hm₂ rec₂,
    fun h => s.getAll_respond_vary_of_bare hm₁ h rec₁,
    fun h => s.getAll_respond_vary_of_bare hm₂ h rec₂⟩
  · have h₁ := s.agreeOutside_respond (isPreflight_of_ne_options hm₁) rec₁
    have h₂ := s.agreeOutside_respond (isPreflight_of_ne_options hm₂) rec₂
    rw [← hungated] at h₂
    exact h₁.trans h₂.symm
  · intro hne
    rw [s.variesBy_origin_iff hm₁, s.variesBy_origin_iff hm₂]
    -- two requests without origins are answered the same, by the service itself
    by_contra hnone
    simp only [not_or, Bool.not_eq_true] at hnone
    refine hne ?_
    have h₁ : a₁ = s.ungated r₁ := congrArg Prod.fst (s.run_respond_of_bare hm₁ hnone.1 rec₁)
    have h₂ : a₂ = s.ungated r₂ := congrArg Prod.fst (s.run_respond_of_bare hm₂ hnone.2 rec₂)
    rw [h₁, h₂, hungated]

/-- A granted and a foreign page that ask for the same unknown path are both told of the origin. -/
theorem respond_vary_foreign :
    ∃ s, build {} ⟨[.ofString "http://a"], true, .any, .any, 5⟩ [] = .ok s ∧
      ∀ rec₁ rec₂, let granted : Request :=
          ⟨.get, ⟨"/nowhere".toList, none⟩, [(.origin, .ofString "http://a")], []⟩
        let foreign : Request :=
          ⟨.get, ⟨"/nowhere".toList, none⟩, [(.origin, .ofString "http://evil")], []⟩
        granted.DifferInOrigin foreign ∧ granted.method ≠ .options ∧
          ((s.respond granted).run rec₁).1.body = ((s.respond foreign).run rec₂).1.body ∧
          ((s.respond granted).run rec₁).1.VariesBy .origin ∧
          ((s.respond foreign).run rec₂).1.VariesBy .origin := by
  obtain ⟨s, hs, hvary⟩ := respond_vary (p := ⟨[.ofString "http://a"], true, .any, .any, 5⟩) [] rfl
  refine ⟨s, hs, fun rec₁ rec₂ => ?_⟩
  intro granted foreign
  have hdiffer : granted.DifferInOrigin foreign := by
    refine ⟨rfl, rfl, fun n hn => ?_, rfl⟩
    rw [Fields.getAll_cons_ne (Ne.symm hn), Fields.getAll_cons_ne (Ne.symm hn)]
  have hm : granted.method ≠ .options := by decide
  obtain ⟨hagree, -, hgranted, hforeign, -⟩ := hvary granted foreign hdiffer hm rec₁ rec₂
  exact ⟨hdiffer, hm, hagree.body, hgranted.2 rfl, hforeign.2 rfl⟩

end Service

end OriginGate
