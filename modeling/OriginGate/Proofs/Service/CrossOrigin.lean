import OriginGate.Proofs.Cors.Policy
import OriginGate.Proofs.Service.Answers

/-!
# The cross-origin fields of an answer

Every answer, whatever its endpoint, has exactly the cross-origin fields that the gate gives it:
the endpoints have none of their own and nothing is lost or added behind the gate.

* `Service.getAll_respond`: the values of a cross-origin field in an answer are those of
  `Policy.policyFields`, which depend on the policy and the request only.
* `Service.respond_followsPolicy`: when an answer grants an origin or credentials, what it says
  then, and that it says nothing otherwise.
-/

namespace OriginGate

open Http Metrics Text

/-- Whether the field tells browsers of a policy: its name starts with `access-control-`. -/
def isPolicyField (n : FieldName) : Bool :=
  "access-control-".toList.isPrefixOf n.chars

theorem ne_of_isPolicyField {n m : FieldName} (hn : isPolicyField n = true)
    (hm : isPolicyField m = false) : m ≠ n := by
  rintro rfl
  rw [hn] at hm
  cases hm

namespace Policy

/-! ## The fields of the gate -/

/-- The cross-origin fields of the answer to a request. -/
def policyFields (p : Policy) (r : Request) : Fields :=
  if isPreflight r then p.credentialFields ++ p.grantFields r ++ p.preflightFields r
  else if isCrossOrigin r then p.credentialFields ++ p.grantFields r
  else []

/-- The origin of a request, if it is granted. -/
def granted? (p : Policy) (r : Request) : Option FieldValue :=
  (r.fields.get? .origin).filter p.allowsOrigin

theorem grantFields_eq (p : Policy) (r : Request) :
    p.grantFields r = optionalField .allowOrigin (p.granted? r) := by
  unfold grantFields granted?
  split
  · rename_i origin h
    rw [h]
    cases hallowed : p.allowsOrigin origin <;> simp [optionalField, Option.filter, hallowed]
  · rename_i h
    rw [h]
    rfl

theorem granted?_eq_some_iff {p : Policy} {r : Request} {v : FieldValue} :
    p.granted? r = some v ↔
      r.fields.get? .origin = some v ∧ v.bytes ∈ p.origins.map (·.bytes) := by
  rw [granted?, Option.filter_eq_some_iff, allowsOrigin_iff]

theorem toList_granted?_ne_nil_iff {p : Policy} {r : Request} :
    (p.granted? r).toList ≠ [] ↔
      ∃ v, r.fields.get? .origin = some v ∧ v.bytes ∈ p.origins.map (·.bytes) := by
  simp only [← granted?_eq_some_iff]
  cases p.granted? r <;> simp

theorem getAll_optionalField (n : FieldName) (v : Option FieldValue) :
    Fields.getAll (optionalField n v) n = v.toList := by
  cases v <;> simp [optionalField]

theorem getAll_credentialFields (p : Policy) :
    p.credentialFields.getAll .allowCredentials =
      if p.credentials then [.ofString "true"] else [] := by
  unfold credentialFields
  split <;> simp

theorem name_of_mem_credentialFields {p : Policy} {f : FieldName × FieldValue}
    (h : f ∈ p.credentialFields) : f.1 = .allowCredentials := by
  unfold credentialFields at h
  split at h
  · rw [List.mem_singleton.1 h]
  · cases h

theorem getAll_grantFields (p : Policy) (r : Request) :
    (p.grantFields r).getAll .allowOrigin = (p.granted? r).toList := by
  rw [grantFields_eq, getAll_optionalField]

theorem name_of_mem_grantFields {p : Policy} {r : Request} {f : FieldName × FieldValue}
    (h : f ∈ p.grantFields r) : f.1 = .allowOrigin := by
  rw [grantFields_eq] at h
  exact name_of_mem_optionalField h

/-- The fields that only the answer to a pre-flight has. -/
def preflightNames : List FieldName := [.allowMethods, .allowHeaders, .maxAge]

theorem isPolicyField_of_mem_preflightNames {n : FieldName} (h : n ∈ preflightNames) :
    isPolicyField n = true := by
  have hall : preflightNames.all isPolicyField = true := by decide
  exact List.all_eq_true.1 hall n h

theorem name_of_mem_preflightFields {p : Policy} {r : Request} {f : FieldName × FieldValue}
    (h : f ∈ p.preflightFields r) : f.1 ∈ preflightNames := by
  simp only [preflightFields, List.mem_append, List.mem_singleton] at h
  rcases h with (h | h) | rfl
  · simp [preflightNames, name_of_mem_optionalField h]
  · simp [preflightNames, name_of_mem_optionalField h]
  · simp [preflightNames]

theorem nodup_credentialFields_grantFields (p : Policy) (r : Request) :
    ((p.credentialFields ++ p.grantFields r).map (·.1)).Nodup := by
  rw [grantFields_eq]
  unfold credentialFields optionalField
  cases p.granted? r with
  | none => split <;> simp
  | some v =>
    split
    · simp only [List.map_append, List.map_cons, List.map_nil]
      decide
    · simp

/-- The gate gives an answer without cross-origin fields those of the policy. -/
theorem getAll_gated (p : Policy) (r : Request) {plain : Response} {n : FieldName}
    (hn : isPolicyField n = true) (hplain : plain.fields.getAll n = []) :
    (p.gated r plain).fields.getAll n = (p.policyFields r).getAll n := by
  have hvary : FieldName.vary ≠ n := ne_of_isPolicyField hn (by decide)
  unfold gated policyFields
  split
  · simp [preflightResponse, Fields.getAll_append, Fields.getAll_cons_ne hvary]
  · split
    · refine Fields.getAll_setAll (p.nodup_credentialFields_grantFields r) ?_
      simp [Fields.append, Fields.getAll_append, hplain, Fields.getAll_cons_ne hvary]
    · exact hplain

end Policy

namespace Service

theorem getAll_plain (s : Service) (r : Request) {n : FieldName} (hn : isPolicyField n = true) :
    (s.plain r).fields.getAll n = [] := by
  refine Fields.getAll_eq_nil_iff.2 fun f hf => ?_
  rcases name_of_mem_plain hf with h | h
  · exact ne_of_isPolicyField hn (by rw [h]; decide)
  · exact ne_of_isPolicyField hn (by rw [h]; decide)

theorem getAll_respond (s : Service) (r : Request) (rec : Recorder) {n : FieldName}
    (hn : isPolicyField n = true) :
    ((s.respond r).run rec).1.fields.getAll n = (s.policy.policyFields r).getAll n := by
  rw [run_respond]
  dsimp only
  rw [getAll_complete s r _ (ne_of_isPolicyField hn (by decide))
    (ne_of_isPolicyField hn (by decide)), Policy.getAll_gated _ r hn (s.getAll_plain r hn)]

end Service

/-! ## What the answer to a request says -/

namespace Policy

theorem isCrossOrigin_of_isPreflight {r : Request} (h : isPreflight r = true) :
    isCrossOrigin r = true :=
  (Bool.and_eq_true_iff.1 h).2

theorem policyFields_of_not_isCrossOrigin (p : Policy) {r : Request}
    (h : isCrossOrigin r = false) : p.policyFields r = [] := by
  simp [policyFields, isPreflight, h]

/-- Origins and credentials are granted to pre-flights and to the requests after them alike. -/
theorem getAll_policyFields (p : Policy) (r : Request) {n : FieldName} (hn : n ∉ preflightNames) :
    (p.policyFields r).getAll n =
      if isCrossOrigin r then (p.credentialFields ++ p.grantFields r).getAll n else [] := by
  have hpre : (p.preflightFields r).getAll n = [] :=
    Fields.getAll_eq_nil_iff.2 fun f hf he => hn (he ▸ name_of_mem_preflightFields hf)
  unfold policyFields
  split
  · rename_i h
    rw [isCrossOrigin_of_isPreflight h, Fields.getAll_append, hpre, List.append_nil]
    rfl
  · split <;> rfl

theorem getAll_policyFields_allowOrigin (p : Policy) (r : Request) :
    (p.policyFields r).getAll .allowOrigin =
      if isCrossOrigin r then (p.granted? r).toList else [] := by
  have hcred : p.credentialFields.getAll .allowOrigin = [] := by
    refine Fields.getAll_eq_nil_iff.2 fun f hf => ?_
    rw [name_of_mem_credentialFields hf]
    decide
  rw [getAll_policyFields p r (by decide), Fields.getAll_append, hcred, getAll_grantFields]
  rfl

theorem getAll_policyFields_allowCredentials (p : Policy) (r : Request) :
    (p.policyFields r).getAll .allowCredentials =
      if isCrossOrigin r && p.credentials then [.ofString "true"] else [] := by
  have hgrant : (p.grantFields r).getAll .allowCredentials = [] := by
    refine Fields.getAll_eq_nil_iff.2 fun f hf => ?_
    rw [name_of_mem_grantFields hf]
    decide
  rw [getAll_policyFields p r (by decide), Fields.getAll_append, hgrant, List.append_nil,
    getAll_credentialFields]
  cases isCrossOrigin r <;> rfl

theorem getAll_grants_of_mem_preflightNames (p : Policy) (r : Request) {n : FieldName}
    (hn : n ∈ preflightNames) : (p.credentialFields ++ p.grantFields r).getAll n = [] := by
  have hnames : ∀ f ∈ p.credentialFields ++ p.grantFields r, f.1 ∉ preflightNames := by
    intro f hf
    rcases List.mem_append.1 hf with hf | hf
    · rw [name_of_mem_credentialFields hf]
      decide
    · rw [name_of_mem_grantFields hf]
      decide
  exact Fields.getAll_eq_nil_iff.2 fun f hf he => hnames f hf (he ▸ hn)

theorem getAll_policyFields_of_not_isPreflight (p : Policy) {r : Request}
    (hr : isPreflight r = false) {n : FieldName} (hn : n ∈ preflightNames) :
    (p.policyFields r).getAll n = [] := by
  rw [policyFields, hr, if_neg nofun]
  split
  · exact p.getAll_grants_of_mem_preflightNames r hn
  · rfl

end Policy

/-- What the answer to a request says of a policy: which origin it grants, whether it admits
credentials, and that it says no more unless it answers a pre-flight. -/
structure FollowsPolicy (p : Policy) (r : Request) (response : Response) : Prop where
  /-- An origin is granted exactly if the request is cross-origin and its first origin is, byte
  for byte, one of the policy. -/
  origin_iff : response.fields.has .allowOrigin = true ↔
    isCrossOrigin r = true ∧
      ∃ v, r.fields.get? .origin = some v ∧ v.bytes ∈ p.origins.map (·.bytes)
  /-- It is granted once, and as the request gives it. -/
  origin_value : response.fields.has .allowOrigin = true →
    ∃ v, r.fields.get? .origin = some v ∧ response.fields.getAll .allowOrigin = [v]
  /-- Credentials are admitted exactly if the request is cross-origin and the policy does so. -/
  credentials_iff : response.fields.has .allowCredentials = true ↔
    isCrossOrigin r = true ∧ p.credentials = true
  credentials_value : response.fields.has .allowCredentials = true →
    response.fields.getAll .allowCredentials = [.ofString "true"]
  preflight_only : isPreflight r = false →
    ∀ n ∈ Policy.preflightNames, response.fields.has n = false
  /-- The answer to a request that is not cross-origin says nothing. -/
  silent : isCrossOrigin r = false →
    ∀ f ∈ response.fields, ¬ "access-control-".toList <+: f.1.chars

namespace Service

theorem respond_followsPolicy {m : Metadata} {p : Policy} (assets : List Docs.File)
    (hm : m.docsPath = ({} : Metadata).docsPath) (hp : p.conflict? = none) :
    ∃ s, build m p assets = .ok s ∧
      ∀ (r : Request) (rec : Recorder), FollowsPolicy p r ((s.respond r).run rec).1 := by
  obtain ⟨s, hs, -, rfl⟩ := exists_build assets hm hp
  refine ⟨s, hs, fun r rec => ?_⟩
  have horigin := (s.getAll_respond r rec (by decide)).trans
    (s.policy.getAll_policyFields_allowOrigin r)
  have hcredentials := (s.getAll_respond r rec (by decide)).trans
    (s.policy.getAll_policyFields_allowCredentials r)
  constructor
  case origin_iff =>
    rw [Fields.has_eq_true_iff, horigin, ← Policy.toList_granted?_ne_nil_iff]
    cases isCrossOrigin r <;> simp
  case origin_value =>
    rw [Fields.has_eq_true_iff, horigin]
    intro hne
    cases hcross : isCrossOrigin r with
    | false => simp [hcross] at hne
    | true =>
      cases hgranted : s.policy.granted? r with
      | none => simp [hgranted] at hne
      | some v => exact ⟨v, (Policy.granted?_eq_some_iff.1 hgranted).1, rfl⟩
  case credentials_iff =>
    rw [Fields.has_eq_true_iff, hcredentials, ← Bool.and_eq_true_iff]
    cases isCrossOrigin r && s.policy.credentials <;> simp
  case credentials_value =>
    rw [Fields.has_eq_true_iff, hcredentials]
    cases isCrossOrigin r && s.policy.credentials <;> simp
  case preflight_only =>
    intro hr n hn
    rw [← Bool.not_eq_true, Fields.has_eq_true_iff, not_not,
      s.getAll_respond r rec (Policy.isPolicyField_of_mem_preflightNames hn),
      s.policy.getAll_policyFields_of_not_isPreflight hr hn]
  case silent =>
    intro hr f hf hname
    have hn : isPolicyField f.1 = true := List.isPrefixOf_iff_prefix.2 hname
    have hnil : (s.policy.policyFields r).getAll f.1 = [] := by
      rw [s.policy.policyFields_of_not_isCrossOrigin hr]
      rfl
    rw [← s.getAll_respond r rec hn] at hnil
    exact Fields.getAll_eq_nil_iff.1 hnil f hf rfl

/-- Of two origins in one request the first counts, also where nothing is found. -/
theorem respond_followsPolicy_first :
    ∃ s, build { name := "Other" } ⟨[.ofString "http://a"], false, .list [.get], .any, 5⟩ [] =
        .ok s ∧
      ∀ rec, ((s.respond ⟨.post, ⟨"/nowhere".toList, none⟩,
        [(.origin, .ofString "http://a"), (.origin, .ofString "http://b")], []⟩).run
          rec).1.fields.getAll .allowOrigin = [.ofString "http://a"] := by
  obtain ⟨s, hs, hfollows⟩ := respond_followsPolicy (m := { name := "Other" })
    (p := ⟨[.ofString "http://a"], false, .list [.get], .any, 5⟩) [] rfl rfl
  refine ⟨s, hs, fun rec => ?_⟩
  have h := hfollows ⟨.post, ⟨"/nowhere".toList, none⟩,
    [(.origin, .ofString "http://a"), (.origin, .ofString "http://b")], []⟩ rec
  obtain ⟨v, hv, hvalue⟩ :=
    h.origin_value (h.origin_iff.2 ⟨by decide, .ofString "http://a", rfl, by decide⟩)
  rw [hvalue, ← Option.some.inj hv]

end Service

end OriginGate
