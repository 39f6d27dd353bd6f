import OriginGate.Proofs.Config.Validate
import OriginGate.Proofs.Cors.Allowed
import OriginGate.Proofs.Service.Preflight

/-!
# What a pre-flight is told of a configuration

The lists of a configuration go through the trimming of entries, the reading of tokens and the
joining into one field value. No token holds a comma, so that the value splits into the entries
again, and no list of tokens reads as the wildcard.

* `Policy.exists_joinTokens`: joined tokens come back.
* `Policy.getAll_policyFields_of_isPreflight`: the fields that only a pre-flight is answered with.
* `Service.respond_advertises`: the three fields for every accepted configuration.
-/

namespace OriginGate

open Http Metrics Text

/-! ## Values that are lists -/

/-- The members of a field value that is read as a list with commas between them. -/
def Http.FieldValue.members? (v : FieldValue) : Option (List (List Char)) :=
  (Utf8.decode? v.bytes).map (split ',')

theorem not_comma_of_isTokenChar {c : Char} (h : isTokenChar c = true) : c ≠ ',' := by
  rintro rfl
  exact absurd h (by decide)

namespace Policy

/-- Tokens make a field value that splits into them again. -/
theorem exists_joinTokens {tokens : List (List Char)} (hne : tokens ≠ [])
    (h : ∀ t ∈ tokens, ∀ c ∈ t, isTokenChar c = true) :
    ∃ v, joinTokens tokens = some v ∧ v.members? = some tokens := by
  have hgraphic : ∀ c ∈ join [','] tokens, isGraphic c = true := by
    intro c hc
    rcases mem_join hc with hcomma | ⟨t, ht, hct⟩
    · rw [List.mem_singleton.1 hcomma]
      decide
    · exact isGraphic_of_isTokenChar (h t ht c hct)
  obtain ⟨v, hv⟩ := FieldValue.ofText?_of_isGraphic hgraphic
  have hjoin : joinTokens tokens = some v := by
    rw [joinTokens, List.isEmpty_eq_false_iff.2 hne, if_neg Bool.false_ne_true, hv]
  have hcomma : ∀ t ∈ tokens, ',' ∉ t := fun t ht hc => not_comma_of_isTokenChar (h t ht _ hc) rfl
  refine ⟨v, hjoin, ?_⟩
  rw [FieldValue.members?, bytes_of_joinTokens hjoin, Utf8.decode?_encode, Option.map_some,
    split_join hne hcomma]

end Policy

theorem Http.FieldValue.bytes_ofNat (n : Nat) :
    (FieldValue.ofNat n).bytes = Utf8.encode (decimal n) := by
  refine List.filter_eq_self.2 fun b hb => ?_
  obtain ⟨c, hc, hbc⟩ := List.mem_flatMap.1 hb
  have hchar := isValueChar_of_isGraphic (isGraphic_of_isDigit (isDigit_of_mem_decimal hc))
  rw [← all_isValueByte_utf8EncodeChar] at hchar
  exact List.all_eq_true.1 hchar b hbc

/-! ## The fields of a pre-flight -/

namespace Policy

theorem getAll_policyFields_of_isPreflight (p : Policy) {r : Request} (hr : isPreflight r = true)
    {n : FieldName} (hn : n ∈ preflightNames) :
    (p.policyFields r).getAll n = (p.preflightFields r).getAll n := by
  rw [policyFields, if_pos hr, Fields.getAll_append,
    p.getAll_grants_of_mem_preflightNames r hn, List.nil_append]

theorem getAll_optionalField_ne {m n : FieldName} (h : m ≠ n) (v : Option FieldValue) :
    Fields.getAll (optionalField m v) n = [] :=
  Fields.getAll_eq_nil_iff.2 fun _ hf => name_of_mem_optionalField hf ▸ h

theorem getAll_preflightFields_allowMethods (p : Policy) (r : Request) :
    (p.preflightFields r).getAll .allowMethods = p.advertisedMethods.toList := by
  rw [preflightFields, Fields.getAll_append, Fields.getAll_append, getAll_optionalField,
    getAll_optionalField_ne (by decide), Fields.getAll_cons_ne (by decide), Fields.getAll_nil,
    List.append_nil, List.append_nil]

theorem getAll_preflightFields_allowHeaders (p : Policy) (r : Request) :
    (p.preflightFields r).getAll .allowHeaders = (p.advertisedHeaders r).toList := by
  rw [preflightFields, Fields.getAll_append, Fields.getAll_append, getAll_optionalField,
    getAll_optionalField_ne (by decide), Fields.getAll_cons_ne (by decide), Fields.getAll_nil,
    List.nil_append, List.append_nil]

theorem getAll_preflightFields_maxAge (p : Policy) (r : Request) :
    (p.preflightFields r).getAll .maxAge = [.ofNat p.maxAge.toNat] := by
  rw [preflightFields, Fields.getAll_append, Fields.getAll_append,
    getAll_optionalField_ne (by decide), getAll_optionalField_ne (by decide),
    Fields.getAll_cons_self, Fields.getAll_nil, List.nil_append, List.nil_append]

end Policy

/-! ## What is advertised -/

/-- That the values of a field tell the entries of a list: none where all entries are blank, and
else one that splits at its commas into the entries, each written as `write` says. -/
structure ListsEntries (list : List String) (write : List Char → List Char)
    (values : List FieldValue) : Prop where
  absent : (∀ e ∈ list, ∀ c ∈ e.toList, isBlank c = true) → values = []
  listed : (∃ e ∈ list, ∃ c ∈ e.toList, isBlank c = false) →
    ∃ v, values = [v] ∧ v.members? = some ((entryTexts list).map write)

theorem listsEntries_joinTokens {list : List String} {write : List Char → List Char}
    {tokens : List (List Char)} (htokens : tokens = (entryTexts list).map write)
    (h : ∀ t ∈ tokens, ∀ c ∈ t, isTokenChar c = true) :
    ListsEntries list write (Policy.joinTokens tokens).toList := by
  constructor
  case absent =>
    intro hblank
    rw [htokens, entryTexts_eq_nil_iff.2 hblank]
    rfl
  case listed =>
    rintro ⟨e, he, c, hc, hcblank⟩
    have hne : tokens ≠ [] := by
      intro hnil
      rw [htokens, List.map_eq_nil_iff] at hnil
      rw [entryTexts_eq_nil_iff.1 hnil e he c hc] at hcblank
      cases hcblank
    obtain ⟨v, hv, hmembers⟩ := Policy.exists_joinTokens hne h
    rw [hv]
    exact ⟨v, rfl, by rw [hmembers, htokens]⟩

/-- What the answer to a pre-flight tells of a configuration. -/
structure Advertises (c : Config) (r : Request) (fields : Fields) : Prop where
  methods : ¬ HasWildcard c.methods → ListsEntries c.methods id (fields.getAll .allowMethods)
  allMethods : HasWildcard c.methods → c.credentials = true →
    ∃ v, fields.getAll .allowMethods = [v] ∧
      v.members? = some
        (["DELETE", "GET", "HEAD", "OPTIONS", "PATCH", "POST", "PUT"].map String.toList)
  anyMethod : HasWildcard c.methods → c.credentials = false →
    fields.getAll .allowMethods = [.ofString "*"]
  headers : ¬ HasWildcard c.headers →
    ListsEntries c.headers (·.map Char.toLower) (fields.getAll .allowHeaders)
  /-- With credentials, all headers are those that the request asks for first. -/
  allHeaders : HasWildcard c.headers → c.credentials = true →
    fields.getAll .allowHeaders = (r.fields.get? .requestHeaders).toList
  anyHeader : HasWildcard c.headers → c.credentials = false →
    fields.getAll .allowHeaders = [.ofString "*"]
  maxAge : ∃ v, fields.getAll .maxAge = [v] ∧ v.bytes = Utf8.encode (decimal c.maxAge.toNat)

namespace Policy

theorem advertises_of_getAll {c : Config} {p : Policy} (hp : ofConfig c = .ok p) {r : Request}
    {fields : Fields}
    (hfields : ∀ n ∈ preflightNames, fields.getAll n = (p.preflightFields r).getAll n) :
    Advertises c r fields := by
  obtain ⟨-, -, hmethods, hheaders, hcredentials, hmaxAge⟩ := ofConfig_eq_ok_iff.1 hp
  have htoldMethods : fields.getAll .allowMethods = p.advertisedMethods.toList :=
    (hfields .allowMethods (by decide)).trans (p.getAll_preflightFields_allowMethods r)
  have htoldHeaders : fields.getAll .allowHeaders = (p.advertisedHeaders r).toList :=
    (hfields .allowHeaders (by decide)).trans (p.getAll_preflightFields_allowHeaders r)
  constructor
  case methods =>
    intro hno
    rw [htoldMethods, advertisedMethods]
    cases hm : p.methods with
    | any => exact absurd (Allowed.parse_eq_any_iff.1 (hm ▸ hmethods)) hno
    | list methods =>
      refine listsEntries_joinTokens ?_ ?_
      · exact Allowed.map_chars_of_parse (fun _ _ => Method.chars_of_ofText?) (hm ▸ hmethods)
      · rw [List.forall_mem_map]
        exact fun m _ _ => Method.isTokenChar_of_mem
  case headers =>
    intro hno
    rw [htoldHeaders, advertisedHeaders]
    cases hh : p.headers with
    | any => exact absurd (Allowed.parse_eq_any_iff.1 (hh ▸ hheaders)) hno
    | list headers =>
      refine listsEntries_joinTokens ?_ ?_
      · exact Allowed.map_chars_of_parse (fun _ _ => FieldName.chars_of_ofText?) (hh ▸ hheaders)
      · rw [List.forall_mem_map]
        exact fun n _ _ => FieldName.isTokenChar_of_mem
  case allMethods =>
    intro hstar hc
    obtain ⟨v, hv, hmembers⟩ : ∃ v, joinTokens (allMethods.map (·.chars)) = some v ∧
        v.members? = some (allMethods.map (·.chars)) := by
      refine exists_joinTokens (by decide) ?_
      rw [List.forall_mem_map]
      exact fun m _ _ => Method.isTokenChar_of_mem
    rw [htoldMethods, advertisedMethods, Allowed.eq_any_of_parse hmethods hstar, hcredentials, hc]
    dsimp only
    rw [hv]
    exact ⟨v, rfl, hmembers⟩
  case anyMethod =>
    intro hstar hc
    rw [htoldMethods, advertisedMethods, Allowed.eq_any_of_parse hmethods hstar, hcredentials, hc]
    rfl
  case allHeaders =>
    intro hstar hc
    rw [htoldHeaders, advertisedHeaders, Allowed.eq_any_of_parse hheaders hstar, hcredentials, hc]
  case anyHeader =>
    intro hstar hc
    rw [htoldHeaders, advertisedHeaders, Allowed.eq_any_of_parse hheaders hstar, hcredentials, hc]
    rfl
  case maxAge =>
    rw [hfields .maxAge (by decide), getAll_preflightFields_maxAge, hmaxAge]
    exact ⟨_, rfl, FieldValue.bytes_ofNat _⟩

end Policy

theorem Service.respond_advertises {c : Config} (assets : List Docs.File)
    (hc : c.validate = .ok ()) :
    ∃ p s, Policy.ofConfig c = .ok p ∧ build {} p assets = .ok s ∧
      ∀ (r : Request) (rec : Recorder), isPreflight r = true →
        Advertises c r ((s.respond r).run rec).1.fields := by
  obtain ⟨-, p, hp⟩ := Config.validate_eq_ok_iff.1 hc
  obtain ⟨s, hs, -, rfl⟩ := exists_build (m := {}) assets rfl (Policy.conflict?_of_ofConfig hp)
  refine ⟨s.policy, s, hp, hs, fun r rec hr => ?_⟩
  refine Policy.advertises_of_getAll hp fun n hn => ?_
  rw [s.getAll_respond r rec (Policy.isPolicyField_of_mem_preflightNames hn),
    s.policy.getAll_policyFields_of_isPreflight hr hn]

/-- Methods keep their case and blank entries do not count. A wildcard beside a name tells a page
with credentials the headers that it asks for, whatever its origin. -/
theorem Service.respond_advertises_requested :
    ∃ p s, Policy.ofConfig
        { origins := ["http://[::1]"], methods := [" purge", " ", "GET"],
          headers := ["X-A", "* "], maxAge := 18446744073709551615 } = .ok p ∧
      build {} p [] = .ok s ∧
      ∀ rec, let r : Request := ⟨.options, ⟨"/nowhere".toList, none⟩,
          [(.origin, .ofString "http://b"), (.requestMethod, .ofString "PUT"),
            (.requestHeaders, .ofString "X-B,*")], []⟩
        let fields := ((s.respond r).run rec).1.fields
        (∃ v, fields.getAll .allowMethods = [v] ∧
          v.members? = some ["purge".toList, "GET".toList]) ∧
          fields.getAll .allowHeaders = [.ofString "X-B,*"] ∧
          ∃ v, fields.getAll .maxAge = [v] ∧ v.bytes = Utf8.ofString "18446744073709551615" := by
  obtain ⟨p, s, hp, hs, hall⟩ := respond_advertises
    (c := { origins := ["http://[::1]"], methods := [" purge", " ", "GET"],
            headers := ["X-A", "* "], maxAge := 18446744073709551615 }) [] (by rfl)
  refine ⟨p, s, hp, hs, fun rec => ?_⟩
  intro r fields
  have h := hall r rec (by decide)
  have hno : ¬ HasWildcard [" purge", " ", "GET"] := by
    rw [hasWildcard_iff]
    decide
  have hstar : HasWildcard ["X-A", "* "] := ⟨"* ", by decide, by decide⟩
  obtain ⟨v, hv, hmembers⟩ := (h.methods hno).listed ⟨"GET", by decide, 'G', by decide, by decide⟩
  obtain ⟨w, hw, hbytes⟩ := h.maxAge
  exact ⟨⟨v, hv, hmembers⟩, h.allHeaders hstar rfl, w, hw, hbytes⟩

end OriginGate
