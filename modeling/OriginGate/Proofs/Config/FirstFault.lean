import OriginGate.Proofs.Config.Validate
import OriginGate.Proofs.Cors.Allowed

/-!
# The fault that is reported

A configuration can break any number of rules at once. The rules have an order: those of the
ports come first, then those of the origins, the methods and the headers. The fault that is
reported is that of the first rule broken, and it names the first entry that breaks it.

* `Config.Rule`: the rules in their order; `Config.Keeps` says what each asks for, and
  `Config.Reports` what is reported where it is broken.
* `checkOrigin_eq_error_iff`: why a text is no origin.
* `Config.validate_eq`: checking a configuration is checking it against one rule after the other.
* `Config.validate_first_fault`: which configurations are accepted, and what is reported of the
  others.
-/

namespace OriginGate

open Http Text

/-! ## Origins -/

/-- The address of a web page, written just as browsers write its origin. -/
def IsWebOrigin (text : String) : Prop :=
  ∃ (u : Url) (w : WebScheme) (o : Origin), Url.read text.toList = .ok u ∧ u.scheme = w.name ∧
    u.origin? = some o ∧ o.render = text.toList

/-- Why a text is not the origin of a web page. -/
inductive OriginFault.Explains (text : String) : OriginFault → Prop
  | unreadable {fault : Url.Fault} (h : Url.read text.toList = .error fault) :
    Explains text (.unreadable fault)
  | unsupportedScheme {u : Url} (h : Url.read text.toList = .ok u)
      (hscheme : ∀ w : WebScheme, u.scheme ≠ w.name) :
    Explains text (.unsupportedScheme (String.ofList u.scheme))
  | otherForm {u : Url} {o : Origin} (h : Url.read text.toList = .ok u)
      (horigin : u.origin? = some o) (hform : o.render ≠ text.toList) :
    Explains text (.otherForm (String.ofList o.render))

theorem checkOrigin_eq_ok_iff_isWebOrigin {text : String} :
    checkOrigin text = .ok () ↔ IsWebOrigin text := by
  rw [checkOrigin_eq_ok_iff]
  constructor
  · rintro ⟨u, o, hu, ho, hrender⟩
    exact ⟨u, o.scheme, o, hu, (Url.origin?_eq_some_iff.1 ho).1, ho, hrender⟩
  · rintro ⟨u, w, o, hu, -, ho, hrender⟩
    exact ⟨u, o, hu, ho, hrender⟩

theorem Url.origin?_eq_none_iff {text : List Char} {u : Url} (h : read text = .ok u) :
    u.origin? = none ↔ ∀ w : WebScheme, u.scheme ≠ w.name := by
  constructor
  · intro hnone w hw
    obtain ⟨o, ho, -⟩ := exists_origin?_of_read h hw
    rw [hnone] at ho
    cases ho
  · intro hscheme
    rw [Option.eq_none_iff_forall_ne_some]
    exact fun o ho => hscheme o.scheme (origin?_eq_some_iff.1 ho).1

theorem checkOrigin_eq_error_iff {text : String} {why : OriginFault} :
    checkOrigin text = .error why ↔ why.Explains text := by
  constructor
  · intro h
    unfold checkOrigin at h
    split at h
    · rename_i fault hread
      cases h
      exact .unreadable hread
    · rename_i u hread
      split at h
      · rename_i hnone
        cases h
        exact .unsupportedScheme hread ((Url.origin?_eq_none_iff hread).1 hnone)
      · rename_i o horigin
        split at h
        · cases h
        · rename_i hform
          cases h
          exact .otherForm hread horigin hform
  · intro h
    cases h with
    | unreadable h => simp [checkOrigin, h]
    | unsupportedScheme h hscheme =>
      simp [checkOrigin, h, (Url.origin?_eq_none_iff h).2 hscheme]
    | otherForm h horigin hform => simp [checkOrigin, h, horigin, hform]

theorem checkOrigins_eq (ss : List String) :
    checkOrigins ss = forM ss fun s =>
      (checkOrigin s).mapError fun why => .invalidOrigin s why.message := by
  induction ss with
  | nil => rfl
  | cons s ss ih =>
    rw [List.forM_cons, ← ih, checkOrigins]
    cases checkOrigin s <;> rfl

namespace Config

/-! ## The rules -/

/-- The rules that a configuration has to keep. -/
inductive Rule where
  | port
  | metricsPort
  | someOrigin
  | origins
  | methods
  | headers

/-- The rules in the order in which they are checked. -/
def Rule.all : List Rule :=
  [port, metricsPort, someOrigin, origins, methods, headers]

theorem Rule.mem_all (rule : Rule) : rule ∈ all := by
  cases rule <;> simp [all]

/-- What a rule asks for. -/
def Keeps (c : Config) : Rule → Prop
  | .port => c.port ≠ 0
  | .metricsPort => c.metricsPort ≠ some c.port
  | .someOrigin => ∃ e ∈ c.origins, ∃ ch ∈ e.toList, isBlank ch = false
  | .origins => ∀ e ∈ entries c.origins, IsWebOrigin e
  | .methods => HasWildcard c.methods ∨ ∀ e ∈ entries c.methods, IsToken e
  | .headers => HasWildcard c.headers ∨ ∀ e ∈ entries c.headers, IsHeaderName e

/-- What is reported where a rule is broken. -/
def Reports (c : Config) : Rule → ConfigFault → Prop
  | .port, fault => fault = .invalidPort
  | .metricsPort, fault => fault = .metricsPortCollision c.port
  | .someOrigin, fault => fault = .noOrigins
  | .origins, fault =>
    ∃ e why, IsFirstWithout IsWebOrigin (entries c.origins) e ∧ OriginFault.Explains e why ∧
      fault = .invalidOrigin e why.message
  | .methods, fault =>
    ∃ e, IsFirstWithout IsToken (entries c.methods) e ∧ fault = .invalidMethod e
  | .headers, fault =>
    ∃ e, IsFirstWithout IsHeaderName (entries c.headers) e ∧ fault = .invalidHeader e

/-- Checks that every entry of a list names something, unless there is a wildcard. -/
def checkNames {α : Type} (read? : List Char → Option α) (broken : String → ConfigFault)
    (list : List String) : Except ConfigFault Unit :=
  ((Allowed.parse read? list).mapError broken).map fun _ => ()

/-- Checks a configuration against one rule. -/
def check (c : Config) : Rule → Except ConfigFault Unit
  | .port => if c.port ≠ 0 then .ok () else .error .invalidPort
  | .metricsPort =>
    if c.metricsPort ≠ some c.port then .ok () else .error (.metricsPortCollision c.port)
  | .someOrigin => if c.allowedOrigins ≠ [] then .ok () else .error .noOrigins
  | .origins => checkOrigins c.allowedOrigins
  | .methods => checkNames Method.ofText? .invalidMethod c.methods
  | .headers => checkNames FieldName.ofText? .invalidHeader c.headers

/-! ## One rule -/

section Names

variable {α : Type} {read? : List Char → Option α} {Names : String → Prop}
  (hread : ∀ {e : String}, (read? e.toList).isSome = true ↔ Names e)
  {list : List String} {broken : String → ConfigFault} {fault : ConfigFault}

include hread

theorem checkNames_eq_ok_iff :
    checkNames read? broken list = .ok () ↔
      HasWildcard list ∨ ∀ e ∈ entries list, Names e := by
  simp only [checkNames, map_eq_ok_iff, mapError_eq_ok_iff, Allowed.exists_parse_iff, hread]

theorem checkNames_eq_error_iff :
    checkNames read? broken list = .error fault ↔
      ¬ (HasWildcard list ∨ ∀ e ∈ entries list, Names e) ∧
        ∃ e, IsFirstWithout Names (entries list) e ∧ fault = broken e := by
  simp only [checkNames, map_eq_error_iff, mapError_eq_error_iff, Allowed.parse_eq_error_iff,
    hread, not_or]
  constructor
  · rintro ⟨e, ⟨hstar, he⟩, rfl⟩
    exact ⟨⟨hstar, exists_isFirstWithout_iff.1 ⟨e, he⟩⟩, e, he, rfl⟩
  · rintro ⟨⟨hstar, -⟩, e, he, rfl⟩
    exact ⟨e, ⟨hstar, he⟩, rfl⟩

end Names

variable {c : Config} {fault : ConfigFault}

theorem someOrigin_iff :
    c.allowedOrigins ≠ [] ↔ ∃ e ∈ c.origins, ∃ ch ∈ e.toList, isBlank ch = false := by
  simp only [allowedOrigins, Ne, entries_eq_nil_iff, not_forall, Bool.not_eq_true, exists_prop]

theorem check_eq_ok_iff_keeps (rule : Rule) : c.check rule = .ok () ↔ c.Keeps rule := by
  cases rule with
  | port | metricsPort => exact test_eq_ok_iff
  | someOrigin => exact test_eq_ok_iff.trans someOrigin_iff
  | origins =>
    simp only [check, checkOrigins_eq_ok_iff, checkOrigin_eq_ok_iff_isWebOrigin]
    rfl
  | methods => exact checkNames_eq_ok_iff isSome_method_iff
  | headers => exact checkNames_eq_ok_iff isSome_fieldName_iff

theorem check_eq_error_iff (rule : Rule) :
    c.check rule = .error fault ↔ ¬ c.Keeps rule ∧ c.Reports rule fault := by
  cases rule with
  | port | metricsPort => exact test_eq_error_iff
  | someOrigin => exact test_eq_error_iff.trans (and_congr_left' (not_congr someOrigin_iff))
  | origins =>
    simp only [check, checkOrigins_eq, forM_eq_error_iff, mapError_eq_ok_iff,
      mapError_eq_error_iff, checkOrigin_eq_ok_iff_isWebOrigin, checkOrigin_eq_error_iff]
    constructor
    · rintro ⟨e, he, why, hwhy, hfault⟩
      exact ⟨exists_isFirstWithout_iff.1 ⟨e, he⟩, e, why, he, hwhy, hfault⟩
    · rintro ⟨-, e, why, he, hwhy, hfault⟩
      exact ⟨e, he, why, hwhy, hfault⟩
  | methods => exact checkNames_eq_error_iff isSome_method_iff
  | headers => exact checkNames_eq_error_iff isSome_fieldName_iff

/-! ## All rules -/

/-- Making a policy of checked origins leaves the methods and the headers to be checked. -/
theorem map_ofConfig (h : c.PassesChecks) :
    ((Policy.ofConfig c).map fun _ => ()) = (do c.check .methods; c.check .headers) := by
  obtain ⟨vs, hvs⟩ := Policy.exists_readOrigins fun s hs =>
    isGraphic_of_checkOrigin (h.origins s hs)
  rw [Policy.ofConfig_eq, hvs]
  cases vs with
  | nil =>
    have hnone : c.allowedOrigins = [] := by simpa using Policy.map_bytes_of_readOrigins hvs
    exact absurd hnone h.someOrigin
  | cons v vs =>
    simp only [check, checkNames]
    cases Allowed.parse Method.ofText? c.methods with
    | error text => rfl
    | ok methods => cases Allowed.parse FieldName.ofText? c.headers <;> rfl

theorem validate_eq_checks (c : Config) :
    c.validate = (do
      c.check .port
      c.check .metricsPort
      c.check .someOrigin
      c.check .origins
      (Policy.ofConfig c).map fun _ => ()) := by
  simp only [validate, check, test_bind, Ne, List.isEmpty_iff]
  split_ifs <;> rfl

theorem validate_eq (c : Config) : c.validate = forM Rule.all c.check := by
  simp only [validate_eq_checks, Rule.all, List.forM_cons, List.forM_nil, bind_pure_unit]
  refine bind_congr_of_ok fun _ hport => bind_congr_of_ok fun _ hmetrics =>
    bind_congr_of_ok fun _ hsome => bind_congr_of_ok fun _ horigins => ?_
  exact map_ofConfig
    ⟨test_eq_ok_iff.1 hport, test_eq_ok_iff.1 hmetrics, test_eq_ok_iff.1 hsome,
      checkOrigins_eq_ok_iff.1 horigins⟩

/-- A configuration is accepted if it keeps all rules; otherwise the fault of the first rule that
it breaks is reported, of the first entry that breaks it. -/
theorem validate_first_fault (c : Config) :
    (c.validate = .ok () ↔ ∀ rule, c.Keeps rule) ∧
      ∀ fault, c.validate = .error fault ↔
        ∃ rule, IsFirstWithout c.Keeps Rule.all rule ∧ c.Reports rule fault := by
  constructor
  · rw [validate_eq, forM_eq_ok_iff]
    simp only [Rule.mem_all, true_implies, check_eq_ok_iff_keeps]
  · intro fault
    simp only [validate_eq, forM_eq_error_iff, check_eq_ok_iff_keeps, check_eq_error_iff]
    constructor
    · rintro ⟨rule, hfirst, -, hreports⟩
      exact ⟨rule, hfirst, hreports⟩
    · rintro ⟨rule, hfirst, hreports⟩
      exact ⟨rule, hfirst, hfirst.lacks, hreports⟩

end Config

end OriginGate
