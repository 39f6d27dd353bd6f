import Mathlib.Data.List.Induction
import OriginGate.Config.Load
import OriginGate.Proofs.Config.Decoding

/-!
# What becomes of variables

Only the variables that name a field matter. If each field is named at most once and its text is of
the type of the field, they give a configuration, which does not depend on their order. Otherwise
the first variable at fault is reported: the first that names a field again or whose text is of
another type.

* `Setting.exists_read_iff`: the texts of the type of a field.
* `Setting.decodeFrom_append`: decoding goes on after variables without a fault.
* `Environment.isSound_or_exists_isFaultOf`: otherwise there is a first fault.
* `Config.exists_decode_iff`, `Config.decode_eq_error_iff`: the outcome of decoding.
* `Config.load_of_process`: the outcome of loading where there is no file.
-/

namespace OriginGate

open Text

/-! ## Texts of the type of a field -/

/-- A number up to `limit`: digits, with or without a plus sign before them. -/
def IsNumeral (limit : Nat) (text : String) : Prop :=
  ∃ digits, (text.toList = digits ∨ text.toList = '+' :: digits) ∧ digits ≠ [] ∧
    (∀ c ∈ digits, c.isDigit = true) ∧ Nat.ofDigitChars 10 digits 0 ≤ limit

theorem exists_readNumber_iff {limit : Nat} {text : String} :
    (∃ n, readNumber limit text = .ok n) ↔ IsNumeral limit text := by
  constructor
  · rintro ⟨n, hn⟩
    obtain ⟨digits, hsign, hne, hall, rfl, hle⟩ := natural?_eq_ok_iff.1 (eq_ok_of_mapError hn)
    exact ⟨digits, hsign, hne, hall, hle⟩
  · rintro ⟨digits, hsign, hne, hall, hle⟩
    have hread := natural?_eq_ok_iff.2 ⟨digits, hsign, hne, hall, rfl, hle⟩
    exact ⟨_, congrArg (Except.mapError NumeralError.message) hread⟩

theorem exists_readBool_iff {text : String} :
    (∃ b, readBool text = .ok b) ↔ text = "true" ∨ text = "false" := by
  unfold readBool
  split
  · rename_i htrue
    exact ⟨fun _ => .inl htrue, fun _ => ⟨true, rfl⟩⟩
  · rename_i htrue
    split
    · rename_i hfalse
      exact ⟨fun _ => .inr hfalse, fun _ => ⟨false, rfl⟩⟩
    · rename_i hfalse
      constructor
      · rintro ⟨b, ⟨⟩⟩
      · rintro (rfl | rfl)
        · exact absurd rfl htrue
        · exact absurd rfl hfalse

namespace Setting

/-- The texts of the type of a field. Every text is a list, and the empty text is no port. -/
def Accepts : Setting → String → Prop
  | host, _ | origins, _ | methods, _ | headers, _ | logFilter, _ => True
  | port, text | metricsPort, text => IsNumeral 65535 text
  | maxAge, text => IsNumeral 18446744073709551615 text
  | credentials, text | logJson, text => text = "true" ∨ text = "false"

theorem exists_read_iff {s : Setting} {text : String} :
    (∃ v, s.read text = .ok v) ↔ s.Accepts text := by
  cases s with
  | host | logFilter | origins | methods | headers =>
    exact ⟨fun _ => trivial, fun _ => ⟨_, rfl⟩⟩
  | credentials | logJson => exact exists_readBool_iff
  | port | maxAge => exact exists_readNumber_iff
  | metricsPort =>
    refine Iff.trans ?_ exists_readNumber_iff
    constructor
    · rintro ⟨v, hv⟩
      obtain ⟨n, hn, -⟩ := exists_of_map_eq_ok hv
      exact ⟨n, hn⟩
    · rintro ⟨n, hn⟩
      exact ⟨some n, congrArg (Except.map some) hn⟩

/-- Taking a text and reading it fail for the same reason. -/
theorem assign_of_read {s : Setting} {text reason : String} (h : s.read text = .error reason)
    (c : Config) : s.assign text c = .error reason := by
  cases s with
  | host | logFilter | origins | methods | headers => cases h
  | credentials | logJson | port | maxAge =>
    simp only [read] at h
    simp only [assign, h]
    rfl
  | metricsPort =>
    simp only [read] at h
    cases hn : readNumber 65535 text with
    | ok n =>
      rw [hn] at h
      cases h
    | error reason' =>
      rw [hn] at h
      cases h
      simp only [assign, hn]
      rfl

end Setting

/-! ## Faults -/

namespace Environment

/-- The variables that name some field. -/
def namingFields (env : Environment) : Environment :=
  env.filter fun x => Setting.all.any fun s => s.IsNamedBy x.1

/-- Each field is named at most once, and by a text of its type. -/
structure IsSound (env : Environment) : Prop where
  once : ∀ s : Setting, (s.variablesIn env).length ≤ 1
  typed : ∀ x ∈ env, ∀ s : Setting, s.IsNamedBy x.1 → s.Accepts x.2

/-- What is wrong with the variable `name` of value `text` after the variables of `env`. That it
names a field again is told before its text is looked at. -/
inductive IsFaultOf (env : Environment) (name text : String) : DecodeFault → Prop
  | duplicate {s : Setting} (hname : s.IsNamedBy name) (hseen : s.variablesIn env ≠ []) :
    IsFaultOf env name text (.duplicate s.name)
  | illTyped {s : Setting} {reason : String} (hname : s.IsNamedBy name)
    (hnew : s.variablesIn env = []) (hread : s.read text = .error reason) :
    IsFaultOf env name text (.illTyped reason text name)

theorem any_isNamedBy {s : Setting} {name : String} (h : s.IsNamedBy name) :
    (Setting.all.any fun s => s.IsNamedBy name) = true :=
  List.any_eq_true.2 ⟨s, s.mem_all, decide_eq_true h⟩

theorem namingFields_cons_of_isNamedBy {s : Setting} {name text : String} {env : Environment}
    (h : s.IsNamedBy name) :
    namingFields ((name, text) :: env) = (name, text) :: env.namingFields :=
  List.filter_cons_of_pos (any_isNamedBy h)

theorem namingFields_cons_of_not {name text : String} {env : Environment}
    (h : ∀ s : Setting, ¬ s.IsNamedBy name) :
    namingFields ((name, text) :: env) = env.namingFields := by
  refine List.filter_cons_of_neg fun hany => ?_
  obtain ⟨s, -, hs⟩ := List.any_eq_true.1 hany
  exact h s (of_decide_eq_true hs)

theorem variablesIn_append (s : Setting) (env env' : Environment) :
    s.variablesIn (env ++ env') = s.variablesIn env ++ s.variablesIn env' :=
  List.filter_append ..

theorem isSound_nil : IsSound [] :=
  ⟨fun _ => Nat.zero_le 1, nofun⟩

theorem IsSound.of_append {env env' : Environment} (h : IsSound (env ++ env')) : env.IsSound where
  once s := by
    have hboth := h.once s
    rw [variablesIn_append, List.length_append] at hboth
    omega
  typed x hx := h.typed x (List.mem_append_left env' hx)

/-- The next variable is at fault, or the variables go on to be sound. -/
theorem IsSound.concat_or {env : Environment} (h : env.IsSound) (name text : String) :
    IsSound (env ++ [(name, text)]) ∨ ∃ fault, env.IsFaultOf name text fault := by
  by_cases hnamed : ∃ s : Setting, s.IsNamedBy name
  · obtain ⟨s, hs⟩ := hnamed
    by_cases hseen : s.variablesIn env = []
    · cases hread : s.read text with
      | error reason => exact .inr ⟨_, .illTyped hs hseen hread⟩
      | ok v =>
        have honly : ∀ t : Setting, t.IsNamedBy name → t = s :=
          fun t ht => Setting.eq_of_name_eq (Eq.trans ht (Eq.symm hs))
        left
        constructor
        case once =>
          intro t
          rw [variablesIn_append, List.length_append]
          by_cases ht : t = s
          · subst ht
            rw [hseen, Setting.variablesIn_cons_of_isNamedBy hs]
            exact Nat.le_refl 1
          · rw [Setting.variablesIn_cons_of_not fun hname => ht (honly t hname)]
            exact h.once t
        case typed =>
          intro x hx t ht
          rcases List.mem_append.1 hx with hx | hx
          · exact h.typed x hx t ht
          · obtain rfl := List.mem_singleton.1 hx
            rw [honly t ht]
            exact Setting.exists_read_iff.1 ⟨v, hread⟩
    · exact .inr ⟨_, .duplicate hs hseen⟩
  · left
    have hnone : ∀ t : Setting, ¬ t.IsNamedBy name := fun t ht => hnamed ⟨t, ht⟩
    constructor
    case once =>
      intro t
      rw [variablesIn_append, Setting.variablesIn_cons_of_not (hnone t)]
      exact (List.append_nil _).symm ▸ h.once t
    case typed =>
      intro x hx t ht
      rcases List.mem_append.1 hx with hx | hx
      · exact h.typed x hx t ht
      · obtain rfl := List.mem_singleton.1 hx
        exact absurd ht (hnone t)

/-- Variables are sound, or there is a first one at fault. -/
theorem isSound_or_exists_isFaultOf (env : Environment) :
    env.IsSound ∨ ∃ (before : Environment) (name text : String) (after : Environment)
      (fault : DecodeFault),
      env = before ++ (name, text) :: after ∧ before.IsSound ∧
        before.IsFaultOf name text fault := by
  induction env using List.reverseRecOn with
  | nil => exact .inl isSound_nil
  | append_singleton env x ih =>
    rcases ih with hsound | ⟨before, name, text, after, fault, rfl, hsound, hfault⟩
    · rcases hsound.concat_or x.1 x.2 with hnext | ⟨fault, hfault⟩
      · exact .inl hnext
      · exact .inr ⟨env, x.1, x.2, [], fault, rfl, hsound, hfault⟩
    · exact .inr ⟨before, name, text, after ++ [x], fault, by simp, hsound, hfault⟩

end Environment

/-! ## Decoding up to a variable -/

namespace Setting

open Environment

theorem not_isNamedBy_of_none {name : String} (h : ofVariable? name = none) (s : Setting) :
    ¬ s.IsNamedBy name := by
  rw [isNamedBy_iff, h]
  exact nofun

/-- After sound variables the fields that they name are set, and decoding goes on. -/
theorem decodeFrom_append {before env : Environment} {seen : List Setting} {c : Config}
    (hseen : ∀ s, s ∈ seen ↔ s.variablesIn before ≠ []) (h : IsSound (before ++ env)) :
    ∃ seen' c', (∀ s, s ∈ seen' ↔ s.variablesIn (before ++ env) ≠ []) ∧
      ∀ rest, decodeFrom seen c (env ++ rest) = decodeFrom seen' c' rest := by
  induction env generalizing before seen c with
  | nil => exact ⟨seen, c, by simpa using hseen, fun _ => rfl⟩
  | cons x env ih =>
    obtain ⟨name, text⟩ := x
    have hsplit : before ++ (name, text) :: env = before ++ [(name, text)] ++ env := by simp
    rw [hsplit] at h ⊢
    cases hname : ofVariable? name with
    | none =>
      have hnot := not_isNamedBy_of_none hname
      have hseen' : ∀ s, s ∈ seen ↔ s.variablesIn (before ++ [(name, text)]) ≠ [] := by
        intro s
        rw [variablesIn_append, variablesIn_cons_of_not (hnot s), hseen]
        exact (List.append_nil (s.variablesIn before)).symm ▸ Iff.rfl
      obtain ⟨seen', c', hfields, hrest⟩ := ih (c := c) hseen' h
      refine ⟨seen', c', hfields, fun rest => ?_⟩
      rw [List.cons_append, decodeFrom, hname]
      exact hrest rest
    | some s =>
      have hs : s.IsNamedBy name := isNamedBy_iff.2 hname
      have hnew : s ∉ seen := by
        have honce := h.of_append.once s
        rw [variablesIn_append, variablesIn_cons_of_isNamedBy hs, List.length_append,
          List.length_cons] at honce
        rw [hseen, Ne, Decidable.not_not]
        exact List.eq_nil_of_length_eq_zero (by omega)
      obtain ⟨v, hv⟩ := exists_read_iff.2 (h.typed (name, text) (by simp) s hs)
      obtain ⟨c₁, hc₁⟩ := exists_assign hv c
      have hseen' : ∀ t, t ∈ s :: seen ↔ t.variablesIn (before ++ [(name, text)]) ≠ [] := by
        intro t
        rw [variablesIn_append]
        by_cases ht : t = s
        · subst ht
          simp [variablesIn_cons_of_isNamedBy hs]
        · have hnot : ¬ t.IsNamedBy name := by
            rw [isNamedBy_iff, hname, Option.some_inj]
            exact fun heq => ht heq.symm
          rw [variablesIn_cons_of_not hnot, List.mem_cons, hseen]
          simp [ht, variablesIn]
      obtain ⟨seen', c', hfields, hrest⟩ := ih (c := c₁) hseen' h
      refine ⟨seen', c', hfields, fun rest => ?_⟩
      have hcontains : seen.contains s = false := by simpa using hnew
      rw [List.cons_append, decodeFrom, hname]
      simp only [hcontains, hc₁, Bool.false_eq_true, if_false]
      exact hrest rest

/-- A variable at fault ends decoding. -/
theorem decodeFrom_of_isFaultOf {before env : Environment} {seen : List Setting} {c : Config}
    {name text : String} {fault : DecodeFault}
    (hseen : ∀ s, s ∈ seen ↔ s.variablesIn before ≠ []) (h : before.IsFaultOf name text fault) :
    decodeFrom seen c ((name, text) :: env) = .error fault := by
  cases h with
  | duplicate hname hsome =>
    have hmem := (hseen _).2 hsome
    simp [decodeFrom, isNamedBy_iff.1 hname, hmem]
  | illTyped hname hnew hread =>
    have hmem := mt (hseen _).1 (not_not_intro hnew)
    simp [decodeFrom, isNamedBy_iff.1 hname, hmem, assign_of_read hread]

/-- Variables that name no field are passed over. -/
theorem decodeFrom_namingFields (seen : List Setting) (c : Config) (env : Environment) :
    decodeFrom seen c env.namingFields = decodeFrom seen c env := by
  induction env generalizing seen c with
  | nil => rfl
  | cons x env ih =>
    obtain ⟨name, text⟩ := x
    cases hname : ofVariable? name with
    | none =>
      rw [namingFields_cons_of_not (not_isNamedBy_of_none hname), ih, decodeFrom, hname]
    | some s =>
      rw [namingFields_cons_of_isNamedBy (isNamedBy_iff.2 hname), decodeFrom, decodeFrom, hname]
      simp only [ih]

theorem variablesIn_namingFields (s : Setting) (env : Environment) :
    s.variablesIn env.namingFields = s.variablesIn env := by
  rw [variablesIn, variablesIn, namingFields, List.filter_filter]
  refine List.filter_congr fun x _ => ?_
  by_cases hs : s.IsNamedBy x.1
  · rw [any_isNamedBy hs, Bool.and_true]
  · simp [hs]

end Setting

namespace Environment

theorem isSound_namingFields_iff {env : Environment} : env.namingFields.IsSound ↔ env.IsSound := by
  have honce : ∀ s : Setting, s.variablesIn env.namingFields = s.variablesIn env :=
    fun s => s.variablesIn_namingFields env
  constructor
  · rintro ⟨hone, htyped⟩
    refine ⟨fun s => honce s ▸ hone s, fun x hx s hs => htyped x ?_ s hs⟩
    exact List.mem_filter.2 ⟨hx, any_isNamedBy hs⟩
  · rintro ⟨hone, htyped⟩
    exact ⟨fun s => (honce s).symm ▸ hone s, fun x hx => htyped x (List.mem_of_mem_filter hx)⟩

theorem IsSound.perm {env env' : Environment} (h : env.IsSound) (hperm : env'.Perm env) :
    env'.IsSound where
  once s := (hperm.filter _).length_eq.symm ▸ h.once s
  typed x hx := h.typed x (hperm.mem_iff.1 hx)

end Environment

/-! ## The outcome -/

namespace Config

variable {env env' : Environment} {c : Config} {fault : DecodeFault}

/-- Sound variables are decoded, whatever follows them. -/
theorem exists_decodeFrom_of_isSound (h : env.IsSound) :
    ∃ seen c, (∀ s : Setting, s ∈ seen ↔ s.variablesIn env ≠ []) ∧
      ∀ rest, decode (env ++ rest) = decodeFrom seen c rest := by
  have hnone : ∀ s : Setting, s ∈ ([] : List Setting) ↔ s.variablesIn [] ≠ [] :=
    fun s => by simp [Setting.variablesIn]
  obtain ⟨seen, c, hseen, hrest⟩ := Setting.decodeFrom_append hnone h
  exact ⟨seen, c, hseen, hrest⟩

theorem decode_of_isFaultOf {before after : Environment} {name text : String}
    (hsound : before.IsSound) (hfault : before.IsFaultOf name text fault) :
    decode (before ++ (name, text) :: after) = .error fault := by
  obtain ⟨seen, c, hseen, hrest⟩ := exists_decodeFrom_of_isSound hsound
  rw [hrest]
  exact Setting.decodeFrom_of_isFaultOf hseen hfault

theorem exists_decode_iff : (∃ c, decode env = .ok c) ↔ env.IsSound := by
  constructor
  · rintro ⟨c, hc⟩
    rcases Environment.isSound_or_exists_isFaultOf env with
      hsound | ⟨before, name, text, after, fault, rfl, hsound, hfault⟩
    · exact hsound
    · rw [decode_of_isFaultOf hsound hfault] at hc
      cases hc
  · intro h
    obtain ⟨seen, c, -, hrest⟩ := exists_decodeFrom_of_isSound h
    have hdecode := hrest []
    rw [List.append_nil] at hdecode
    exact ⟨c, hdecode⟩

theorem decode_eq_error_iff :
    decode env = .error fault ↔
      ∃ (before : Environment) (name text : String) (after : Environment),
        env = before ++ (name, text) :: after ∧
        before.IsSound ∧ before.IsFaultOf name text fault := by
  constructor
  · intro h
    rcases Environment.isSound_or_exists_isFaultOf env with
      hsound | ⟨before, name, text, after, first, rfl, hsound, hfirst⟩
    · obtain ⟨c, hc⟩ := exists_decode_iff.2 hsound
      rw [hc] at h
      cases h
    · rw [decode_of_isFaultOf hsound hfirst] at h
      cases h
      exact ⟨before, name, text, after, rfl, hsound, hfirst⟩
  · rintro ⟨before, name, text, after, rfl, hsound, hfault⟩
    exact decode_of_isFaultOf hsound hfault

theorem decode_congr (h : env'.namingFields = env.namingFields) : decode env' = decode env := by
  rw [decode, ← Setting.decodeFrom_namingFields, h, Setting.decodeFrom_namingFields, decode]

/-- The order of variables that can be decoded does not matter. -/
theorem decode_perm (h : env'.namingFields.Perm env.namingFields) (hc : decode env = .ok c) :
    decode env' = .ok c := by
  have hsound := Environment.isSound_namingFields_iff.2 (exists_decode_iff.1 ⟨c, hc⟩)
  obtain ⟨c', hc'⟩ :=
    exists_decode_iff.2 (Environment.isSound_namingFields_iff.1 (hsound.perm h))
  have hfields : ∀ s : Setting, (s.variablesIn env').Perm (s.variablesIn env) := by
    intro s
    rw [← s.variablesIn_namingFields env', ← s.variablesIn_namingFields env]
    exact h.filter _
  refine hc'.trans (congrArg Except.ok (Setting.eq_of_get_eq fun s => ?_))
  have hperm := hfields s
  rcases Setting.decodedFrom_of_decode hc s with ⟨name, text, hin, hread⟩ | ⟨hnone, husual⟩
  · rw [hin, List.perm_singleton] at hperm
    rcases Setting.decodedFrom_of_decode hc' s with ⟨name', text', hin', hread'⟩ | ⟨hnone', -⟩
    · rw [hperm] at hin'
      cases hin'
      exact Except.ok.inj (hread'.symm.trans hread)
    · rw [hnone'] at hperm
      cases hperm
  · rw [hnone, List.perm_nil] at hperm
    rcases Setting.decodedFrom_of_decode hc' s with ⟨name', text', hin', -⟩ | ⟨-, husual'⟩
    · rw [hperm] at hin'
      cases hin'
    · rw [husual', husual]

/-! ## Loading -/

theorem load_of_no_file (env : Environment) :
    load env ⟨none, none⟩ = (decode env).mapError .decode := rfl

theorem load_of_process (env : Environment) :
    ((∃ c, load env ⟨none, none⟩ = .ok c) ↔ env.IsSound) ∧
      (∀ fault, load env ⟨none, none⟩ = .error fault ↔
        ∃ (before : Environment) (name text : String) (after : Environment) (first : DecodeFault),
          env = before ++ (name, text) :: after ∧ before.IsSound ∧
            before.IsFaultOf name text first ∧ fault = .decode first) ∧
      ∀ env' : Environment,
        (env'.namingFields = env.namingFields → load env' ⟨none, none⟩ = load env ⟨none, none⟩) ∧
          ∀ c, env'.namingFields.Perm env.namingFields → load env ⟨none, none⟩ = .ok c →
            load env' ⟨none, none⟩ = .ok c := by
  refine ⟨?_, ?_, fun env' => ⟨fun h => ?_, fun c h hc => ?_⟩⟩
  · rw [← exists_decode_iff]
    constructor
    · rintro ⟨c, hc⟩
      exact ⟨c, eq_ok_of_mapError hc⟩
    · rintro ⟨c, hc⟩
      exact ⟨c, by rw [load_of_no_file, hc]; rfl⟩
  · intro fault
    constructor
    · intro h
      rw [load_of_no_file] at h
      cases hdecode : decode env with
      | ok c =>
        rw [hdecode] at h
        cases h
      | error first =>
        rw [hdecode] at h
        obtain ⟨before, name, text, after, henv, hsound, hfirst⟩ := decode_eq_error_iff.1 hdecode
        exact ⟨before, name, text, after, first, henv, hsound, hfirst, (Except.error.inj h).symm⟩
    · rintro ⟨before, name, text, after, first, rfl, hsound, hfirst, rfl⟩
      rw [load_of_no_file, decode_of_isFaultOf hsound hfirst]
      rfl
  · rw [load_of_no_file, load_of_no_file, decode_congr h]
  · rw [load_of_no_file, decode_perm h (eq_ok_of_mapError hc)]
    rfl

/-- A port may be written with a sign and zeros but not be left empty, which is told before a later
variable names another port again. -/
theorem load_of_process_contested :
    (∃ c, load [("log_json", "true"), ("HOME", "/"), ("METRICS_PORT", "+065535")] ⟨none, none⟩ =
        .ok c ∧ c.metricsPort = some 65535 ∧ c.logJson = true) ∧
      load [("PORT", "80"), ("HOME", "/"), ("metrics_port", ""), ("Port", "x")] ⟨none, none⟩ =
        .error (.decode
          (.illTyped "cannot parse integer from empty string" "" "metrics_port")) := by
  constructor
  · obtain ⟨-, -, hothers⟩ := load_of_process [("METRICS_PORT", "+065535"), ("log_json", "true")]
    let c : Config := { metricsPort := some 65535, logJson := true }
    exact ⟨c, (hothers _).2 c (by decide) (by rfl), rfl, rfl⟩
  · obtain ⟨-, hfault, hothers⟩ :=
      load_of_process [("PORT", "80"), ("metrics_port", ""), ("Port", "x")]
    rw [(hothers _).1 (by decide), hfault]
    have hport : Environment.IsSound [("PORT", "80")] :=
      exists_decode_iff.1 ⟨{ port := 80 }, by rfl⟩
    exact ⟨[("PORT", "80")], _, _, [("Port", "x")], _, rfl, hport,
      .illTyped (s := .metricsPort) (by decide) (by decide) (by rfl), rfl⟩

end Config

end OriginGate
