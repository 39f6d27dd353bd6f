import OriginGate.Config.Basic
import OriginGate.Config.Fault
import OriginGate.Text.Split

/-!
# Decoding a configuration from variables

A variable sets the field of the configuration that its name is in any case; variables that
name no field do not count. The first variable that names a field twice or has a value of the
wrong type is reported.

* `Environment.get?_set_of_ne`: the variables that are not set keep their values.
* `Environment.get?_append`: of two values of a variable the first counts.
-/

namespace OriginGate

open Text

/-- Variables with their values, in order; each name occurs once. -/
abbrev Environment := List (String × String)

namespace Environment

def get? (env : Environment) (name : String) : Option String :=
  (env.find? (·.1 = name)).map (·.2)

/-- The variables with one set: in place if it is there, else at the end. -/
def set : Environment → String → String → Environment
  | [], name, value => [(name, value)]
  | (n, v) :: rest, name, value =>
    if n = name then (name, value) :: rest else (n, v) :: set rest name value

theorem get?_set_of_ne {env : Environment} {name value other : String} (h : name ≠ other) :
    (env.set name value).get? other = env.get? other := by
  induction env with
  | nil => simp [set, get?, h]
  | cons x env ih =>
    obtain ⟨n, v⟩ := x
    by_cases hn : n = name
    · simp [set, get?, hn, h]
    · by_cases ho : n = other
      · simp [set, get?, ho, h.symm]
      · simpa [set, get?, hn, ho] using ih

theorem set_eq_append {env : Environment} {name value : String} (h : env.get? name = none) :
    env.set name value = env ++ [(name, value)] := by
  induction env with
  | nil => rfl
  | cons x env ih =>
    obtain ⟨n, v⟩ := x
    by_cases hn : n = name
    · simp [get?, hn] at h
    · have hrest : get? env name = none := by simpa [get?, hn] using h
      simp [set, hn, ih hrest]

theorem mem_names_of_get? {env : Environment} {name value : String}
    (h : env.get? name = some value) : name ∈ env.map (·.1) := by
  obtain ⟨x, hx, rfl⟩ := Option.map_eq_some_iff.1 h
  have hname : x.1 = name := by simpa using List.find?_some hx
  exact List.mem_map.2 ⟨x, List.mem_of_find?_eq_some hx, hname⟩

theorem not_mem_names_of_get? {env : Environment} {name : String} (h : env.get? name = none) :
    name ∉ env.map (·.1) := by
  intro hmem
  obtain ⟨x, hx, hname⟩ := List.mem_map.1 hmem
  have hnot := List.find?_eq_none.1 (Option.map_eq_none_iff.1 h) x hx
  exact hnot (decide_eq_true hname)

theorem get?_eq_none_of_not_mem {env : Environment} {name : String}
    (h : name ∉ env.map (·.1)) : env.get? name = none := by
  cases hget : env.get? name with
  | none => rfl
  | some value => exact absurd (mem_names_of_get? hget) h

theorem get?_append (env env' : Environment) (name : String) :
    get? (env ++ env') name = (env.get? name).or (env'.get? name) := by
  unfold get?
  rw [List.find?_append]
  cases List.find? (·.1 = name) env <;> rfl

end Environment

/-! ## Fields -/

inductive Setting where
  | host
  | port
  | origins
  | methods
  | headers
  | credentials
  | maxAge
  | metricsPort
  | logFilter
  | logJson
  deriving DecidableEq, Repr

namespace Setting

def all : List Setting :=
  [host, port, origins, methods, headers, credentials, maxAge, metricsPort, logFilter, logJson]

/-- The name of a field in lower case. -/
def name : Setting → String
  | host => "host"
  | port => "port"
  | origins => "cors_allowed_origins"
  | methods => "cors_allow_methods"
  | headers => "cors_allow_headers"
  | credentials => "cors_allow_credentials"
  | maxAge => "cors_max_age_secs"
  | metricsPort => "metrics_port"
  | logFilter => "rust_log"
  | logJson => "log_json"

/-- The field that a variable names. -/
def ofVariable? (variableName : String) : Option Setting :=
  all.find? fun s => s.name.toList = variableName.toList.map Char.toLower

end Setting

/-! ## Values -/

def readBool (value : String) : Except String Bool :=
  if value = "true" then .ok true
  else if value = "false" then .ok false
  else .error "provided string was not \x60true\x60 or \x60false\x60"

/-- Reads a number up to `limit`. -/
def readNumber (limit : Nat) (value : String) : Except String Nat :=
  (natural? limit value.toList).mapError NumeralError.message

/-- Reads a list: the items between commas, and no item from the empty text. -/
def readList (value : String) : List String :=
  if value.toList.isEmpty then [] else (split ',' value.toList).map String.ofList

/-- The configuration with a field read from a value, or the reason why it cannot be. -/
def Setting.assign (s : Setting) (value : String) (c : Config) : Except String Config :=
  match s with
  | host => .ok { c with host := value }
  | port => (readNumber 65535 value).map fun n => { c with port := n.toUInt16 }
  | origins => .ok { c with origins := readList value }
  | methods => .ok { c with methods := readList value }
  | headers => .ok { c with headers := readList value }
  | credentials => (readBool value).map fun b => { c with credentials := b }
  | maxAge =>
    (readNumber 18446744073709551615 value).map fun n => { c with maxAge := n.toUInt64 }
  | metricsPort =>
    (readNumber 65535 value).map fun n => { c with metricsPort := some n.toUInt16 }
  | logFilter => .ok { c with logFilter := value }
  | logJson => (readBool value).map fun b => { c with logJson := b }

/-! ## Decoding -/

/-- Decodes the rest of the variables, after those that set the fields `seen` of `c`. -/
def decodeFrom (seen : List Setting) (c : Config) : Environment → Except DecodeFault Config
  | [] => .ok c
  | (name, value) :: env =>
    match Setting.ofVariable? name with
    | none => decodeFrom seen c env
    | some s =>
      if seen.contains s then .error (.duplicate s.name)
      else
        match s.assign value c with
        | .ok c' => decodeFrom (s :: seen) c' env
        | .error reason => .error (.illTyped reason value name)

/-- The configuration that the variables give; fields that none of them names have their usual
values. -/
def Config.decode (env : Environment) : Except DecodeFault Config :=
  decodeFrom [] {} env

end OriginGate
