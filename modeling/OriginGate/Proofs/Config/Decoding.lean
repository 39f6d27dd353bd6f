import Mathlib.Data.List.Nodup
import OriginGate.Config.Environment

/-!
# Each field by itself

Variables are decoded in turn, each changing the configuration decoded so far. The outcome is said
here for one field at a time: it depends on the variables that name the field only, and there is
at most one.

* `Setting.read_of_assign`, `Setting.get_of_assign`: what one variable changes.
* `Setting.decodeFrom_cons_eq_ok_iff`: one step of decoding.
* `Setting.exists_decodeFrom`: variables that can be decoded.
* `Setting.decodedFrom_of_decode`: each field of a configuration that was decoded.
-/

namespace OriginGate

open Text

theorem exists_of_map_eq_ok {ε α β : Type} {f : α → β} {x : Except ε α} {b : β}
    (h : x.map f = .ok b) : ∃ a, x = .ok a ∧ f a = b := by
  cases x with
  | error e => cases h
  | ok a =>
    cases h
    exact ⟨a, rfl, rfl⟩

theorem eq_ok_of_mapError {ε ε' α : Type} {f : ε → ε'} {x : Except ε α} {a : α}
    (h : x.mapError f = .ok a) : x = .ok a := by
  cases x with
  | error e => cases h
  | ok b =>
    cases h
    rfl

theorem readNumber_le {limit n : Nat} {text : String} (h : readNumber limit text = .ok n) :
    n ≤ limit :=
  natural?_le (eq_ok_of_mapError h)

namespace Setting

/-! ## Values of fields -/

/-- The values of a field; ports and seconds are taken as numbers. -/
def Value : Setting → Type
  | host | logFilter => String
  | origins | methods | headers => List String
  | port | maxAge => Nat
  | metricsPort => Option Nat
  | credentials | logJson => Bool

def get : (s : Setting) → Config → s.Value
  | host, c => c.host
  | port, c => c.port.toNat
  | origins, c => c.origins
  | methods, c => c.methods
  | headers, c => c.headers
  | credentials, c => c.credentials
  | maxAge, c => c.maxAge.toNat
  | metricsPort, c => c.metricsPort.map (·.toNat)
  | logFilter, c => c.logFilter
  | logJson, c => c.logJson

/-- The value of a field that a text gives. -/
def read : (s : Setting) → String → Except String s.Value
  | host, text | logFilter, text => .ok text
  | origins, text | methods, text | headers, text => .ok (readList text)
  | port, text => readNumber 65535 text
  | maxAge, text => readNumber 18446744073709551615 text
  | metricsPort, text => (readNumber 65535 text).map some
  | credentials, text | logJson, text => readBool text

/-- A configuration is told by its fields. -/
theorem eq_of_get_eq {c c' : Config} (h : ∀ s : Setting, s.get c = s.get c') : c = c' := by
  obtain ⟨⟩ := c
  obtain ⟨⟩ := c'
  have hport := UInt16.toNat_inj.1 (h port)
  have hmaxAge := UInt64.toNat_inj.1 (h maxAge)
  have hmetrics := Option.map_injective (fun _ _ => UInt16.toNat_inj.1) (h metricsPort)
  simp only [Config.mk.injEq]
  exact ⟨h host, hport, h origins, h methods, h headers, h credentials, hmaxAge, hmetrics,
    h logFilter, h logJson⟩

/-! ## One variable -/

theorem read_of_assign {s : Setting} {text : String} {c c' : Config}
    (h : s.assign text c = .ok c') : s.read text = .ok (s.get c') := by
  cases s with
  | host | logFilter | origins | methods | headers =>
    cases h
    rfl
  | credentials | logJson =>
    obtain ⟨b, hb, rfl⟩ := exists_of_map_eq_ok h
    exact hb
  | port =>
    obtain ⟨n, hn, rfl⟩ := exists_of_map_eq_ok h
    have hle := readNumber_le hn
    have hto : n.toUInt16.toNat = n := Nat.mod_eq_of_lt (by omega)
    exact hn.trans (congrArg Except.ok hto.symm)
  | maxAge =>
    obtain ⟨n, hn, rfl⟩ := exists_of_map_eq_ok h
    have hle := readNumber_le hn
    have hto : n.toUInt64.toNat = n := Nat.mod_eq_of_lt (by omega)
    exact hn.trans (congrArg Except.ok hto.symm)
  | metricsPort =>
    obtain ⟨n, hn, rfl⟩ := exists_of_map_eq_ok h
    have hle := readNumber_le hn
    have hto : n.toUInt16.toNat = n := Nat.mod_eq_of_lt (by omega)
    simp only [read, get, hn, hto, Except.map, Option.map_some]

theorem get_of_assign {s t : Setting} {text : String} {c c' : Config}
    (h : s.assign text c = .ok c') (hne : t ≠ s) : t.get c' = t.get c := by
  cases s with
  | host | logFilter | origins | methods | headers =>
    cases h
    cases t <;> first | rfl | exact absurd rfl hne
  | credentials | logJson | port | maxAge | metricsPort =>
    obtain ⟨n, -, rfl⟩ := exists_of_map_eq_ok h
    cases t <;> first | rfl | exact absurd rfl hne

/-- Whatever else is configured, a variable that can be read is taken. -/
theorem exists_assign {s : Setting} {text : String} {v : s.Value}
    (h : s.read text = .ok v) (c : Config) : ∃ c', s.assign text c = .ok c' := by
  cases s with
  | host | logFilter | origins | methods | headers => exact ⟨_, rfl⟩
  | credentials | logJson | port | maxAge =>
    simp only [read] at h
    simp only [assign, h]
    exact ⟨_, rfl⟩
  | metricsPort =>
    obtain ⟨n, hn, -⟩ := exists_of_map_eq_ok h
    simp only [assign, hn]
    exact ⟨_, rfl⟩

/-! ## The variables of a field -/

/-- A variable names the field if its name in lower case is that of the field. Only ASCII letters
matter: beyond them the Kelvin sign alone has a lower case in ASCII, `k`, which no field has. -/
def IsNamedBy (s : Setting) (variableName : String) : Prop :=
  s.name.toList = variableName.toList.map Char.toLower

instance (s : Setting) (variableName : String) : Decidable (s.IsNamedBy variableName) :=
  inferInstanceAs (Decidable (_ = _))

/-- The variables that name a field. -/
def variablesIn (s : Setting) (env : Environment) : Environment :=
  env.filter fun x => s.IsNamedBy x.1

theorem variablesIn_cons_of_isNamedBy {s : Setting} {name text : String} {env : Environment}
    (h : s.IsNamedBy name) :
    s.variablesIn ((name, text) :: env) = (name, text) :: s.variablesIn env := by
  simp [variablesIn, h]

theorem variablesIn_cons_of_not {s : Setting} {name text : String} {env : Environment}
    (h : ¬ s.IsNamedBy name) : s.variablesIn ((name, text) :: env) = s.variablesIn env := by
  simp [variablesIn, h]

theorem mem_all (s : Setting) : s ∈ all := by
  cases s <;> decide

theorem eq_of_name_eq {s t : Setting} (h : s.name.toList = t.name.toList) : s = t := by
  have hall : ∀ s ∈ all, ∀ t ∈ all, s.name.toList = t.name.toList → s = t := by decide
  exact hall s s.mem_all t t.mem_all h

theorem isNamedBy_iff {s : Setting} {variableName : String} :
    s.IsNamedBy variableName ↔ ofVariable? variableName = some s := by
  constructor
  · intro h
    cases hfind : ofVariable? variableName with
    | none =>
      have hnot := List.find?_eq_none.1 hfind s s.mem_all
      exact absurd (decide_eq_true h) hnot
    | some t =>
      have ht : t.name.toList = variableName.toList.map Char.toLower := by
        simpa using List.find?_some hfind
      rw [eq_of_name_eq (ht.trans h.symm)]
  · intro h
    have hs := List.find?_some h
    simpa [IsNamedBy] using hs

/-- The value of a field in `c` is the one that the variables of `env` give: that of the one
variable that names it, or the usual one if none does. -/
def DecodedFrom (s : Setting) (env : Environment) (c : Config) : Prop :=
  (∃ name text, s.variablesIn env = [(name, text)] ∧ s.read text = .ok (s.get c)) ∨
    (s.variablesIn env = [] ∧ s.get c = s.get {})

/-! ## All variables -/

/-- What the first variable does when decoding succeeds: nothing, or it sets a field that no
variable before it has set. -/
theorem decodeFrom_cons_eq_ok_iff {seen : List Setting} {name text : String} {env : Environment}
    {c c' : Config} :
    decodeFrom seen c ((name, text) :: env) = .ok c' ↔
      (ofVariable? name = none ∧ decodeFrom seen c env = .ok c') ∨
        ∃ t c₁, ofVariable? name = some t ∧ t ∉ seen ∧ t.assign text c = .ok c₁ ∧
          decodeFrom (t :: seen) c₁ env = .ok c' := by
  rw [decodeFrom]
  cases hname : ofVariable? name with
  | none => simp
  | some t =>
    by_cases hseen : t ∈ seen
    · simp [hseen]
    · cases hassign : t.assign text c <;> simp [hseen, hassign]

/-- Decoding succeeds where each variable names a field of its own and can be read. -/
theorem exists_decodeFrom {env : Environment} {seen : List Setting} {c : Config}
    (hread : ∀ x ∈ env, ∃ (s : Setting) (v : s.Value),
      ofVariable? x.1 = some s ∧ s.read x.2 = .ok v)
    (hnodup : (seen.map some ++ env.map fun x => ofVariable? x.1).Nodup) :
    ∃ c', decodeFrom seen c env = .ok c' := by
  induction env generalizing seen c with
  | nil => exact ⟨c, rfl⟩
  | cons x env ih =>
    obtain ⟨s, v, hname, hv⟩ := hread x List.mem_cons_self
    obtain ⟨c₁, hc₁⟩ := exists_assign hv c
    rw [List.map_cons, hname, List.nodup_middle] at hnodup
    have hseen : s ∉ seen := by
      intro hmem
      refine (List.nodup_cons.1 hnodup).1 (List.mem_append_left _ ?_)
      exact List.mem_map_of_mem hmem
    have hrest := fun y hy => hread y (List.mem_cons_of_mem x hy)
    obtain ⟨c', hc'⟩ : ∃ c', decodeFrom (s :: seen) c₁ env = .ok c' := ih hrest hnodup
    exact ⟨c', decodeFrom_cons_eq_ok_iff.2 (.inr ⟨s, c₁, hname, hseen, hc₁, hc'⟩)⟩

theorem get_of_decodeFrom {seen : List Setting} {env : Environment} {c c' : Config}
    (h : decodeFrom seen c env = .ok c') (s : Setting) :
    (s.variablesIn env = [] ∧ s.get c' = s.get c) ∨
      (s ∉ seen ∧ ∃ name text, s.variablesIn env = [(name, text)] ∧
        s.read text = .ok (s.get c')) := by
  induction env generalizing seen c with
  | nil =>
    cases h
    exact .inl ⟨rfl, rfl⟩
  | cons x env ih =>
    obtain ⟨name, text⟩ := x
    rcases decodeFrom_cons_eq_ok_iff.1 h with ⟨hname, hrest⟩ | ⟨t, c₁, hname, hseen, hset, hrest⟩
    · have hs : ¬ s.IsNamedBy name := by
        rw [isNamedBy_iff, hname]
        exact nofun
      rw [variablesIn_cons_of_not hs]
      exact ih hrest
    by_cases hst : s = t
    · -- from here on `s` is among the fields that were set, so no later variable names it
      subst hst
      rw [variablesIn_cons_of_isNamedBy (isNamedBy_iff.2 hname)]
      rcases ih hrest with ⟨hnone, hget⟩ | ⟨hnew, -⟩
      · refine .inr ⟨hseen, name, text, by rw [hnone], ?_⟩
        rw [hget]
        exact read_of_assign hset
      · exact absurd List.mem_cons_self hnew
    · have hs : ¬ s.IsNamedBy name := by
        rw [isNamedBy_iff, hname, Option.some_inj]
        exact fun heq => hst heq.symm
      rw [variablesIn_cons_of_not hs]
      rcases ih hrest with ⟨hnone, hget⟩ | ⟨hnew, hread⟩
      · exact .inl ⟨hnone, hget.trans (get_of_assign hset hst)⟩
      · exact .inr ⟨fun hmem => hnew (List.mem_cons_of_mem _ hmem), hread⟩

theorem decodedFrom_of_decode {env : Environment} {c : Config} (h : Config.decode env = .ok c)
    (s : Setting) : s.DecodedFrom env c := by
  rcases get_of_decodeFrom h s with hnone | ⟨-, hsome⟩
  · exact .inr hnone
  · exact .inl hsome

end Setting

end OriginGate
