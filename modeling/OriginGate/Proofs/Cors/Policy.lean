import Mathlib.Data.List.Basic
import OriginGate.Cors.Gate
import OriginGate.Proofs.Text.Graphic

/-!
# Policies of configurations

What the policy of a configuration consists of, and why it can always be enforced: an explicit
list that was parsed never reads as the wildcard.

* `Allowed.parse_eq_list`: a parsed list holds what its entries name, and none of them is `*`;
  `Allowed.ne_star_of_parse`: nor is any of these names written so.
* `Policy.readsAsWildcard_iff`: only the list of the single token `*` reads as the wildcard.
* `Policy.conflict?_eq_some_iff`: with credentials it is a conflict, and there is no other.
* `Policy.ofConfig_eq_ok_iff`: the parts of the policy of a configuration.
* `Policy.conflict?_of_ofConfig`: that policy has no conflict.
-/

namespace OriginGate

open Http Text

/-! ## Lists that were parsed -/

theorem readAll_eq_ok_iff {α : Type} {read? : List Char → Option α} {es : List String}
    {vs : List α} :
    readAll read? es = .ok vs ↔ es.map (fun e => read? e.toList) = vs.map some := by
  induction es generalizing vs with
  | nil =>
    cases vs with
    | nil => simp [readAll]
    | cons v vs => simp [readAll]
  | cons e es ih =>
    rw [readAll]
    split
    · rename_i he
      cases vs with
      | nil => simp
      | cons v vs => simp [he]
    · rename_i a he
      cases vs with
      | nil => cases readAll read? es <;> simp [Except.map]
      | cons v vs =>
        rw [List.map_cons, List.map_cons, he, List.cons.injEq, ← ih, Option.some.injEq]
        cases readAll read? es <;> simp [Except.map]

theorem Allowed.parse_eq_list {α : Type} {read? : List Char → Option α} {list : List String}
    {vs : List α} (h : Allowed.parse read? list = .ok (.list vs)) :
    "*" ∉ entries list ∧ (entries list).map (fun e => read? e.toList) = vs.map some := by
  unfold Allowed.parse at h
  split at h
  · cases h
  · rename_i hstar
    refine ⟨fun hmem => hstar (List.contains_iff_mem.2 hmem), readAll_eq_ok_iff.1 ?_⟩
    cases hr : readAll read? (entries list) with
    | error e =>
      rw [hr] at h
      cases h
    | ok ws =>
      rw [hr] at h
      cases h
      rfl

/-- Where only `*` names what is written `*`, a parsed list does not hold it. -/
theorem Allowed.ne_star_of_parse {α : Type} {read? : List Char → Option α} {chars : α → List Char}
    (hread : ∀ cs a, read? cs = some a → chars a = ['*'] → cs = ['*']) {list : List String}
    {vs : List α} (h : Allowed.parse read? list = .ok (.list vs)) : ∀ v ∈ vs, chars v ≠ ['*'] := by
  intro v hv hstar
  obtain ⟨hno, hmap⟩ := Allowed.parse_eq_list h
  have hentry : some v ∈ (entries list).map fun e => read? e.toList :=
    hmap ▸ List.mem_map_of_mem hv
  obtain ⟨e, he, hev⟩ := List.mem_map.1 hentry
  have hchars : e = "*" := String.toList_inj.1 (hread e.toList v hev hstar)
  exact hno (hchars ▸ he)

/-- The list of one value, whose text is `*`. -/
def Allowed.IsStar {α : Type} (chars : α → List Char) (a : Allowed α) : Prop :=
  ∃ v, a = .list [v] ∧ chars v = ['*']

namespace Policy

/-- Origins are compared byte for byte. -/
theorem allowsOrigin_iff {p : Policy} {v : FieldValue} :
    p.allowsOrigin v = true ↔ v.bytes ∈ p.origins.map (·.bytes) := by
  rw [List.mem_map_of_injective FieldValue.bytes_injective]
  exact List.contains_iff_mem

/-! ## Lists that read as the wildcard -/

theorem bytes_of_joinTokens {tokens : List (List Char)} {v : FieldValue}
    (h : joinTokens tokens = some v) : v.bytes = Utf8.encode (join [','] tokens) := by
  unfold joinTokens at h
  split at h
  · cases h
  · exact FieldValue.bytes_of_ofText? h

/-- Two or more tokens have a comma between them, which the wildcard has not. -/
theorem join_eq_star {tokens : List (List Char)} (h : join [','] tokens = ['*']) :
    tokens = [['*']] := by
  cases tokens with
  | nil => cases h
  | cons t ts =>
    cases ts with
    | nil => exact congrArg (fun t => [t]) h
    | cons u us =>
      have hcomma : ',' ∈ join [','] (t :: u :: us) := by simp [join]
      rw [h] at hcomma
      exact absurd hcomma (by decide)

theorem joinTokens_eq_wildcard_iff {tokens : List (List Char)} :
    joinTokens tokens = some wildcard ↔ tokens = [['*']] := by
  constructor
  · intro h
    have hbytes : Utf8.encode ['*'] = Utf8.encode (join [','] tokens) := bytes_of_joinTokens h
    exact join_eq_star (Utf8.encode_injective hbytes).symm
  · rintro rfl
    rfl

theorem readsAsWildcard_iff {a : Allowed (List Char)} :
    readsAsWildcard a = true ↔ a = .list [['*']] := by
  cases a with
  | any => simp [readsAsWildcard]
  | list tokens => simp [readsAsWildcard, joinTokens_eq_wildcard_iff]

theorem readsAsWildcard_map_iff {α : Type} {f : α → List Char} {a : Allowed α} :
    readsAsWildcard (a.map f) = true ↔ a.IsStar f := by
  rw [readsAsWildcard_iff]
  cases a with
  | any => exact ⟨nofun, fun ⟨_, h, _⟩ => nomatch h⟩
  | list values =>
    rw [Allowed.map, Allowed.list.injEq, List.map_eq_singleton_iff]
    constructor
    · rintro ⟨v, rfl, hv⟩
      exact ⟨v, rfl, hv⟩
    · rintro ⟨v, hlist, hv⟩
      exact ⟨v, Allowed.list.inj hlist, hv⟩

/-- A conflict needs credentials and a list of the single token `*`; that of the headers is told
first. -/
theorem conflict?_eq_some_iff {p : Policy} {k : Conflict} :
    p.conflict? = some k ↔
      p.credentials = true ∧
        match k with
        | .headers => p.headers.IsStar (·.chars)
        | .methods => p.methods.IsStar (·.chars) ∧ ¬ p.headers.IsStar (·.chars) := by
  have hheaders := readsAsWildcard_map_iff (a := p.headers) (f := (·.chars))
  have hmethods := readsAsWildcard_map_iff (a := p.methods) (f := (·.chars))
  rw [← hheaders, ← hmethods, conflict?]
  cases p.credentials with
  | false => simp
  | true =>
    cases readsAsWildcard (p.headers.map (·.chars)) with
    | true => cases k <;> simp
    | false => cases readsAsWildcard (p.methods.map (·.chars)) <;> cases k <;> simp

theorem readsAsWildcard_of_parse {α : Type} {read? : List Char → Option α} {chars : α → List Char}
    (hread : ∀ cs a, read? cs = some a → chars a = ['*'] → cs = ['*']) {list : List String}
    {a : Allowed α} (h : Allowed.parse read? list = .ok a) :
    readsAsWildcard (a.map chars) = false := by
  rw [Bool.eq_false_iff, Ne, readsAsWildcard_iff]
  cases a with
  | any => exact nofun
  | list vs =>
    intro hstar
    obtain ⟨v, rfl, hv⟩ := List.map_eq_singleton_iff.1 (Allowed.list.inj hstar)
    exact Allowed.ne_star_of_parse hread h v (List.mem_singleton_self v) hv

theorem method_star {cs : List Char} {m : Method} (h : Method.ofText? cs = some m)
    (hm : m.chars = ['*']) : cs = ['*'] := by
  rw [← Method.chars_of_ofText? h, hm]

/-- No letter has the asterisk as its lower case. -/
theorem eq_star_of_toLower {c : Char} (h : c.toLower = '*') : c = '*' := by
  unfold Char.toLower at h
  split at h
  · rename_i hupper
    have hval := congrArg (fun c : Char => c.val.toNat) h
    simp only [UInt32.toNat_add] at hval
    have hlow : 65 ≤ c.toNat := hupper.1
    have hhigh : c.toNat ≤ 90 := hupper.2
    simp at hval
    omega
  · exact h

theorem headerName_star {cs : List Char} {n : FieldName} (h : FieldName.ofText? cs = some n)
    (hn : n.chars = ['*']) : cs = ['*'] := by
  rw [FieldName.chars_of_ofText? h] at hn
  obtain ⟨c, rfl, hc⟩ := List.map_eq_singleton_iff.1 hn
  rw [eq_star_of_toLower hc]

/-! ## The policy of a configuration -/

theorem ofConfig_eq (c : Config) :
    ofConfig c =
      match readOrigins c.allowedOrigins with
      | .error fault => .error fault
      | .ok [] => .error .noOrigins
      | .ok (v :: vs) =>
        match Allowed.parse Method.ofText? c.methods with
        | .error text => .error (.invalidMethod text)
        | .ok methods =>
          match Allowed.parse FieldName.ofText? c.headers with
          | .error text => .error (.invalidHeader text)
          | .ok headers =>
            .ok ⟨v :: vs, c.credentials, methods, headers, c.maxAge⟩ := by
  unfold ofConfig
  cases readOrigins c.allowedOrigins with
  | error fault => rfl
  | ok origins =>
    cases origins with
    | nil => rfl
    | cons v vs =>
      cases Allowed.parse Method.ofText? c.methods with
      | error text => rfl
      | ok methods => cases Allowed.parse FieldName.ofText? c.headers <;> rfl

theorem ofConfig_eq_ok_iff {c : Config} {p : Policy} :
    ofConfig c = .ok p ↔
      readOrigins c.allowedOrigins = .ok p.origins ∧ p.origins ≠ [] ∧
        Allowed.parse Method.ofText? c.methods = .ok p.methods ∧
        Allowed.parse FieldName.ofText? c.headers = .ok p.headers ∧
        p.credentials = c.credentials ∧ p.maxAge = c.maxAge := by
  rw [ofConfig_eq]
  constructor
  · intro h
    split at h
    · cases h
    · cases h
    · rename_i v vs horigins
      split at h
      · cases h
      · rename_i methods hmethods
        split at h
        · cases h
        · rename_i headers hheaders
          cases h
          exact ⟨horigins, List.cons_ne_nil v vs, hmethods, hheaders, rfl, rfl⟩
  · obtain ⟨origins, credentials, methods, headers, maxAge⟩ := p
    rintro ⟨horigins, hsome, hmethods, hheaders, rfl, rfl⟩
    cases origins with
    | nil => exact absurd rfl hsome
    | cons v vs => simp [horigins, hmethods, hheaders]

theorem conflict?_of_ofConfig {c : Config} {p : Policy} (h : ofConfig c = .ok p) :
    p.conflict? = none := by
  obtain ⟨-, -, hmethods, hheaders, -⟩ := ofConfig_eq_ok_iff.1 h
  have hm := readsAsWildcard_of_parse (fun _ _ => method_star) hmethods
  have hh := readsAsWildcard_of_parse (fun _ _ => headerName_star) hheaders
  simp [conflict?, hm, hh]

theorem exists_readOrigins {ss : List String} (h : ∀ s ∈ ss, ∀ c ∈ s.toList, isGraphic c = true) :
    ∃ vs, readOrigins ss = .ok vs := by
  induction ss with
  | nil => exact ⟨[], rfl⟩
  | cons s ss ih =>
    obtain ⟨v, hv⟩ := FieldValue.ofText?_of_isGraphic (h s (by simp))
    obtain ⟨vs, hvs⟩ := ih fun t ht => h t (List.mem_cons_of_mem s ht)
    exact ⟨v :: vs, by simp [readOrigins, hv, hvs, Except.map]⟩

/-- Where all origins can be sent, a policy fails by a method or a header name only. -/
theorem ofConfig_eq_error {c : Config} {fault : ConfigFault} (hne : c.allowedOrigins ≠ [])
    (hsend : ∀ s ∈ c.allowedOrigins, ∀ ch ∈ s.toList, isGraphic ch = true)
    (h : ofConfig c = .error fault) :
    (∃ text, fault = .invalidMethod text) ∨ ∃ text, fault = .invalidHeader text := by
  obtain ⟨vs, hvs⟩ := exists_readOrigins hsend
  rw [ofConfig_eq, hvs] at h
  cases vs with
  | nil =>
    have hnone : c.allowedOrigins = [] := by simpa using map_bytes_of_readOrigins hvs
    exact absurd hnone hne
  | cons v vs =>
    simp only at h
    split at h
    · rename_i text _
      exact .inl ⟨text, (Except.error.inj h).symm⟩
    · split at h
      · rename_i text _
        exact .inr ⟨text, (Except.error.inj h).symm⟩
      · cases h

end Policy

end OriginGate
