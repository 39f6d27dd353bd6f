import OriginGate.Json.Basic
import OriginGate.Text.Split

/-!
# Places in a JSON document

A place is named by the keys that lead to it from the outside. What stands there can be read and
replaced, and a text in the document may refer to it.

* `Value.at?`: what stands in a place; `Value.follow?`: what a reference leads to.
* `Value.replace?`: the document with another value in a place, all else and its order kept.
* `Value.at?_of_replace?`: what was put in a place stands there.
* `Value.at?_replace?_ne`: what stands beside it stays.
-/

namespace OriginGate.Json

open Text

namespace Value

def members : Value → List (String × Value)
  | .object members => members
  | _ => []

def member? (v : Value) (key : String) : Option Value :=
  (v.members.find? (·.1 = key)).map (·.2)

def at? (v : Value) : List String → Option Value
  | [] => some v
  | key :: path => (v.member? key).bind (·.at? path)

/-- The value that a reference leads to: after the sign of the document itself the keys, each with a
slash before it. -/
def follow? (document : Value) (reference : String) : Option Value :=
  match split '/' reference.toList with
  | ['#'] :: path => document.at? (path.map String.ofList)
  | _ => none

/-- Changes the value of a key, if the key is there and its value can be changed. -/
def change? (f : Value → Option Value) (key : String) :
    List (String × Value) → Option (List (String × Value))
  | [] => none
  | (k, v) :: ms =>
    if k = key then (f v).map fun v => (k, v) :: ms else (change? f key ms).map ((k, v) :: ·)

/-- The document with a new value in a place that it has. -/
def replace? (new : Value) : List String → Value → Option Value
  | [], _ => some new
  | key :: path, .object members => (change? (replace? new path) key members).map .object
  | _ :: _, _ => none

/-- What becomes of the value of the key, and of no other. -/
structure Changes (f : Value → Option Value) (key : String) (v w : Value) : Prop where
  here : ∃ x y, v.member? key = some x ∧ f x = some y ∧ w.member? key = some y
  elsewhere : ∀ other, other ≠ key → w.member? other = v.member? other

theorem member?_cons (k : String) (v : Value) (ms : List (String × Value)) (key : String) :
    (object ((k, v) :: ms)).member? key =
      if k = key then some v else (object ms).member? key := by
  by_cases h : k = key
  · simp [member?, members, h]
  · simp [member?, members, h]

theorem changes_of_change? {f : Value → Option Value} {key : String}
    {ms changed : List (String × Value)} (h : change? f key ms = some changed) :
    Changes f key (.object ms) (.object changed) := by
  induction ms generalizing changed with
  | nil => cases h
  | cons m ms ih =>
    obtain ⟨k, v⟩ := m
    unfold change? at h
    split at h
    · rename_i hk
      obtain ⟨w, hw, rfl⟩ := Option.map_eq_some_iff.1 h
      refine ⟨⟨v, w, ?_, hw, ?_⟩, fun other hother => ?_⟩
      · rw [member?_cons, if_pos hk]
      · rw [member?_cons, if_pos hk]
      · have hne : k ≠ other := fun h => hother (h ▸ hk)
        rw [member?_cons, member?_cons, if_neg hne, if_neg hne]
    · rename_i hk
      obtain ⟨rest, hrest, rfl⟩ := Option.map_eq_some_iff.1 h
      obtain ⟨⟨x, y, hx, hy, hxy⟩, helse⟩ := ih hrest
      refine ⟨⟨x, y, ?_, hy, ?_⟩, fun other hother => ?_⟩
      · rw [member?_cons, if_neg hk, hx]
      · rw [member?_cons, if_neg hk, hxy]
      · rw [member?_cons, member?_cons, helse other hother]

theorem changes_of_replace? {new : Value} {key : String} {path : List String} {v w : Value}
    (h : replace? new (key :: path) v = some w) : Changes (replace? new path) key v w := by
  cases v with
  | string s => cases h
  | array items => cases h
  | object ms =>
    obtain ⟨changed, hchanged, rfl⟩ := Option.map_eq_some_iff.1 h
    exact changes_of_change? hchanged

theorem at?_of_replace? {new : Value} {path : List String} {v w : Value}
    (h : replace? new path v = some w) : w.at? path = some new := by
  induction path generalizing v w with
  | nil =>
    obtain rfl := Option.some.inj h
    rfl
  | cons key path ih =>
    obtain ⟨x, y, -, hy, hmember⟩ := (changes_of_replace? h).here
    rw [at?, hmember, Option.bind_some, ih hy]

/-- Beside the place that is replaced, what stands in the document stays. -/
theorem at?_replace?_ne (path : List String) {new : Value} {key other : String} {v w : Value}
    (h : replace? new (path ++ [key]) v = some w) (hne : other ≠ key) (rest : List String) :
    w.at? (path ++ other :: rest) = v.at? (path ++ other :: rest) := by
  induction path generalizing v w with
  | nil =>
    have hmember := (changes_of_replace? h).elsewhere other hne
    rw [List.nil_append, at?, at?, hmember]
  | cons first path ih =>
    obtain ⟨x, y, hx, hy, hmember⟩ := (changes_of_replace? h).here
    rw [List.cons_append, at?, at?, hmember, hx, Option.bind_some, Option.bind_some, ih hy]

end Value

end OriginGate.Json
