import OriginGate.Text.Numeral

/-!
# Counting traffic

A recorder counts answered requests by endpoint, method and status, and the latencies taken by
endpoint.

* `countOf_bump`: counting a key adds one to its own count and to no other.
-/

namespace OriginGate.Metrics

/-- What a counter of requests is told apart by. -/
structure Labels where
  endpoint : String
  method : String
  status : Nat
  deriving DecidableEq, Repr

/-- Adds one to the count of a key; a new key comes last. -/
def bump {α : Type} [DecidableEq α] (key : α) : List (α × Nat) → List (α × Nat)
  | [] => [(key, 1)]
  | (k, n) :: rest => if k = key then (k, n + 1) :: rest else (k, n) :: bump key rest

/-- The count of a key; zero if it was never recorded. -/
def countOf {α : Type} [DecidableEq α] (key : α) : List (α × Nat) → Nat
  | [] => 0
  | (k, n) :: rest => if k = key then n else countOf key rest

theorem countOf_bump {α : Type} [DecidableEq α] (key k : α) (l : List (α × Nat)) :
    countOf k (bump key l) = countOf k l + if k = key then 1 else 0 := by
  induction l with
  | nil => by_cases h : key = k <;> simp [bump, countOf, h, eq_comm]
  | cons x l ih =>
    obtain ⟨j, n⟩ := x
    by_cases hj : j = key
    · subst hj
      by_cases hk : j = k
      · simp [bump, countOf, hk]
      · simp [bump, countOf, hk, Ne.symm hk]
    · by_cases hk : j = k
      · subst hk
        simp [bump, countOf, hj]
      · simp [bump, countOf, hj, hk, ih]

structure Recorder where
  /-- Whether the metrics have descriptions. -/
  described : Bool
  requests : List (Labels × Nat)
  latencies : List (String × Nat)
  deriving DecidableEq, Repr

namespace Recorder

/-- A recorder that has recorded nothing. -/
def empty : Recorder := ⟨false, [], []⟩

def describe (r : Recorder) : Recorder :=
  { r with described := true }

def recordRequest (r : Recorder) (labels : Labels) : Recorder :=
  { r with requests := bump labels r.requests }

def recordLatency (r : Recorder) (endpoint : String) : Recorder :=
  { r with latencies := bump endpoint r.latencies }

end Recorder

end OriginGate.Metrics
