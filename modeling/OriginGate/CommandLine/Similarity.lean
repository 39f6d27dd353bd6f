/-!
# Similar words

A misspelt word is answered with the words that resemble it. The similarity of two words counts
the characters they share at about the same place, and those of them that are out of order: it is
the mean of the shares of these characters in either word and of the part of them in order.
-/

namespace OriginGate.CommandLine

/-- The first character from the place `low` on and before `high` that equals `c` and is not yet
taken; `at` is the place of the first character of the list. -/
def matchIndex? (c : Char) (low high : Nat) : Nat → List (Char × Bool) → Option Nat
  | _, [] => none
  | place, (d, taken) :: rest =>
    if low ≤ place ∧ place < high ∧ c = d ∧ taken = false then some place
    else matchIndex? c low high (place + 1) rest

/-- Matches the characters of a word, from the place given, with those of another: the matched
ones in order, and which characters of the other are taken. -/
def matchWords (range : Nat) :
    Nat → List Char → List (Char × Bool) → List Char × List (Char × Bool)
  | _, [], other => ([], other)
  | place, c :: cs, other =>
    match matchIndex? c (place - range) (place + range + 1) 0 other with
    | some i =>
      let (found, taken) := matchWords range (place + 1) cs (other.set i (c, true))
      (c :: found, taken)
    | none => matchWords range (place + 1) cs other

/-- The similarity of two words, as a quotient. -/
structure Similarity where
  num : Nat
  den : Nat
  deriving DecidableEq, Repr

namespace Similarity

/-- The similarity of a word with another. -/
def ofWords (word other : List Char) : Similarity :=
  let m := word.length
  let n := other.length
  let (found, taken) := matchWords (max m n / 2 - 1) 0 word (other.map (·, false))
  let k := found.length
  let found' := (taken.filter (·.2)).map (·.1)
  let moved := ((found.zip found').filter fun (c, d) => c ≠ d).length / 2
  if k = 0 then if m = 0 ∧ n = 0 then ⟨1, 1⟩ else ⟨0, 1⟩
  else ⟨k * k * n + k * k * m + (k - moved) * m * n, 3 * k * m * n⟩

/-- Whether one similarity is at most another. -/
def le (s t : Similarity) : Bool :=
  s.num * t.den ≤ t.num * s.den

/-- The similarity that is worth a hint. -/
def worthwhile : Similarity := ⟨7, 10⟩

end Similarity

/-- The words among `known` that resemble a word, the most similar last. -/
def similarWords (word : String) (known : List String) : List String :=
  let rated := known.map fun k => (Similarity.ofWords word.toList k.toList, k)
  let close := rated.filter fun (s, _) => Similarity.worthwhile.le s
  (close.mergeSort fun a b => a.1.le b.1).map (·.2)

end OriginGate.CommandLine
