import OriginGate.Domain.CharacterData

/-!
# The composed form of a text

The same letter with marks can be written in several ways. `compose` brings a text into the
form in which base and mark are one character wherever such a character exists
(Normalization Form C): it takes composites apart, orders the marks after each base by their
combining class and puts bases and marks together again.

* `compose_of_ascii`: ASCII texts are composed.
-/

namespace OriginGate.Domain.CharacterData

variable (data : CharacterData)

/-! ## Taking apart -/

/-- Puts a mark after the marks that do not have a greater class. -/
def insertMark (c : Char) : List Char → List Char
  | [] => [c]
  | m :: ms =>
    if data.combiningClass c < data.combiningClass m then c :: m :: ms
    else m :: insertMark c ms

/-- A text in canonical order: the marks after each base stably sorted by class. The second
argument holds the sorted marks since the last base. -/
def orderMarks : List Char → List Char → List Char
  | [], marks => marks
  | c :: cs, marks =>
    if data.combiningClass c = 0 then marks ++ c :: orderMarks cs []
    else orderMarks cs (data.insertMark c marks)

/-- The text with every composite taken apart, in canonical order. -/
def decompose (cs : List Char) : List Char :=
  data.orderMarks (cs.flatMap data.parts) []

/-! ## Putting together -/

/-- Puts a text together that starts with a base: `marks` are the characters since the base
that did not join it, latest first. A character joins the base unless a kept mark of its own
or a greater class, or another base, stands between. -/
def composeAfter (base : Char) (marks : List Char) : List Char → List Char
  | [] => base :: marks.reverse
  | c :: cs =>
    let blocked := match marks with
      | [] => false
      | m :: _ => data.combiningClass c ≤ data.combiningClass m
    match if blocked then none else data.composite? base c with
    | some d => composeAfter d marks cs
    | none =>
      if data.combiningClass c = 0 then base :: marks.reverse ++ composeAfter c [] cs
      else composeAfter base (c :: marks) cs

/-- Puts together a text in canonical order. -/
def composeOrdered : List Char → List Char
  | [] => []
  | c :: cs =>
    if data.combiningClass c = 0 then data.composeAfter c [] cs else c :: composeOrdered cs

/-- The composed form of a text. -/
def compose (cs : List Char) : List Char :=
  if cs.all (·.toNat < 0x80) then cs else data.composeOrdered (data.decompose cs)

theorem compose_of_ascii {cs : List Char} (h : ∀ c ∈ cs, c.toNat < 0x80) :
    data.compose cs = cs := by
  simp only [compose, List.all_eq_true, decide_eq_true_eq]
  exact if_pos h

end OriginGate.Domain.CharacterData
