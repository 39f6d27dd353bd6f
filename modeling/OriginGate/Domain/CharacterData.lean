/-!
# What domain names ask about characters

The rules of internationalised domain names consult a few properties of characters.
`CharacterData` lists them as questions, so that the rules can be stated and reasoned about
without the tables that answer them.
-/

namespace OriginGate.Domain

/-- The bidirectional classes that the direction rule of domain names tells apart. -/
inductive Direction where
  /-- A left-to-right letter. -/
  | left
  /-- A right-to-left letter. -/
  | right
  /-- A right-to-left letter of an Arabic script. -/
  | arabicLetter
  /-- A digit of an Arabic script. -/
  | arabicNumber
  /-- A European digit. -/
  | europeanNumber
  /-- A sign that European digits may carry or hold. -/
  | numberSign
  /-- A character without a direction of its own. -/
  | neutral
  /-- A mark that takes the direction of its base. -/
  | nonspacingMark
  /-- Separators, blanks and explicit directional controls. -/
  | other
  deriving DecidableEq, Repr

/-- How a character joins its neighbours. -/
inductive Joining where
  /-- It joins on both sides. -/
  | dual
  /-- It joins to the left. -/
  | left
  /-- It joins to the right. -/
  | right
  /-- It is passed over. -/
  | transparent
  /-- It does not join. -/
  | none
  deriving DecidableEq, Repr

/-- The properties of characters that the rules of domain names consult. -/
structure CharacterData where
  /-- What stands for the character in a domain name: itself, other characters or nothing;
  `none` if no domain name may hold it. -/
  mapChar? : Char → Option (List Char)
  /-- Whether the character may not start a label. -/
  isMark : Char → Bool
  /-- The canonical combining class; zero for a base. -/
  combiningClass : Char → Nat
  /-- The base and the marks of a composite. -/
  parts : Char → List Char
  /-- The composite of two characters. -/
  composite? : Char → Char → Option Char
  /-- The bidirectional class. -/
  direction : Char → Direction
  /-- The joining type. -/
  joining : Char → Joining

namespace CharacterData

variable (data : CharacterData)

/-- The mapped text; `none` if it holds a refused character. -/
def mapText? : List Char → Option (List Char)
  | [] => some []
  | c :: cs =>
    match data.mapChar? c, mapText? cs with
    | some first, some rest => some (first ++ rest)
    | _, _ => none

/-- Whether the mapping keeps the character as it is. -/
def isKept (c : Char) : Bool :=
  data.mapChar? c == some [c]

theorem mapText?_of_isKept {cs : List Char} (h : ∀ c ∈ cs, data.isKept c = true) :
    data.mapText? cs = some cs := by
  induction cs with
  | nil => rfl
  | cons c cs ih =>
    have hc : data.mapChar? c = some [c] := by simpa [isKept] using h c (by simp)
    simp [mapText?, hc, ih fun d hd => h d (by simp [hd])]

end CharacterData

end OriginGate.Domain
