import OriginGate.Domain.Composition
import OriginGate.Domain.Punycode

/-!
# The labels of a domain name

A label is valid if it is composed, holds only characters that the mapping keeps, does not start
with a mark and joins its letters properly; in a name with right-to-left letters every label
must also keep one direction. A label with characters outside ASCII is looked up in its ASCII
form, which starts with `xn--`.

* `labelOfMapped?_plain`: an ASCII label without that start stands for itself.
-/

namespace OriginGate.Domain

/-- A label with its characters and the form in which it is looked up. -/
structure Label where
  characters : List Char
  ascii : List Char
  deriving DecidableEq

namespace CharacterData

variable (data : CharacterData)

/-! ## Joining -/

/-- The invisible character that suppresses joining. -/
def nonJoiner : Char := '\u200c'

/-- The invisible character that asks for joining. -/
def joiner : Char := '\u200d'

/-- Whether the character is a mark that suppresses a vowel, after which letters may be forced
to join or not. -/
def isVirama (c : Char) : Bool :=
  data.combiningClass c = 9

/-- Whether a letter that joins in the way `side` or on both sides comes first, after characters
that are passed over. -/
def joinsFirst (side : Joining) (cs : List Char) : Bool :=
  match cs.dropWhile fun c => data.joining c = .transparent with
  | [] => false
  | c :: _ => data.joining c = side || data.joining c = .dual

/-- Whether every joining control stands where it has an effect: after a virama, or, for the one
that suppresses joining, between letters that would join. The first argument holds the
characters before, latest first. -/
def joinersFit : List Char → List Char → Bool
  | _, [] => true
  | before, c :: after =>
    let afterVirama := before.head?.any data.isVirama
    let fits :=
      if c = joiner then afterVirama
      else if c = nonJoiner then
        afterVirama || (data.joinsFirst .left before && data.joinsFirst .right after)
      else true
    fits && joinersFit (c :: before) after

/-! ## Direction -/

/-- Whether the character makes a name one with right-to-left text. -/
def isRightToLeft (c : Char) : Bool :=
  match data.direction c with
  | .right | .arabicLetter | .arabicNumber => true
  | _ => false

/-- The direction of the last character that is not a mark. -/
def endDirection (cs : List Char) : Option Direction :=
  (cs.reverse.map data.direction).find? (· ≠ .nonspacingMark)

/-- Whether a label keeps one direction. -/
def keepsDirection (label : List Char) : Bool :=
  match label with
  | [] => true
  | c :: _ =>
    let directions := label.map data.direction
    match data.direction c with
    | .right | .arabicLetter =>
      directions.all (fun d => d ≠ .left && d ≠ .other) &&
        ([some .right, some .arabicLetter, some .europeanNumber, some .arabicNumber].contains
          (data.endDirection label)) &&
        !(directions.contains .europeanNumber && directions.contains .arabicNumber)
    | .left =>
      directions.all (fun d =>
        d ≠ .right && d ≠ .arabicLetter && d ≠ .arabicNumber && d ≠ .other) &&
        [some .left, some .europeanNumber].contains (data.endDirection label)
    | _ => false

/-! ## Valid labels -/

/-- The start that tells the ASCII form of a label. -/
def asciiMark : List Char := ['x', 'n', '-', '-']

/-- Whether the characters may stand in a label as they are. -/
def isValidLabel (cs : List Char) : Bool :=
  cs.all data.isKept && data.compose cs = cs && !cs.head?.any data.isMark &&
    data.joinersFit [] cs

/-- Longer labels are not written in ASCII form. -/
def maxEncoded : Nat := 1000

/-- Longer ASCII forms are not read. -/
def maxDecoded : Nat := 2000

/-- The label that the mapped and composed characters write, in both forms. -/
def labelOfMapped? (cs : List Char) : Option Label :=
  if cs.take 4 = asciiMark then
    if maxDecoded < (cs.drop 4).length then none
    else
      match Punycode.decode? (cs.drop 4) with
      | some label =>
        if label.all Punycode.isBasic || !data.isValidLabel label then none
        else some ⟨label, cs⟩
      | none => none
  else if cs.all Punycode.isBasic then some ⟨cs, cs⟩
  else if maxEncoded < cs.length || !data.isValidLabel cs then none
  else some ⟨cs, asciiMark ++ Punycode.encode cs⟩

theorem labelOfMapped?_plain {cs : List Char} (hm : cs.take 4 ≠ asciiMark)
    (h : ∀ c ∈ cs, Punycode.isBasic c = true) : data.labelOfMapped? cs = some ⟨cs, cs⟩ := by
  have ha : cs.all Punycode.isBasic = true := List.all_eq_true.2 h
  simp [labelOfMapped?, hm, ha]

end CharacterData

end OriginGate.Domain
