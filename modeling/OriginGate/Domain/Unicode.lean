import OriginGate.Domain.MappingTable
import OriginGate.Domain.CompositionTable
import OriginGate.Domain.ScriptTable

/-!
# The characters of Unicode

`CharacterData.unicode` answers the questions of the domain name rules from the tables of the
Unicode Character Database. ASCII is answered without them: of its characters only the upper-case
letters are mapped, each to its lower case. Korean syllables are composed by arithmetic.
-/

namespace OriginGate.Domain

open Text

/-! ## Mapping -/

/-- What a replacement puts for the code point `n` of a span that starts at `first`. -/
def Replacement.apply? (r : Replacement) (first n : Nat) : Option (List Char) :=
  match r with
  | .inStep target => some [Char.ofNat (target + (n - first))]
  | .everySecond target =>
    if (n - first) % 2 = 0 then some [Char.ofNat (target + (n - first))] else none
  | .constant target => some [Char.ofNat target]
  | .sequence target => some target

/-- The tables' mapping of a character. -/
def lookUpMapping (c : Char) : Option (List Char) :=
  match (replacedTable.find? c.toNat).bind fun s => s.value.apply? s.first c.toNat with
  | some cs => some cs
  | none =>
    if refusedTable.contains c then none
    else if ignoredTable.contains c then some []
    else some [c]

/-! ## Korean syllables -/

/-- The syllable that a leading consonant and a vowel, or a syllable and a trailing consonant,
make. -/
def syllable? (a b : Char) : Option Char :=
  let m := a.toNat
  let n := b.toNat
  if 0x1100 ≤ m ∧ m < 0x1113 ∧ 0x1161 ≤ n ∧ n < 0x1176 then
    some (Char.ofNat (0xAC00 + ((m - 0x1100) * 21 + (n - 0x1161)) * 28))
  else if 0xAC00 ≤ m ∧ m < 0xD7A4 ∧ (m - 0xAC00) % 28 = 0 ∧ 0x11A7 < n ∧ n < 0x11C3 then
    some (Char.ofNat (m + (n - 0x11A7)))
  else none

/-- The letters of a Korean syllable. -/
def syllableLetters? (c : Char) : Option (List Char) :=
  let n := c.toNat - 0xAC00
  if 0xAC00 ≤ c.toNat ∧ c.toNat < 0xD7A4 then
    let lead := Char.ofNat (0x1100 + n / 588)
    let vowel := Char.ofNat (0x1161 + n % 588 / 28)
    if n % 28 = 0 then some [lead, vowel]
    else some [lead, vowel, Char.ofNat (0x11A7 + n % 28)]
  else none

/-! ## Composites -/

/-- The base and the marks of a character, for composites of at most `depth` marks. -/
def partsWithin : Nat → Char → List Char
  | 0, c => [c]
  | depth + 1, c =>
    match compositeTable.find? c.toNat with
    | some s => partsWithin depth s.value.1 ++ [s.value.2]
    | none => [c]

/-- The code points of a base and a mark as one number. -/
def pairCode (a b : Char) : Nat :=
  a.toNat * 0x110000 + b.toNat

/-- The composites by the code of their base and mark. -/
@[irreducible] def pairTable : SpanTable Char :=
  ⟨((compositeTable.spans.map fun s =>
      let code := pairCode s.value.1 s.value.2
      (⟨code, code, Char.ofNat s.first⟩ : Span Char)).toList.mergeSort
    fun s t => s.first ≤ t.first).toArray⟩

/-! ## The data -/

/-- The lower case of an ASCII letter; other characters stay. -/
def toAsciiLower (c : Char) : Char :=
  if 'A' ≤ c ∧ c ≤ 'Z' then Char.ofNat (c.toNat + 0x20) else c

/-- The bidirectional class of an ASCII character. -/
def asciiDirection (c : Char) : Direction :=
  if c.isDigit then .europeanNumber
  else if c.isAlpha then .left
  else if "#$%+,-./:".toList.contains c then .numberSign
  else if "\t\n\x0b\x0c\r\x1c\x1d\x1e\x1f ".toList.contains c then .other
  else .neutral

/-- The properties of all characters; no composite has more than three marks. -/
def CharacterData.unicode : CharacterData where
  mapChar? c := if c.toNat < 0x80 then some [toAsciiLower c] else lookUpMapping c
  isMark c := 0x80 ≤ c.toNat && markTable.contains c
  combiningClass c :=
    if c.toNat < 0x80 then 0 else ((combiningClassTable.find? c.toNat).map (·.value)).getD 0
  parts c := if c.toNat < 0x80 then [c] else (syllableLetters? c).getD (partsWithin 3 c)
  composite? a b := (syllable? a b).or ((pairTable.find? (pairCode a b)).map (·.value))
  direction c :=
    if c.toNat < 0x80 then asciiDirection c
    else ((directionTable.find? c.toNat).map (·.value)).getD .left
  joining c := ((joiningTable.find? c.toNat).map (·.value)).getD .none

end OriginGate.Domain
