import OriginGate.Domain.Label
import OriginGate.Domain.Unicode

/-!
# Domain names in ASCII

`toAscii?` brings a domain name into the form in which names are compared and looked up
(Unicode Technical Standard 46): the characters are mapped and composed, each label is checked
and written in ASCII, and the result may hold no character that has a meaning of its own in an
address.

* `not_isForbidden_of_toAscii?`: every character of a result may stand in a host name.
-/

namespace OriginGate.Domain

open Text

/-- Whether a character may not stand in the ASCII form of a domain name: capitals, controls,
blanks, characters outside ASCII and those that delimit the parts of an address. -/
def isForbidden (c : Char) : Bool :=
  c.toNat ≤ 0x20 || 0x7F ≤ c.toNat || ('A' ≤ c && c ≤ 'Z') ||
    "%#/:<>?@[\\]^|".toList.contains c

namespace CharacterData

variable (data : CharacterData)

/-- The labels of a domain name in both forms. -/
def labels? (name : List Char) : Option (List Label) :=
  match data.mapText? name with
  | some mapped => (split '.' (data.compose mapped)).mapM data.labelOfMapped?
  | none => none

/-- Whether all labels keep one direction, if any holds right-to-left text. -/
def directionsFit (labels : List Label) : Bool :=
  !(labels.any fun l => l.characters.any data.isRightToLeft) ||
    labels.all fun l => data.keepsDirection l.characters

/-- The ASCII form of a domain name, if it has one. -/
def toAscii? (name : List Char) : Option (List Char) :=
  match data.labels? name with
  | some labels =>
    let ascii := join ['.'] (labels.map (·.ascii))
    if data.directionsFit labels && !ascii.any isForbidden then some ascii else none
  | none => none

theorem not_isForbidden_of_toAscii? {name ascii : List Char} (h : data.toAscii? name = some ascii)
    {c : Char} (hc : c ∈ ascii) : isForbidden c = false := by
  unfold toAscii? at h
  split at h
  · rename_i labels hl
    simp only [Option.ite_none_right_eq_some, Bool.and_eq_true, Bool.not_eq_true',
      Option.some.injEq] at h
    obtain ⟨⟨-, hf⟩, rfl⟩ := h
    exact Bool.eq_false_iff.2 fun hc' => by
      have := List.any_eq_true.2 ⟨c, hc, hc'⟩
      simp [this] at hf
  · simp at h

end CharacterData

/-- The ASCII form of a domain name, if it has one. -/
def toAscii? (name : List Char) : Option (List Char) :=
  CharacterData.unicode.toAscii? name

theorem not_isForbidden_of_toAscii? {name ascii : List Char} (h : toAscii? name = some ascii)
    {c : Char} (hc : c ∈ ascii) : isForbidden c = false :=
  CharacterData.unicode.not_isForbidden_of_toAscii? h hc

end OriginGate.Domain
