import OriginGate.Domain.Ascii

/-!
# Names that are their own ASCII form

A name of permitted ASCII characters is looked up as it stands, unless one of its labels claims to
be the ASCII form of another: nothing in it is mapped, composed or written in another way, and no
rule of direction applies to it.

* `not_isRightToLeft_of_ascii`: no ASCII character makes a name one with right-to-left text.
* `labels?_eq`: the labels of such a name are its pieces between dots.
* `toAscii?_eq_self`: such a name is its own ASCII form.
-/

namespace OriginGate.Domain

open Text CharacterData

theorem toNat_lt_of_not_isForbidden {c : Char} (h : isForbidden c = false) : c.toNat < 0x7F := by
  simp only [isForbidden, Bool.or_eq_false_iff, decide_eq_false_iff_not, Nat.not_le] at h
  exact h.1.1.2

theorem isKept_of_not_isForbidden {c : Char} (h : isForbidden c = false) :
    unicode.isKept c = true := by
  have hascii : c.toNat < 0x80 := Nat.lt_trans (toNat_lt_of_not_isForbidden h) (by decide)
  have hcapital : ¬ ('A' ≤ c ∧ c ≤ 'Z') := by
    rintro ⟨hlow, hhigh⟩
    simp [isForbidden, hlow, hhigh] at h
  have hmap : unicode.mapChar? c = some [toAsciiLower c] := if_pos hascii
  simp [isKept, hmap, toAsciiLower, hcapital]

theorem not_isRightToLeft_of_ascii {c : Char} (h : c.toNat < 0x80) :
    unicode.isRightToLeft c = false := by
  have hdirection : unicode.direction c = asciiDirection c := if_pos h
  have hclass : asciiDirection c = .europeanNumber ∨ asciiDirection c = .left ∨
      asciiDirection c = .numberSign ∨ asciiDirection c = .other ∨
      asciiDirection c = .neutral := by
    unfold asciiDirection
    repeat' split
    all_goals simp
  unfold isRightToLeft
  rw [hdirection]
  rcases hclass with h | h | h | h | h <;> rw [h]

theorem mapM_eq_some_map {α β : Type} {f : α → Option β} {g : α → β} {xs : List α}
    (h : ∀ x ∈ xs, f x = some (g x)) : xs.mapM f = some (xs.map g) := by
  induction xs with
  | nil => rfl
  | cons x xs ih =>
    rw [List.mapM_cons, h x List.mem_cons_self, ih fun y hy => h y (List.mem_cons_of_mem x hy)]
    rfl

section Names

variable {name : List Char} (h : ∀ c ∈ name, isForbidden c = false)

include h

theorem not_isForbidden_of_mem_split {label : List Char} (hl : label ∈ split '.' name) {c : Char}
    (hc : c ∈ label) : isForbidden c = false := by
  refine h c ?_
  rw [← join_split '.' name]
  exact mem_join_of_mem hl hc

theorem labels?_eq (hmark : ∀ label ∈ split '.' name, label.take 4 ≠ asciiMark) :
    unicode.labels? name = some ((split '.' name).map fun label => ⟨label, label⟩) := by
  have hascii : ∀ c ∈ name, c.toNat < 0x80 := fun c hc =>
    Nat.lt_trans (toNat_lt_of_not_isForbidden (h c hc)) (by decide)
  have hlabel : ∀ label ∈ split '.' name,
      unicode.labelOfMapped? label = some ⟨label, label⟩ := by
    intro label hl
    refine unicode.labelOfMapped?_plain (hmark label hl) fun c hc => decide_eq_true ?_
    exact Nat.lt_trans (toNat_lt_of_not_isForbidden (not_isForbidden_of_mem_split h hl hc))
      (by decide)
  rw [labels?, unicode.mapText?_of_isKept fun c hc => isKept_of_not_isForbidden (h c hc)]
  dsimp only
  rw [unicode.compose_of_ascii hascii]
  exact mapM_eq_some_map hlabel

theorem toAscii?_eq_self (hmark : ∀ label ∈ split '.' name, label.take 4 ≠ asciiMark) :
    toAscii? name = some name := by
  have hfit : unicode.directionsFit ((split '.' name).map fun label => ⟨label, label⟩) = true := by
    -- the rule of direction asks nothing where no character is right-to-left
    refine Bool.or_eq_true_iff.2 (.inl ?_)
    rw [Bool.not_eq_true', List.any_eq_false]
    intro l hl
    obtain ⟨label, hlabel, rfl⟩ := List.mem_map.1 hl
    rw [List.any_eq_true]
    rintro ⟨c, hc, hright⟩
    have hlow := toNat_lt_of_not_isForbidden (not_isForbidden_of_mem_split h hlabel hc)
    rw [not_isRightToLeft_of_ascii (Nat.lt_trans hlow (by decide))] at hright
    cases hright
  have hascii : join ['.'] (((split '.' name).map fun label => (⟨label, label⟩ : Label)).map
      (·.ascii)) = name := by
    rw [List.map_map]
    exact (congrArg (join ['.']) (List.map_id (split '.' name))).trans (join_split '.' name)
  have hnone : name.any isForbidden = false :=
    List.any_eq_false.2 fun c hc => Bool.eq_false_iff.1 (h c hc)
  rw [toAscii?, CharacterData.toAscii?, labels?_eq h hmark]
  dsimp only
  rw [hascii, hfit, hnone]
  rfl

end Names

end OriginGate.Domain
