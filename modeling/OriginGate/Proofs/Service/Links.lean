import Mathlib.Data.List.TakeWhile
import OriginGate.Proofs.Http.Reference
import OriginGate.Proofs.Service.Mounting
import OriginGate.Proofs.Text.Graphic

/-!
# Paths that are told as links

A link is a path that can be requested as it is written. Where it is followed, dots and authorities
in it lead away: what is asked for then is a path of the same characters, but none at which the
documentation is mounted.

* `Http.Uri.read_of_isMountPath`: which paths can be requested.
* `Service.IsLinkPath.target?_eq`: a link is asked for as it is, if nothing in it leads away.
* `Service.isOutside_of_hasDots`, `isOutside_of_authority`: else what is asked for is outside the
  documentation.
-/

namespace OriginGate

open Http Text

namespace Service

/-- Whether a link may hold the character beside slashes: clients ask for it as it is. -/
def isLinkChar (c : Char) : Bool :=
  c.isAlphanum || "-._~!$&'()+,;=@".toList.contains c

/-- A path that can be told as a link: a slash, then slashes and characters of links. -/
def IsLinkPath (path : List Char) : Prop :=
  ∃ rest, path = '/' :: rest ∧ ∀ c ∈ rest, c = '/' ∨ isLinkChar c = true

end Service

/-! ## Paths that can be requested -/

namespace Http.Uri

theorem not_endsPath_of_isPathChar {c : Char} (h : isPathChar c = true) : endsPath c = false := by
  by_contra hends
  rw [Bool.not_eq_false, endsPath, Bool.or_eq_true, decide_eq_true_eq, decide_eq_true_eq] at hends
  rcases hends with rfl | rfl <;> exact absurd h (by decide)

theorem read_of_isMountPath {path : List Char} (h : Service.IsMountPath path) :
    read path =
      if maxLength < (Utf8.encode path).length then .error .tooLong
      else .ok { path, query := none } := by
  have hchars := h.isPathChar
  obtain ⟨rest, rfl, -⟩ := h
  have hall : ('/' :: rest).all isPathChar = true := List.all_eq_true.2 hchars
  have hends : ∀ c ∈ '/' :: rest, (! endsPath c) = true := fun c hc => by
    rw [not_endsPath_of_isPathChar (hchars c hc)]
    rfl
  have htake : ('/' :: rest).takeWhile (! endsPath ·) = '/' :: rest :=
    List.takeWhile_eq_self_iff.2 hends
  have hdrop : ('/' :: rest).dropWhile (! endsPath ·) = [] := List.dropWhile_eq_nil_iff.2 hends
  have hread : readPath ['/'] ('/' :: rest) = .ok { path := '/' :: rest, query := none } := by
    simp only [readPath, htake, hdrop, hall]
    rfl
  rw [read, hread]

end Http.Uri

namespace Service

/-! ## Paths of links -/

theorem isGraphic_of_isLinkChar {c : Char} (h : isLinkChar c = true) : isGraphic c = true := by
  rw [isLinkChar, Bool.or_eq_true] at h
  rcases h with halnum | hsign
  · exact isGraphic_of_isAlphanum halnum
  · have hall : "-._~!$&'()+,;=@".toList.all isGraphic = true := by decide
    exact List.all_eq_true.1 hall c (List.contains_iff_mem.1 hsign)

theorem isPathChar_of_isLinkChar {c : Char} (h : isLinkChar c = true) :
    Uri.isPathChar c = true ∧ startsName c = false := by
  have hascii : c.toNat < 0x80 := by
    have hgraphic := isGraphic_of_isLinkChar h
    simp only [isGraphic, Bool.and_eq_true, decide_eq_true_eq] at hgraphic
    exact Nat.lt_succ_of_lt hgraphic.2
  have hall : ∀ n ∈ List.range 0x80, isLinkChar (Char.ofNat n) = true →
      Uri.isPathChar (Char.ofNat n) = true ∧ startsName (Char.ofNat n) = false := by
    decide +kernel
  have hc := hall c.toNat (List.mem_range.2 hascii)
  rw [Char.ofNat_toNat] at hc
  exact hc h

theorem isLinkPath_of_all (rest : List Char)
    (h : rest.all (fun c => c = '/' || isLinkChar c) = true) : IsLinkPath ('/' :: rest) :=
  ⟨rest, rfl, fun c hc => by simpa using List.all_eq_true.1 h c hc⟩

namespace IsLinkPath

variable {path : List Char}

theorem isMountPath (h : IsLinkPath path) : IsMountPath path := by
  obtain ⟨rest, rfl, hrest⟩ := h
  refine ⟨rest, rfl, fun c hc => ?_⟩
  rcases hrest c hc with rfl | hlink
  · decide
  · exact isPathChar_of_isLinkChar hlink

theorem forall_mem (h : IsLinkPath path) : ∀ c ∈ path, c = '/' ∨ isLinkChar c = true := by
  obtain ⟨rest, rfl, hrest⟩ := h
  exact List.forall_mem_cons.2 ⟨.inl rfl, hrest⟩

theorem isGraphic (h : IsLinkPath path) : ∀ c ∈ path, isGraphic c = true := by
  intro c hc
  rcases h.forall_mem c hc with rfl | hlink
  · decide
  · exact isGraphic_of_isLinkChar hlink

theorem concat (h : IsLinkPath path) : IsLinkPath (path ++ ['/']) := by
  obtain ⟨rest, rfl, hrest⟩ := h
  refine ⟨rest ++ ['/'], rfl, List.forall_mem_append.2 ⟨hrest, ?_⟩⟩
  exact fun c hc => .inl (List.mem_singleton.1 hc)

theorem base (h : IsLinkPath path) (hne : path ≠ ['/']) : IsLinkPath (docsBase path) := by
  obtain ⟨rest, hrest, -⟩ := isMountPath_docsBase h.isMountPath hne
  refine ⟨rest, hrest, fun c hc => h.forall_mem c ?_⟩
  have hmem : c ∈ docsBase path := hrest ▸ List.mem_cons_of_mem '/' hc
  unfold docsBase at hmem
  split at hmem
  · exact List.dropLast_subset path hmem
  · exact hmem

/-- What is asked for when a link is followed is a path of the same characters. -/
theorem target {isOwn : List Char → Bool} {manner : Reference.Manner} {target : List Char}
    (h : IsLinkPath path) (htarget : manner.target? isOwn path = some target) :
    IsLinkPath target := by
  obtain ⟨part, hpart, rfl⟩ := manner.exists_of_target? htarget
  obtain ⟨rest, hrest⟩ := Reference.exists_settle_eq_cons part
  refine ⟨rest, hrest, fun c hc => ?_⟩
  have hmem : c ∈ Reference.settle part := hrest ▸ List.mem_cons_of_mem '/' hc
  rcases Reference.mem_of_mem_settle hmem with hslash | hc
  · exact .inl hslash
  · exact h.forall_mem c (hpart hc)

theorem hasDots_concat_iff (h : IsLinkPath path) :
    Reference.HasDots (path ++ ['/']) ↔ Reference.HasDots path := by
  obtain ⟨cs, rfl, -⟩ := h
  exact Reference.hasDots_concat_iff

theorem authority_concat_iff (h : IsLinkPath path) (hne : path ≠ ['/']) :
    ['/', '/'] <+: path ++ ['/'] ↔ ['/', '/'] <+: path := by
  obtain ⟨cs, rfl, -⟩ := h
  cases cs with
  | nil => exact absurd rfl hne
  | cons c cs => simp

/-- A path without dots is asked for as it is, unless it is taken for an authority. -/
theorem target?_eq (h : IsLinkPath path) (isOwn : List Char → Bool) {manner : Reference.Manner}
    (hauthority : manner = .reference → ¬ ['/', '/'] <+: path)
    (hdots : ¬ Reference.HasDots path) : manner.target? isOwn path = some path := by
  obtain ⟨cs, rfl, -⟩ := h
  refine Reference.Manner.target?_of_not_hasDots (fun hmanner hslash => ?_) hdots
  obtain ⟨rest, rfl⟩ := List.head?_eq_some_iff.1 hslash
  exact hauthority hmanner ⟨rest, rfl⟩

end IsLinkPath

/-! ## The path of the page -/

theorem docsBase_append_slash {path : List Char} (h : path.getLast? = some '/') :
    docsBase path ++ ['/'] = path := by
  rw [docsBase, if_pos h]
  exact List.dropLast_append_getLast? '/' h

theorem docsBase_of_no_slash {path : List Char} (h : path.getLast? ≠ some '/') :
    docsBase path = path :=
  if_neg h

theorem docsBase_concat (path : List Char) : docsBase (path ++ ['/']) = path := by
  rw [docsBase, if_pos List.getLast?_concat, List.dropLast_concat]

theorem length_le_docsBase (path : List Char) : path.length ≤ (docsBase path).length + 1 := by
  unfold docsBase
  split
  · rw [List.length_dropLast]
    exact Nat.le_add_of_sub_le (Nat.le_refl _)
  · exact Nat.le_succ _

theorem hasDots_docsBase {path : List Char} (h : IsLinkPath path) (hne : path ≠ ['/']) :
    Reference.HasDots (docsBase path) ↔ Reference.HasDots path := by
  by_cases hslash : path.getLast? = some '/'
  · rw [← (h.base hne).hasDots_concat_iff, docsBase_append_slash hslash]
  · rw [docsBase_of_no_slash hslash]

/-- Following dots leaves no dots, but all paths of the documentation would have them. -/
theorem isOutside_of_hasDots {base : List Char} (hbase : IsLinkPath base)
    (h : Reference.HasDots base) (path : List Char) :
    IsOutside base (Reference.settle path) := by
  obtain ⟨cs, rfl, -⟩ := hbase
  constructor
  · exact fun heq => Reference.not_hasDots_settle path (heq ▸ h)
  · exact fun rest heq => Reference.not_hasDots_settle path (heq ▸ Reference.hasDots_append h rest)

theorem isOutside_of_length_lt {base path : List Char} (h : path.length < base.length) :
    IsOutside base path := by
  constructor
  · exact fun heq => absurd h (heq ▸ Nat.lt_irrefl _)
  · intro rest heq
    rw [heq, List.length_append] at h
    exact absurd h (Nat.not_lt_of_le (Nat.le_add_right _ _))

/-- What is left of a link after an authority is too short. -/
theorem isOutside_of_authority {isOwn : List Char → Bool} {link target : List Char}
    (hlink : ['/', '/'] <+: link) (hne : docsBase link ≠ ['/'])
    (h : Reference.target? isOwn link = some target) : IsOutside (docsBase link) target := by
  obtain ⟨rest, rfl⟩ := hlink
  have hrest : rest ≠ [] := by
    rintro rfl
    exact hne rfl
  refine isOutside_of_length_lt ?_
  have htarget := Reference.length_le_of_target? hrest h
  have hlength := length_le_docsBase (['/', '/'] ++ rest)
  simp only [List.length_append, List.length_cons, List.length_nil] at hlength
  omega

end Service

end OriginGate
