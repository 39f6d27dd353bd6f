import Mathlib.Data.List.Flatten
import OriginGate.Text.Split

/-!
# Where a link leads

A client takes a link for a reference. Two slashes at its start name an authority, which may be that
of another service. The segments `.` and `..` of a path are dots: they stand for the place itself
and for the one above it, and the client follows them before it asks.

* `Reference.not_hasDots_settle`: no dots are left in what is asked for.
* `Reference.settle_of_not_hasDots`: a path without dots is asked for as it is.
* `Reference.hasDots_append`: dots are dots where the path goes on, too.
* `Reference.Manner.target?_of_not_hasDots`, `exists_of_target?`: what is asked for when a link is
  followed, as a reference or after the address of the service.
* `Reference.length_le_of_target?`: after an authority that is shorter than the link.
-/

namespace OriginGate.Http.Reference

open Text

/-! ## Segments -/

/-- The segments of a path that starts with a slash. -/
def segments (path : List Char) : List (List Char) :=
  split '/' (path.drop 1)

theorem segments_ne_nil (path : List Char) : segments path ≠ [] :=
  split_ne_nil '/' (path.drop 1)

theorem flatMap_slash {ps : List (List Char)} (hne : ps ≠ []) :
    ps.flatMap ('/' :: ·) = '/' :: join ['/'] ps := by
  induction ps with
  | nil => exact absurd rfl hne
  | cons p ps ih =>
    cases ps with
    | nil => simp [join]
    | cons q qs =>
      rw [List.flatMap_cons, ih (List.cons_ne_nil q qs), join, List.append_assoc,
        List.singleton_append, List.cons_append]

theorem segments_flatMap {ps : List (List Char)} (hne : ps ≠ []) (h : ∀ p ∈ ps, '/' ∉ p) :
    segments (ps.flatMap ('/' :: ·)) = ps := by
  rw [flatMap_slash hne]
  exact split_join hne h

theorem flatMap_segments (cs : List Char) :
    (segments ('/' :: cs)).flatMap ('/' :: ·) = '/' :: cs := by
  rw [flatMap_slash (segments_ne_nil _)]
  exact congrArg _ (join_split '/' cs)

/-! ## Dots -/

/-- Whether a segment stands for a place: `.` for its own and `..` for the one above. -/
def isDots (segment : List Char) : Bool :=
  segment = ['.'] || segment = ['.', '.']

/-- The segments followed so far, the last one first, with one more. -/
def follow (followed : List (List Char)) (segment : List Char) : List (List Char) :=
  if segment = ['.', '.'] then followed.tail
  else if segment = ['.'] then followed
  else segment :: followed

/-- The segments, with a slash after dots at the end. -/
def closed (ps : List (List Char)) : List (List Char) :=
  if ps.getLast?.any isDots then ps ++ [[]] else ps

/-- The path that a client asks for when it follows the dots of a path. -/
def settle (path : List Char) : List Char :=
  ((closed (segments path)).foldl follow []).reverse.flatMap ('/' :: ·)

def HasDots (path : List Char) : Prop :=
  ∃ p ∈ segments path, isDots p = true

instance (path : List Char) : Decidable (HasDots path) :=
  inferInstanceAs (Decidable (∃ p ∈ segments path, isDots p = true))

theorem follow_of_not_isDots {p : List Char} (h : isDots p = false)
    (followed : List (List Char)) : follow followed p = p :: followed := by
  simp only [isDots, Bool.or_eq_false_iff, decide_eq_false_iff_not] at h
  rw [follow, if_neg h.2, if_neg h.1]

theorem foldl_follow_of_not_isDots {ps : List (List Char)} (h : ∀ p ∈ ps, isDots p = false)
    (followed : List (List Char)) : ps.foldl follow followed = ps.reverse ++ followed := by
  induction ps generalizing followed with
  | nil => rfl
  | cons p ps ih =>
    obtain ⟨hp, hps⟩ := List.forall_mem_cons.1 h
    rw [List.foldl_cons, follow_of_not_isDots hp, ih hps, List.reverse_cons, List.append_assoc,
      List.singleton_append]

theorem not_isDots_of_mem_foldl {ps followed : List (List Char)}
    (h : ∀ p ∈ followed, isDots p = false) :
    ∀ p ∈ ps.foldl follow followed, isDots p = false := by
  induction ps generalizing followed with
  | nil => exact h
  | cons p ps ih =>
    rw [List.foldl_cons]
    refine ih ?_
    unfold follow
    split
    · exact fun q hq => h q (List.mem_of_mem_tail hq)
    · rename_i hup
      split
      · exact h
      · rename_i hhere
        exact List.forall_mem_cons.2 ⟨by simp [isDots, hup, hhere], h⟩

/-- Segments are dropped, but neither added nor moved. -/
theorem sublist_foldl_follow (ps followed : List (List Char)) :
    (ps.foldl follow followed).Sublist (ps.reverse ++ followed) := by
  induction ps generalizing followed with
  | nil => exact List.Sublist.refl _
  | cons p ps ih =>
    rw [List.foldl_cons, List.reverse_cons, List.append_assoc, List.singleton_append]
    refine (ih (follow followed p)).trans (List.Sublist.append_left ?_ _)
    unfold follow
    split
    · exact (List.tail_sublist followed).cons p
    · split
      · exact List.sublist_cons_self p followed
      · exact List.Sublist.refl _

/-! ## What is asked for -/

theorem sublist_followed (ps : List (List Char)) :
    ((closed ps).foldl follow []).reverse.Sublist (ps ++ [[]]) := by
  have hclosed : (closed ps).Sublist (ps ++ [[]]) := by
    unfold closed
    split
    · exact List.Sublist.refl _
    · exact List.sublist_append_left ps [[]]
  have hfollowed := (sublist_foldl_follow (closed ps) []).reverse
  rw [List.append_nil, List.reverse_reverse] at hfollowed
  exact hfollowed.trans hclosed

/-- The last segment stays, since it is not dots any more. -/
theorem followed_ne_nil (path : List Char) :
    ((closed (segments path)).foldl follow []).reverse ≠ [] := by
  have hne := segments_ne_nil path
  rw [Ne, List.reverse_eq_nil_iff]
  unfold closed
  split
  · rw [List.foldl_append]
    exact List.cons_ne_nil [] _
  · rename_i hlast
    rw [List.getLast?_eq_some_getLast hne, Option.any_some, Bool.not_eq_true] at hlast
    rw [← List.dropLast_concat_getLast hne, List.foldl_append, List.foldl_cons, List.foldl_nil,
      follow_of_not_isDots hlast]
    exact List.cons_ne_nil _ _

theorem segments_settle (path : List Char) :
    segments (settle path) = ((closed (segments path)).foldl follow []).reverse := by
  refine segments_flatMap (followed_ne_nil path) fun p hp => ?_
  rcases List.mem_append.1 ((sublist_followed (segments path)).subset hp) with hmem | hmem
  · exact not_mem_of_mem_split hmem
  · rw [List.mem_singleton.1 hmem]
    exact List.not_mem_nil

theorem exists_settle_eq_cons (path : List Char) : ∃ cs, settle path = '/' :: cs :=
  ⟨_, flatMap_slash (followed_ne_nil path)⟩

theorem mem_of_mem_settle {path : List Char} {c : Char} (h : c ∈ settle path) :
    c = '/' ∨ c ∈ path := by
  obtain ⟨p, hp, hc⟩ := List.mem_flatMap.1 h
  rcases List.mem_cons.1 hc with hslash | hc
  · exact .inl hslash
  · rcases List.mem_append.1 ((sublist_followed (segments path)).subset hp) with hp | hp
    · have hjoin : c ∈ join ['/'] (segments path) := mem_join_of_mem hp hc
      rw [segments, join_split] at hjoin
      exact .inr (List.mem_of_mem_drop hjoin)
    · rw [List.mem_singleton.1 hp] at hc
      cases hc

theorem not_hasDots_settle (path : List Char) : ¬ HasDots (settle path) := by
  rintro ⟨p, hp, hdots⟩
  rw [segments_settle, List.mem_reverse] at hp
  rw [not_isDots_of_mem_foldl (fun q hq => absurd hq List.not_mem_nil) p hp] at hdots
  cases hdots

theorem settle_of_not_hasDots {cs : List Char} (h : ¬ HasDots ('/' :: cs)) :
    settle ('/' :: cs) = '/' :: cs := by
  have hall : ∀ p ∈ segments ('/' :: cs), isDots p = false := fun p hp =>
    Bool.eq_false_iff.2 fun hdots => h ⟨p, hp, hdots⟩
  have hclosed : closed (segments ('/' :: cs)) = segments ('/' :: cs) := by
    refine if_neg fun hlast => ?_
    obtain ⟨p, hp, hdots⟩ := (Option.any_eq_true _ _).1 hlast
    rw [hall p (List.mem_of_getLast? hp)] at hdots
    cases hdots
  rw [settle, hclosed, foldl_follow_of_not_isDots hall, List.append_nil, List.reverse_reverse,
    flatMap_segments]

theorem length_settle_le (path : List Char) : (settle path).length ≤ path.length + 1 := by
  cases path with
  | nil => decide
  | cons c cs =>
    have hlength := ((sublist_followed (segments (c :: cs))).flatMap ('/' :: ·)).length_le
    have hsame : segments (c :: cs) = segments ('/' :: cs) := rfl
    rw [List.flatMap_append, hsame, flatMap_segments, List.length_append] at hlength
    exact hlength

theorem hasDots_append {cs : List Char} (h : HasDots ('/' :: cs)) (rest : List Char) :
    HasDots ('/' :: cs ++ '/' :: rest) := by
  obtain ⟨p, hp, hdots⟩ := h
  have hsegments : segments ('/' :: cs ++ '/' :: rest) = segments ('/' :: cs) ++ split '/' rest :=
    split_append '/' cs rest
  exact ⟨p, hsegments ▸ List.mem_append_left _ hp, hdots⟩

theorem hasDots_concat_iff {cs : List Char} :
    HasDots ('/' :: cs ++ ['/']) ↔ HasDots ('/' :: cs) := by
  refine ⟨fun ⟨p, hp, hdots⟩ => ?_, fun h => hasDots_append h []⟩
  have hsegments : segments ('/' :: cs ++ ['/']) = segments ('/' :: cs) ++ [[]] :=
    split_append '/' cs []
  rw [hsegments] at hp
  rcases List.mem_append.1 hp with hp | hp
  · exact ⟨p, hp, hdots⟩
  · rw [List.mem_singleton.1 hp] at hdots
    cases hdots

/-! ## Targets -/

/-- What a client asks of a service for a reference that is a path; `isOwn` tells the authorities of
the service. A reference to another service asks nothing of this one, and neither does one that
starts with no slash, whose meaning depends on where it was found. -/
def target? (isOwn : List Char → Bool) : List Char → Option (List Char)
  | '/' :: '/' :: rest =>
    -- more slashes before the authority do not count
    let named := rest.dropWhile (· = '/')
    if isOwn (named.takeWhile (· ≠ '/')) then some (settle (named.dropWhile (· ≠ '/'))) else none
  | '/' :: rest => some (settle ('/' :: rest))
  | _ => none

/-- How a client makes an address of a link: it takes the link for a reference, or puts it after the
address of the service. -/
inductive Manner where
  | reference
  | appended
  deriving DecidableEq, Repr

/-- What a client that follows links in this manner asks of a service. -/
def Manner.target? (isOwn : List Char → Bool) (manner : Manner) (link : List Char) :
    Option (List Char) :=
  match manner with
  | .reference => Reference.target? isOwn link
  | .appended => if link.head? = some '/' then some (settle link) else none

variable {isOwn : List Char → Bool}

theorem target?_of_head?_ne {cs : List Char} (h : cs.head? ≠ some '/') :
    target? isOwn ('/' :: cs) = some (settle ('/' :: cs)) := by
  unfold target?
  split
  · rename_i hslashes
    cases hslashes
    exact absurd rfl h
  · rename_i hslash
    cases hslash
    rfl
  · rename_i hslash
    exact absurd rfl (hslash cs)

/-- Only references name an authority, by two slashes at the start. -/
theorem Manner.target?_of_not_hasDots {manner : Manner} {cs : List Char}
    (h : manner = .reference → cs.head? ≠ some '/') (hdots : ¬ HasDots ('/' :: cs)) :
    manner.target? isOwn ('/' :: cs) = some ('/' :: cs) := by
  have htarget : manner.target? isOwn ('/' :: cs) = some (settle ('/' :: cs)) := by
    cases manner with
    | reference => exact target?_of_head?_ne (h rfl)
    | appended => rfl
  rw [htarget, settle_of_not_hasDots hdots]

/-- A target is a path of the link whose dots were followed. -/
theorem exists_of_target? {link target : List Char} (h : target? isOwn link = some target) :
    ∃ path : List Char, path ⊆ link ∧ target = settle path := by
  unfold target? at h
  split at h
  · rename_i rest
    dsimp only at h
    split at h
    · refine ⟨_, fun c hc => ?_, (Option.some.inj h).symm⟩
      have hrest := (List.dropWhile_sublist _).subset ((List.dropWhile_sublist _).subset hc)
      exact List.mem_cons_of_mem _ (List.mem_cons_of_mem _ hrest)
    · cases h
  · exact ⟨_, List.Subset.refl _, (Option.some.inj h).symm⟩
  · cases h

theorem Manner.exists_of_target? {manner : Manner} {link target : List Char}
    (h : manner.target? isOwn link = some target) :
    ∃ path : List Char, path ⊆ link ∧ target = settle path := by
  cases manner with
  | reference => exact Reference.exists_of_target? h
  | appended =>
    simp only [Manner.target?] at h
    split at h
    · exact ⟨_, List.Subset.refl _, (Option.some.inj h).symm⟩
    · cases h

/-- What is asked for after an authority is shorter than the link, for the two slashes. -/
theorem length_le_of_target? {rest target : List Char} (hrest : rest ≠ [])
    (h : target? isOwn ('/' :: '/' :: rest) = some target) : target.length ≤ rest.length := by
  simp only [target?] at h
  split at h
  · rw [← Option.some.inj h]
    have hnamed := (List.dropWhile_sublist (· = '/') (l := rest)).length_le
    cases hcases : rest.dropWhile (· = '/') with
    | nil => exact List.length_pos_iff.2 hrest
    | cons c cs =>
      have hc : c ≠ '/' := by
        have hhead := List.head?_dropWhile_not (· = '/') rest
        rw [hcases] at hhead
        simpa using hhead
      have hpath := (List.dropWhile_sublist (· ≠ '/') (l := cs)).length_le
      rw [hcases] at hnamed
      rw [List.dropWhile_cons, if_pos (decide_eq_true hc)]
      exact Nat.le_trans (length_settle_le _) (Nat.le_trans (Nat.succ_le_succ hpath) hnamed)
  · cases h

end OriginGate.Http.Reference
