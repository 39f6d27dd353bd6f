/-!
# Splitting a text at a separator

A text is a list of characters. `split` cuts it at every separator and `join` writes the
pieces back with the separator between them.

* `split_ne_nil`: there is always at least one piece.
* `join_split`: joining the pieces gives the text back.
* `mem_join`, `mem_join_of_mem`: a joined text holds the pieces and nothing but them and the
  separator.
* `not_mem_of_mem_split`: no piece holds the separator.
* `split_append`: the separator between two texts keeps their pieces apart.
* `append_sep_inj`: a text is cut at its first separator in one way.
* `split_join`: pieces without the separator come back from their joined text.
* `join_eq_nil`: nothing is written for no piece, or for one that is empty.
-/

namespace OriginGate.Text

/-- The pieces of a text between the separators; the empty text is one empty piece. -/
def split (sep : Char) : List Char → List (List Char)
  | [] => [[]]
  | c :: cs => if c = sep then [] :: split sep cs else (split sep cs).modifyHead (c :: ·)

/-- The pieces with the separator between neighbours. -/
def join (sep : List Char) : List (List Char) → List Char
  | [] => []
  | [p] => p
  | p :: q :: ps => p ++ sep ++ join sep (q :: ps)

theorem split_ne_nil (sep : Char) (cs : List Char) : split sep cs ≠ [] := by
  induction cs with
  | nil => simp [split]
  | cons c cs ih =>
    unfold split
    split
    · simp
    · cases h : split sep cs with
      | nil => exact absurd h ih
      | cons p ps => simp

theorem split_cons_ne {sep c : Char} {cs p : List Char} {ps : List (List Char)} (hc : c ≠ sep)
    (h : split sep cs = p :: ps) : split sep (c :: cs) = (c :: p) :: ps := by
  simp [split, hc, h]

theorem join_split (sep : Char) (cs : List Char) : join [sep] (split sep cs) = cs := by
  induction cs with
  | nil => rfl
  | cons c cs ih =>
    by_cases hc : c = sep
    · subst hc
      cases h : split c cs with
      | nil => exact absurd h (split_ne_nil c cs)
      | cons p ps =>
        rw [h] at ih
        simp [split, h, join, ih]
    · cases h : split sep cs with
      | nil => exact absurd h (split_ne_nil sep cs)
      | cons p ps =>
        rw [h] at ih
        rw [split_cons_ne hc h]
        cases ps with
        | nil => simpa [join] using ih
        | cons q qs => simpa [join] using ih

theorem mem_join {sep : List Char} {ps : List (List Char)} {c : Char} (h : c ∈ join sep ps) :
    c ∈ sep ∨ ∃ p ∈ ps, c ∈ p := by
  induction ps with
  | nil => simp [join] at h
  | cons p ps ih =>
    cases ps with
    | nil => exact .inr ⟨p, by simp, by simpa [join] using h⟩
    | cons q qs =>
      simp only [join, List.mem_append] at h
      rcases h with (h | h) | h
      · exact .inr ⟨p, by simp, h⟩
      · exact .inl h
      · exact (ih h).imp_right fun ⟨r, hr, hc⟩ => ⟨r, List.mem_cons_of_mem p hr, hc⟩

theorem mem_join_of_mem {sep : List Char} {ps : List (List Char)} {p : List Char} (hp : p ∈ ps)
    {c : Char} (hc : c ∈ p) : c ∈ join sep ps := by
  induction ps with
  | nil => cases hp
  | cons q ps ih =>
    cases ps with
    | nil => rwa [join, ← List.mem_singleton.1 hp]
    | cons r rs =>
      rw [join, List.mem_append, List.mem_append]
      rcases List.mem_cons.1 hp with rfl | hp
      · exact .inl (.inl hc)
      · exact .inr (ih hp)

theorem not_mem_of_mem_split {sep : Char} {cs p : List Char} (h : p ∈ split sep cs) : sep ∉ p := by
  induction cs generalizing p with
  | nil => simp_all [split]
  | cons c cs ih =>
    by_cases hc : c = sep
    · subst hc
      simp only [split, if_true, List.mem_cons] at h
      rcases h with rfl | h
      · simp
      · exact ih h
    · cases hs : split sep cs with
      | nil => exact absurd hs (split_ne_nil sep cs)
      | cons q qs =>
        rw [split_cons_ne hc hs, List.mem_cons] at h
        rcases h with rfl | h
        · have := ih (p := q) (by simp [hs])
          simp [this, Ne.symm hc]
        · exact ih (by simp [hs, h])

/-- The pieces of two texts around a separator. -/
theorem split_append (sep : Char) (cs ds : List Char) :
    split sep (cs ++ sep :: ds) = split sep cs ++ split sep ds := by
  induction cs with
  | nil => simp [split]
  | cons c cs ih =>
    by_cases hc : c = sep
    · simp [split, hc, ih]
    · cases hs : split sep cs with
      | nil => exact absurd hs (split_ne_nil sep cs)
      | cons p ps =>
        rw [hs, List.cons_append] at ih
        rw [List.cons_append, split_cons_ne hc ih, split_cons_ne hc hs, List.cons_append]

theorem split_of_not_mem {sep : Char} {p : List Char} (hp : sep ∉ p) : split sep p = [p] := by
  induction p with
  | nil => rfl
  | cons c p ih =>
    simp only [List.mem_cons, not_or] at hp
    rw [split_cons_ne (Ne.symm hp.1) (ih hp.2)]

theorem split_append_sep {sep : Char} {p : List Char} (hp : sep ∉ p) (cs : List Char) :
    split sep (p ++ sep :: cs) = p :: split sep cs := by
  rw [split_append, split_of_not_mem hp, List.singleton_append]

theorem append_sep_inj {sep : Char} {p q : List Char} (hp : sep ∉ p) (hq : sep ∉ q)
    {cs ds : List Char} (h : p ++ sep :: cs = q ++ sep :: ds) : p = q ∧ cs = ds := by
  have hsplit := congrArg (split sep) h
  rw [split_append_sep hp, split_append_sep hq] at hsplit
  obtain ⟨rfl, -⟩ := List.cons.inj hsplit
  exact ⟨rfl, (List.cons.inj (List.append_cancel_left h)).2⟩

theorem split_join {sep : Char} {ps : List (List Char)} (hne : ps ≠ []) (h : ∀ p ∈ ps, sep ∉ p) :
    split sep (join [sep] ps) = ps := by
  induction ps with
  | nil => exact absurd rfl hne
  | cons p ps ih =>
    cases ps with
    | nil => exact split_of_not_mem (h p (by simp))
    | cons q qs =>
      simp only [join, List.append_assoc, List.cons_append, List.nil_append]
      rw [split_append_sep (h p (by simp)), ih (by simp) fun r hr => h r (by simp [hr])]

theorem join_eq_nil {sep : List Char} (hsep : sep ≠ []) {ps : List (List Char)}
    (h : join sep ps = []) : ps = [] ∨ ps = [[]] := by
  cases ps with
  | nil => exact .inl rfl
  | cons p ps =>
    cases ps with
    | nil => exact .inr (congrArg (fun p => [p]) h)
    | cons q qs =>
      rw [join, List.append_eq_nil_iff, List.append_eq_nil_iff] at h
      exact absurd h.1.2 hsep

end OriginGate.Text
