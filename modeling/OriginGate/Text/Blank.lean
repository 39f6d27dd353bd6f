/-!
# White space

The white space of configuration entries and of environment files is Unicode's `White_Space`.

* `trim_eq_nil_iff`: a trimmed text is empty exactly if all of it is blank.
* `trimStart_cons`, `trimEnd_concat`: a text keeps the end that is not blank.
* `trim_of_not_isBlank`: a text without blanks is kept whole.
* `trim_padded`: blanks around a text are trimmed with those that it has.
-/

namespace OriginGate.Text

/-- Unicode `White_Space`. -/
def isBlank (c : Char) : Bool :=
  let n := c.toNat
  (0x09 ≤ n && n ≤ 0x0D) || n = 0x20 || n = 0x85 || n = 0xA0 || n = 0x1680 ||
    (0x2000 ≤ n && n ≤ 0x200A) || n = 0x2028 || n = 0x2029 || n = 0x202F || n = 0x205F ||
    n = 0x3000

/-- The text without the blanks it starts with. -/
def trimStart (cs : List Char) : List Char :=
  cs.dropWhile isBlank

/-- The text without the blanks it ends with. -/
def trimEnd (cs : List Char) : List Char :=
  (cs.reverse.dropWhile isBlank).reverse

/-- The text without the blanks at both ends. -/
def trim (cs : List Char) : List Char :=
  trimEnd (trimStart cs)

theorem dropWhile_eq_nil_iff_forall {α : Type} {p : α → Bool} {l : List α} :
    l.dropWhile p = [] ↔ ∀ x ∈ l, p x = true := by
  induction l with
  | nil => simp
  | cons x l ih => by_cases hx : p x <;> simp [hx, ih]

theorem trimStart_eq_nil_iff {cs : List Char} : trimStart cs = [] ↔ ∀ c ∈ cs, isBlank c = true :=
  dropWhile_eq_nil_iff_forall

theorem trimEnd_eq_nil_iff {cs : List Char} : trimEnd cs = [] ↔ ∀ c ∈ cs, isBlank c = true := by
  rw [trimEnd, List.reverse_eq_nil_iff, dropWhile_eq_nil_iff_forall]
  simp

theorem trim_eq_nil_iff {cs : List Char} : trim cs = [] ↔ ∀ c ∈ cs, isBlank c = true := by
  refine ⟨fun h => ?_, fun h => ?_⟩
  · have hs := trimEnd_eq_nil_iff.1 h
    cases hd : trimStart cs with
    | nil => exact trimStart_eq_nil_iff.1 hd
    | cons c r =>
      have hc : isBlank c = true := hs c (by simp [hd])
      have hn := List.head?_dropWhile_not isBlank cs
      simp only [trimStart] at hd
      rw [hd] at hn
      simp [hc] at hn
  · simp [trim, trimStart_eq_nil_iff.2 h, trimEnd]

theorem trimStart_cons {c : Char} (h : isBlank c = false) (cs : List Char) :
    trimStart (c :: cs) = c :: cs := by
  rw [trimStart, List.dropWhile_cons, if_neg (by simp [h])]

theorem trimEnd_concat {c : Char} (h : isBlank c = false) (cs : List Char) :
    trimEnd (cs ++ [c]) = cs ++ [c] := by
  rw [trimEnd, List.reverse_concat, List.dropWhile_cons, if_neg (by simp [h]),
    List.reverse_cons, List.reverse_reverse]

theorem trim_of_not_isBlank {cs : List Char} (h : ∀ c ∈ cs, isBlank c = false) : trim cs = cs := by
  have hstart : trimStart cs = cs := by
    cases cs with
    | nil => rfl
    | cons c cs => exact trimStart_cons (h c List.mem_cons_self) cs
  rw [trim, hstart]
  rcases List.eq_nil_or_concat cs with rfl | ⟨ds, c, rfl⟩
  · rfl
  · rw [List.concat_eq_append] at h ⊢
    exact trimEnd_concat (h c (by simp)) ds

theorem trimStart_append {before : List Char} (h : ∀ c ∈ before, isBlank c = true)
    (cs : List Char) : trimStart (before ++ cs) = trimStart cs :=
  List.dropWhile_append_of_pos h

theorem trimEnd_append {after : List Char} (h : ∀ c ∈ after, isBlank c = true)
    (cs : List Char) : trimEnd (cs ++ after) = trimEnd cs := by
  have hrev : ∀ c ∈ after.reverse, isBlank c = true := fun c hc => h c (List.mem_reverse.1 hc)
  rw [trimEnd, List.reverse_append, List.dropWhile_append_of_pos hrev, trimEnd]

theorem trim_padded {before after : List Char} (hbefore : ∀ c ∈ before, isBlank c = true)
    (hafter : ∀ c ∈ after, isBlank c = true) (cs : List Char) :
    trim (before ++ cs ++ after) = trim cs := by
  rw [trim, List.append_assoc, trimStart_append hbefore, trim]
  by_cases hcs : ∀ c ∈ cs, isBlank c = true
  · -- nothing is left of a blank text, so that the blanks after it are at its start
    have hblank : ∀ c ∈ cs ++ after, isBlank c = true := fun c hc =>
      (List.mem_append.1 hc).elim (hcs c) (hafter c)
    rw [trimStart_eq_nil_iff.2 hblank, trimStart_eq_nil_iff.2 hcs]
  · have hkept : ¬ (cs.dropWhile isBlank).isEmpty = true := fun h =>
      hcs (trimStart_eq_nil_iff.1 (List.isEmpty_iff.1 h))
    have hstart : trimStart (cs ++ after) = trimStart cs ++ after := by
      rw [trimStart, List.dropWhile_append, if_neg hkept, trimStart]
    rw [hstart, trimEnd_append hafter]

end OriginGate.Text
