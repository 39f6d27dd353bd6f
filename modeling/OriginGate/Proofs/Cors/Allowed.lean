import OriginGate.Cors.Allowed
import OriginGate.Proofs.Cors.Policy

/-!
# Lists of names

A list that allows names must name something with every entry. The first entry that does not is the
fault; only a wildcard makes up for it, wherever it stands.

* `IsFirstWithout`: the first element of a list that lacks a property, with
  `forM_eq_error_iff`: checks in a row fail with the first that fails.
* `Allowed.parse_eq_error_iff`: which entry of a list is its fault.
* `Allowed.exists_parse_iff`: which lists have none.
* `Allowed.parse_eq_any_iff`, `Allowed.map_chars_of_parse`: what the other lists are read as.
* `isSome_method_iff`, `isSome_fieldName_iff`: which texts are methods and field names.
-/

namespace OriginGate

open Http Text

/-! ## Outcomes -/

section Outcomes

variable {α β ε ε' : Type} {x : Except ε α}

theorem map_eq_error_iff {f : α → β} {e : ε} : x.map f = .error e ↔ x = .error e := by
  cases x with
  | error e' => exact ⟨fun h => congrArg Except.error (Except.error.inj h), fun h => h ▸ rfl⟩
  | ok a => exact ⟨nofun, nofun⟩

theorem map_eq_ok_iff : (x.map fun _ => ()) = .ok () ↔ ∃ a, x = .ok a := by
  cases x with
  | error e => exact ⟨nofun, fun h => nomatch h⟩
  | ok a => exact ⟨fun _ => ⟨a, rfl⟩, fun _ => rfl⟩

theorem mapError_eq_ok_iff {f : ε → ε'} {a : α} : x.mapError f = .ok a ↔ x = .ok a := by
  cases x with
  | error e => exact ⟨nofun, nofun⟩
  | ok b => exact ⟨fun h => congrArg Except.ok (Except.ok.inj h), fun h => h ▸ rfl⟩

theorem mapError_eq_error_iff {f : ε → ε'} {e' : ε'} :
    x.mapError f = .error e' ↔ ∃ e, x = .error e ∧ e' = f e := by
  cases x with
  | error e =>
    constructor
    · exact fun h => ⟨e, rfl, (Except.error.inj h).symm⟩
    · rintro ⟨_, h, rfl⟩
      cases h
      rfl
  | ok a => exact ⟨nofun, fun ⟨_, h, _⟩ => nomatch h⟩

theorem bind_congr_of_ok {f g : α → Except ε β} (h : ∀ a, x = .ok a → f a = g a) :
    (x >>= f) = x >>= g := by
  cases x with
  | error e => rfl
  | ok a => exact h a rfl

theorem test_eq_ok_iff {p : Prop} [Decidable p] {e : ε} :
    (if p then Except.ok () else .error e) = .ok () ↔ p := by
  split
  · rename_i h
    exact ⟨fun _ => h, fun _ => rfl⟩
  · rename_i h
    exact ⟨nofun, fun hp => absurd hp h⟩

theorem test_eq_error_iff {p : Prop} [Decidable p] {e e' : ε} :
    (if p then Except.ok () else .error e) = .error e' ↔ ¬ p ∧ e' = e := by
  split
  · rename_i h
    exact ⟨nofun, fun hp => absurd h hp.1⟩
  · rename_i h
    exact ⟨fun he => ⟨h, (Except.error.inj he).symm⟩, fun he => he.2 ▸ rfl⟩

theorem test_bind {p : Prop} [Decidable p] {e : ε} {f : Unit → Except ε β} :
    ((if ¬ p then Except.ok () else .error e) >>= f) = if p then .error e else f () := by
  split_ifs <;> rfl

end Outcomes

/-! ## The first fault -/

/-- The first element of a list that lacks a property. -/
def IsFirstWithout {α : Type} (P : α → Prop) (list : List α) (a : α) : Prop :=
  ∃ before after, list = before ++ a :: after ∧ (∀ b ∈ before, P b) ∧ ¬ P a

section First

variable {α ε : Type} {P : α → Prop} {list : List α} {a b : α}

theorem IsFirstWithout.lacks (h : IsFirstWithout P list a) : ¬ P a :=
  let ⟨_, _, _, _, ha⟩ := h
  ha

theorem not_isFirstWithout_nil : ¬ IsFirstWithout P [] a := by
  rintro ⟨before, after, h, -⟩
  cases before <;> cases h

theorem isFirstWithout_cons_of_not (h : ¬ P b) : IsFirstWithout P (b :: list) a ↔ a = b := by
  constructor
  · rintro ⟨before, after, hlist, hbefore, -⟩
    cases before with
    | nil => exact (List.cons.inj hlist).1.symm
    | cons c before =>
      obtain ⟨rfl, -⟩ := List.cons.inj hlist
      exact absurd (hbefore b List.mem_cons_self) h
  · rintro rfl
    exact ⟨[], list, rfl, nofun, h⟩

theorem isFirstWithout_cons (h : P b) :
    IsFirstWithout P (b :: list) a ↔ IsFirstWithout P list a := by
  constructor
  · rintro ⟨before, after, hlist, hbefore, ha⟩
    cases before with
    | nil =>
      obtain ⟨rfl, -⟩ := List.cons.inj hlist
      exact absurd h ha
    | cons c before =>
      obtain ⟨rfl, hrest⟩ := List.cons.inj hlist
      exact ⟨before, after, hrest, (List.forall_mem_cons.1 hbefore).2, ha⟩
  · rintro ⟨before, after, rfl, hbefore, ha⟩
    exact ⟨b :: before, after, rfl, List.forall_mem_cons.2 ⟨h, hbefore⟩, ha⟩

theorem isFirstWithout_map {β : Type} {f : β → α} (hf : Function.Injective f) {bs : List β}
    {b : β} : IsFirstWithout P (bs.map f) (f b) ↔ IsFirstWithout (fun b => P (f b)) bs b := by
  induction bs with
  | nil => exact iff_of_false not_isFirstWithout_nil not_isFirstWithout_nil
  | cons c bs ih =>
    rw [List.map_cons]
    by_cases hc : P (f c)
    · rw [isFirstWithout_cons hc, isFirstWithout_cons (P := fun b => P (f b)) hc, ih]
    · rw [isFirstWithout_cons_of_not hc, isFirstWithout_cons_of_not (P := fun b => P (f b)) hc,
        hf.eq_iff]

theorem exists_isFirstWithout_iff :
    (∃ a, IsFirstWithout P list a) ↔ ¬ ∀ a ∈ list, P a := by
  constructor
  · rintro ⟨a, before, after, rfl, -, ha⟩ hall
    exact ha (hall a (by simp))
  · intro hnot
    induction list with
    | nil => exact absurd nofun hnot
    | cons b list ih =>
      by_cases hb : P b
      · obtain ⟨a, ha⟩ := ih fun hall => hnot (List.forall_mem_cons.2 ⟨hb, hall⟩)
        exact ⟨a, (isFirstWithout_cons hb).2 ha⟩
      · exact ⟨b, (isFirstWithout_cons_of_not hb).2 rfl⟩

theorem forM_eq_ok_iff {check : α → Except ε Unit} :
    forM list check = .ok () ↔ ∀ a ∈ list, check a = .ok () := by
  induction list with
  | nil => exact ⟨fun _ => nofun, fun _ => rfl⟩
  | cons b list ih =>
    rw [List.forM_cons, List.forall_mem_cons, ← ih]
    cases hb : check b with
    | error e => exact ⟨nofun, fun h => nomatch h.1⟩
    | ok _ => exact ⟨fun h => ⟨rfl, h⟩, fun h => h.2⟩

theorem forM_eq_error_iff {check : α → Except ε Unit} {e : ε} :
    forM list check = .error e ↔
      ∃ a, IsFirstWithout (fun a => check a = .ok ()) list a ∧ check a = .error e := by
  induction list with
  | nil => exact ⟨nofun, fun ⟨a, ha, _⟩ => absurd ha not_isFirstWithout_nil⟩
  | cons b list ih =>
    rw [List.forM_cons]
    cases hb : check b with
    | error e' =>
      have hnot : ¬ check b = .ok () := by
        rw [hb]
        nofun
      simp only [isFirstWithout_cons_of_not (P := fun a => check a = .ok ()) hnot,
        exists_eq_left, hb]
      rfl
    | ok _ =>
      simp only [isFirstWithout_cons (P := fun a => check a = .ok ()) hb]
      exact ih

end First

/-! ## Lists with a wildcard and without -/

/-- The texts of a list that count, in order: without surrounding blanks, and no empty ones. -/
def entryTexts (list : List String) : List (List Char) :=
  (list.map fun e => trim e.toList).filter (! ·.isEmpty)

/-- Whether an entry of the list is the wildcard. -/
def HasWildcard (list : List String) : Prop :=
  ∃ e ∈ list, trim e.toList = ['*']

instance (list : List String) : Decidable (HasWildcard list) :=
  inferInstanceAs (Decidable (∃ e ∈ list, trim e.toList = ['*']))

theorem entryTexts_eq_nil_iff {list : List String} :
    entryTexts list = [] ↔ ∀ e ∈ list, ∀ c ∈ e.toList, isBlank c = true := by
  rw [entryTexts, ← map_toList_entries, List.map_eq_nil_iff, entries_eq_nil_iff]

theorem hasWildcard_iff {list : List String} : HasWildcard list ↔ "*" ∈ entries list := by
  have hinj : Function.Injective String.toList := fun _ _ => String.toList_inj.1
  rw [← List.mem_map_of_injective hinj, map_toList_entries, List.mem_filter, List.mem_map]
  simp [HasWildcard]

/-- Reading all entries fails as checking them one by one does. -/
theorem map_readAll {α : Type} (read? : List Char → Option α) (es : List String) :
    ((readAll read? es).map fun _ => ()) =
      forM es fun e => if (read? e.toList).isSome then .ok () else .error e := by
  induction es with
  | nil => rfl
  | cons e es ih =>
    rw [List.forM_cons, readAll, ← ih]
    cases read? e.toList with
    | none => rfl
    | some a => cases readAll read? es <;> rfl

namespace Allowed

variable {α : Type} {read? : List Char → Option α} {list : List String}

theorem parse_eq_any_iff : parse read? list = .ok .any ↔ HasWildcard list := by
  rw [hasWildcard_iff]
  refine ⟨fun h => ?_, parse_wildcard read?⟩
  by_contra hstar
  rw [parse, if_neg fun hmem => hstar (List.contains_iff_mem.1 hmem)] at h
  cases hread : readAll read? (entries list) with
  | error e =>
    rw [hread] at h
    cases h
  | ok vs =>
    rw [hread] at h
    cases h

theorem eq_any_of_parse {a : Allowed α} (h : parse read? list = .ok a)
    (hstar : HasWildcard list) : a = .any := by
  rw [parse_eq_any_iff.2 hstar] at h
  exact (Except.ok.inj h).symm

/-- A parsed list has the texts that count, as its values write them. -/
theorem map_chars_of_parse {chars : α → List Char} {write : List Char → List Char}
    (hwrite : ∀ cs a, read? cs = some a → chars a = write cs) {vs : List α}
    (h : parse read? list = .ok (.list vs)) : vs.map chars = (entryTexts list).map write := by
  obtain ⟨-, hmap⟩ := parse_eq_list h
  rw [entryTexts, ← map_toList_entries]
  clear h
  generalize entries list = es at hmap ⊢
  induction es generalizing vs with
  | nil =>
    rw [List.map_eq_nil_iff.1 hmap.symm]
    rfl
  | cons e es ih =>
    cases vs with
    | nil => cases hmap
    | cons v vs =>
      obtain ⟨hv, hvs⟩ := List.cons.inj hmap
      rw [List.map_cons, List.map_cons, List.map_cons, hwrite _ _ hv, ih hvs]

theorem map_parse (h : ¬ HasWildcard list) :
    ((parse read? list).map fun _ => ()) =
      forM (entries list) fun e => if (read? e.toList).isSome then .ok () else .error e := by
  rw [hasWildcard_iff] at h
  rw [parse, if_neg fun hmem => h (List.contains_iff_mem.1 hmem), ← map_readAll]
  cases readAll read? (entries list) <;> rfl

/-- The fault of a list is its first entry that names nothing, unless there is a wildcard. -/
theorem parse_eq_error_iff {e : String} :
    parse read? list = .error e ↔
      ¬ HasWildcard list ∧
        IsFirstWithout (fun e => (read? e.toList).isSome = true) (entries list) e := by
  by_cases hstar : HasWildcard list
  · rw [parse_eq_any_iff.2 hstar]
    exact ⟨nofun, fun h => absurd hstar h.1⟩
  · rw [← map_eq_error_iff (f := fun _ => ()), map_parse hstar, forM_eq_error_iff]
    simp only [hstar, not_false_eq_true, true_and, test_eq_ok_iff]
    constructor
    · rintro ⟨a, ha, hfault⟩
      rw [if_neg ha.lacks] at hfault
      exact Except.error.inj hfault ▸ ha
    · exact fun h => ⟨e, h, if_neg h.lacks⟩

theorem exists_parse_iff :
    (∃ a, parse read? list = .ok a) ↔
      HasWildcard list ∨ ∀ e ∈ entries list, (read? e.toList).isSome = true := by
  by_cases hstar : HasWildcard list
  · exact ⟨fun _ => .inl hstar, fun _ => ⟨.any, parse_eq_any_iff.2 hstar⟩⟩
  · rw [← map_eq_ok_iff, map_parse hstar, forM_eq_ok_iff]
    simp only [hstar, false_or, test_eq_ok_iff]

end Allowed

/-! ## Tokens -/

/-- A method is written with one or more characters of tokens. -/
def IsToken (text : String) : Prop :=
  text.toList ≠ [] ∧ ∀ c ∈ text.toList, isTokenChar c = true

/-- A field name is a token that is not too long. -/
def IsHeaderName (text : String) : Prop :=
  IsToken text ∧ (Utf8.ofString text).length ≤ 65535

instance (text : String) : Decidable (IsToken text) :=
  decidable_of_iff ((!text.toList.isEmpty && text.toList.all isTokenChar) = true)
    (by simp [IsToken])

instance (text : String) : Decidable (IsHeaderName text) :=
  inferInstanceAs (Decidable (IsToken text ∧ (Utf8.ofString text).length ≤ 65535))

theorem isSome_method_iff {text : String} :
    (Method.ofText? text.toList).isSome = true ↔ IsToken text := by
  rw [Method.ofText?, IsToken]
  simp only [Bool.and_eq_true, Bool.not_eq_true', List.isEmpty_eq_false_iff, List.all_eq_true]
  split <;> simp_all

theorem isTokenChar_toLower_of_isUpper {c : Char} (h : c.isUpper = true) :
    isTokenChar c = true ∧ isLowerTokenChar c.toLower = true := by
  have hrange : 'A' ≤ c ∧ c ≤ 'Z' := of_decide_eq_true h
  have hall : ∀ n ∈ List.range 91, 65 ≤ n → isTokenChar (Char.ofNat n) = true ∧
      isLowerTokenChar (Char.ofNat n).toLower = true := by decide
  have hc := hall c.toNat (List.mem_range.2 (Nat.lt_succ_of_le hrange.2)) hrange.1
  rwa [Char.ofNat_toNat] at hc

/-- Field names are tokens in any case. -/
theorem isLowerTokenChar_toLower (c : Char) : isLowerTokenChar c.toLower = isTokenChar c := by
  cases h : c.isUpper with
  | true =>
    obtain ⟨htoken, hlower⟩ := isTokenChar_toLower_of_isUpper h
    rw [htoken, hlower]
  | false =>
    have hsame : c.toLower = c := dif_neg (of_decide_eq_false h)
    rw [hsame, isLowerTokenChar, h]
    exact Bool.and_true _

theorem isSome_fieldName_iff {text : String} :
    (FieldName.ofText? text.toList).isSome = true ↔ IsHeaderName text := by
  have hread : (FieldName.ofText? text.toList).isSome = true ↔
      text.toList ≠ [] ∧ text.toList.length ≤ 65535 ∧ ∀ c ∈ text.toList, isTokenChar c = true := by
    have hfield : isFieldName (text.toList.map Char.toLower) = true ↔
        text.toList ≠ [] ∧ text.toList.length ≤ 65535 ∧
          ∀ c ∈ text.toList, isTokenChar c = true := by
      simp [isFieldName, maxNameLength, isLowerTokenChar_toLower, and_assoc]
    rw [FieldName.ofText?, ← hfield]
    split <;> simp_all
  have hbytes (h : ∀ c ∈ text.toList, isTokenChar c = true) :
      (Utf8.ofString text).length = text.toList.length := by
    refine Utf8.length_encode_of_ascii fun c hc => ?_
    have hgraphic := isGraphic_of_isTokenChar (h c hc)
    simp only [isGraphic, Bool.and_eq_true, decide_eq_true_eq] at hgraphic
    omega
  rw [hread, IsHeaderName, IsToken]
  constructor
  · rintro ⟨hne, hlength, htoken⟩
    exact ⟨⟨hne, htoken⟩, hbytes htoken ▸ hlength⟩
  · rintro ⟨⟨hne, htoken⟩, hlength⟩
    exact ⟨hne, hbytes htoken ▸ hlength, htoken⟩

theorem Http.Method.isTokenChar_of_mem {m : Method} {c : Char} (h : c ∈ m.chars) :
    isTokenChar c = true := by
  have hall := m.wellFormed
  rw [Bool.and_eq_true, List.all_eq_true] at hall
  exact hall.2 c h

theorem Http.FieldName.isTokenChar_of_mem {n : FieldName} {c : Char} (h : c ∈ n.chars) :
    isTokenChar c = true := by
  have hall := n.wellFormed
  rw [isFieldName, Bool.and_eq_true, List.all_eq_true] at hall
  exact (Bool.and_eq_true_iff.1 (hall.2 c h)).1

end OriginGate
