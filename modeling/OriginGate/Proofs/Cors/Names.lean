import OriginGate.Proofs.Cors.Allowed

/-!
# What a list of names allows

Methods and field names are read from lists in one way. A wildcard entry decides, whatever stands
beside it. Without one, every entry has to be a name: the list then allows these names, in their
order and as often as they occur, and otherwise its fault is the first entry that is no name.

* `IsNameReader`: what methods and field names have in common, with `isNameReader_method` and
  `isNameReader_fieldName`.
* `Allowed.IsRead`: what a list is read as, told by its entries.
* `Allowed.parse_printed`: the printed names of a list are read as that list.
* `Allowed.parse_isRead`: lists of methods and of field names are read so.
-/

namespace OriginGate

open Http Text

/-! ## Readers of names -/

/-- A reader of names: it takes the texts that are names, each name has a text of its own form
that is read as it, and only the wildcard is read as the name that is written `*`. -/
structure IsNameReader {α : Type} (read? : List Char → Option α) (chars : α → List Char)
    (IsName : List Char → Prop) (form : List Char → List Char) : Prop where
  isSome_iff : ∀ cs, (read? cs).isSome = true ↔ IsName cs
  chars_of_read : ∀ cs a, read? cs = some a → chars a = form cs
  read_chars : ∀ a, read? (chars a) = some a
  ne_nil : ∀ a, chars a ≠ []
  token : ∀ a, ∀ c ∈ chars a, isTokenChar c = true
  star : ∀ cs a, read? cs = some a → chars a = ['*'] → cs = ['*']

theorem isNameReader_method :
    IsNameReader Method.ofText? (·.chars) (fun cs => IsToken (String.ofList cs)) id where
  isSome_iff cs := by rw [← isSome_method_iff, String.toList_ofList]
  chars_of_read _ _ := Method.chars_of_ofText?
  read_chars := Method.ofText?_chars
  ne_nil m := by
    have hwell := m.wellFormed
    rw [Bool.and_eq_true, Bool.not_eq_true', List.isEmpty_eq_false_iff] at hwell
    exact hwell.1
  token _ _ := Method.isTokenChar_of_mem
  star _ _ := Policy.method_star

theorem isNameReader_fieldName :
    IsNameReader FieldName.ofText? (·.chars) (fun cs => IsHeaderName (String.ofList cs))
      (List.map Char.toLower) where
  isSome_iff cs := by rw [← isSome_fieldName_iff, String.toList_ofList]
  chars_of_read _ _ := FieldName.chars_of_ofText?
  read_chars := FieldName.ofText?_chars
  ne_nil n := by
    have hwell := n.wellFormed
    simp only [isFieldName, Bool.and_eq_true, Bool.not_eq_true', List.isEmpty_eq_false_iff] at hwell
    exact hwell.1.1
  token _ _ := FieldName.isTokenChar_of_mem
  star _ _ := Policy.headerName_star

namespace Allowed

variable {α : Type} {read? : List Char → Option α} {chars : α → List Char}
  {IsName : List Char → Prop} {form : List Char → List Char}

/-! ## What lists are read as -/

/-- The names that a list holds when it was read. -/
structure HoldsNames (read? : List Char → Option α) (chars : α → List Char)
    (form : List Char → List Char) (list : List String) (names : List α) : Prop where
  /-- They are those of the entries, in order. -/
  parses : names.map some = (entryTexts list).map read?
  /-- They are written as the entries, in the form of names. -/
  texts : names.map chars = (entryTexts list).map form
  /-- None of them is written as the wildcard. -/
  no_star : ∀ a ∈ names, chars a ≠ ['*']
  /-- Their texts are read as the same list. -/
  again : parse read? (names.map fun a => String.ofList (chars a)) = .ok (.list names)

/-- What a list of names is read as. -/
structure IsRead (read? : List Char → Option α) (chars : α → List Char)
    (IsName : List Char → Prop) (form : List Char → List Char) (list : List String) : Prop where
  any_iff : parse read? list = .ok .any ↔ HasWildcard list
  list_iff : (∃ names, parse read? list = .ok (.list names)) ↔
    ¬ HasWildcard list ∧ ∀ cs ∈ entryTexts list, IsName cs
  holds : ∀ names, parse read? list = .ok (.list names) → HoldsNames read? chars form list names
  error_iff : ∀ e, parse read? list = .error e ↔
    ¬ HasWildcard list ∧ IsFirstWithout IsName (entryTexts list) e.toList

theorem entryTexts_eq (list : List String) : entryTexts list = (entries list).map String.toList :=
  (map_toList_entries list).symm

theorem not_hasWildcard_of_parse {list : List String} {names : List α}
    (h : parse read? list = .ok (.list names)) : ¬ HasWildcard list :=
  fun hstar => nomatch eq_any_of_parse h hstar

/-- A list without a wildcard is read as the names of its entries, if all entries have one. -/
theorem parse_eq_list_iff {list : List String} {names : List α} :
    parse read? list = .ok (.list names) ↔
      ¬ HasWildcard list ∧ (entryTexts list).map read? = names.map some := by
  rw [entryTexts_eq, List.map_map]
  constructor
  · intro h
    exact ⟨not_hasWildcard_of_parse h, (parse_eq_list h).2⟩
  · rintro ⟨hstar, hnames⟩
    rw [hasWildcard_iff] at hstar
    rw [parse, if_neg fun hmem => hstar (List.contains_iff_mem.1 hmem),
      readAll_eq_ok_iff.2 hnames]
    rfl

/-! ## Printed names -/

section Reader

variable (hread : IsNameReader read? chars IsName form)

include hread

theorem trim_chars (a : α) : trim (chars a) = chars a :=
  trim_of_not_isBlank fun c hc =>
    not_isBlank_of_isGraphic (isGraphic_of_isTokenChar (hread.token a c hc))

theorem entryTexts_printed (names : List α) :
    entryTexts (names.map fun a => String.ofList (chars a)) = names.map chars := by
  have htrim : (names.map fun a => String.ofList (chars a)).map (fun e => trim e.toList) =
      names.map chars := by
    rw [List.map_map]
    refine List.map_congr_left fun a _ => ?_
    rw [Function.comp_apply, String.toList_ofList, trim_chars hread]
  rw [entryTexts, htrim, List.filter_eq_self]
  intro cs hcs
  obtain ⟨a, -, rfl⟩ := List.mem_map.1 hcs
  simpa using hread.ne_nil a

/-- Tokens have no blanks, so that nothing is trimmed from the text of a name. -/
theorem parse_printed {names : List α} (hstar : ∀ a ∈ names, chars a ≠ ['*']) :
    parse read? (names.map fun a => String.ofList (chars a)) = .ok (.list names) := by
  rw [parse_eq_list_iff, entryTexts_printed hread, List.map_map]
  constructor
  · rintro ⟨e, he, htrim⟩
    obtain ⟨a, ha, rfl⟩ := List.mem_map.1 he
    rw [String.toList_ofList, trim_chars hread] at htrim
    exact hstar a ha htrim
  · exact List.map_congr_left fun a _ => hread.read_chars a

/-! ## Lists that are read -/

theorem holdsNames_of_parse {list : List String} {names : List α}
    (h : parse read? list = .ok (.list names)) : HoldsNames read? chars form list names where
  parses := (parse_eq_list_iff.1 h).2.symm
  texts := map_chars_of_parse hread.chars_of_read h
  no_star := ne_star_of_parse hread.star h
  again := parse_printed hread (ne_star_of_parse hread.star h)

theorem exists_list_iff {list : List String} :
    (∃ names, parse read? list = .ok (.list names)) ↔
      ¬ HasWildcard list ∧ ∀ cs ∈ entryTexts list, IsName cs := by
  simp only [← hread.isSome_iff, entryTexts_eq, List.forall_mem_map]
  constructor
  · rintro ⟨names, h⟩
    have hno := not_hasWildcard_of_parse h
    exact ⟨hno, (exists_parse_iff.1 ⟨_, h⟩).resolve_left hno⟩
  · rintro ⟨hno, hall⟩
    obtain ⟨a, ha⟩ := exists_parse_iff.2 (.inr hall)
    cases a with
    | any => exact absurd (parse_eq_any_iff.1 ha) hno
    | list names => exact ⟨names, ha⟩

theorem parse_error_iff {list : List String} {e : String} :
    parse read? list = .error e ↔
      ¬ HasWildcard list ∧ IsFirstWithout IsName (entryTexts list) e.toList := by
  have hinj : Function.Injective String.toList := fun _ _ => String.toList_inj.1
  rw [parse_eq_error_iff, entryTexts_eq, isFirstWithout_map hinj]
  simp only [hread.isSome_iff]

theorem isRead (list : List String) : IsRead read? chars IsName form list where
  any_iff := parse_eq_any_iff
  list_iff := exists_list_iff hread
  holds _ := holdsNames_of_parse hread
  error_iff _ := parse_error_iff hread

end Reader

/-- Methods are kept as they are written; field names are kept in lower case. -/
theorem parse_isRead (list : List String) :
    IsRead Method.ofText? (·.chars) (fun cs => IsToken (String.ofList cs)) id list ∧
      IsRead FieldName.ofText? (·.chars) (fun cs => IsHeaderName (String.ofList cs))
        (List.map Char.toLower) list :=
  ⟨isRead isNameReader_method list, isRead isNameReader_fieldName list⟩

/-- Names in capitals and padded ones are the same field names; of two texts that are no methods
the first is the fault. -/
theorem parse_isRead_repeated :
    (∃ names, parse FieldName.ofText? [" X-A", "", "x-a "] = .ok (.list names) ∧
      names.map (·.chars) = ["x-a".toList, "x-a".toList] ∧
      parse FieldName.ofText? (names.map fun n => String.ofList n.chars) = .ok (.list names)) ∧
      parse Method.ofText? ["get", " a b ", "c,d"] = .error "a b" := by
  have hfields := (parse_isRead [" X-A", "", "x-a "]).2
  have hmethods := (parse_isRead ["get", " a b ", "c,d"]).1
  constructor
  · obtain ⟨names, hnames⟩ := hfields.list_iff.2 ⟨by decide, by decide⟩
    have hholds := hfields.holds names hnames
    exact ⟨names, hnames, hholds.texts, hholds.again⟩
  · refine (hmethods.error_iff "a b").2 ⟨by decide, ?_⟩
    exact ⟨["get".toList], ["c,d".toList], rfl, by decide, by decide⟩

end Allowed

end OriginGate
