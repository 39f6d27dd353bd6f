import Mathlib.Tactic.Tauto
import OriginGate.Proofs.EnvFile.Assignments
import OriginGate.Proofs.EnvFile.Lines

/-!
# A file line by line

Whether a line can be read does not depend on the values that names stand for, so that the
assignments of a file are those of its lines up to the first that cannot be read. The lines after
some that can be read are read as if the assignments before were variables that are set.

* `readLine_eq_malformed_iff`: the lines that cannot be read.
* `mem_of_readLine`, `mem_of_assignments`: where the characters of a value come from.
* `assignments_append`, `assignments_append_of_not_parses`: the assignments of a file in two parts.
* `firstAssignments_append`, `get?_firstAssignments`: those that count.
* `Environment.addedBy_of_logicalLines_eq`: what a file adds in two parts.
-/

namespace OriginGate

open Text

namespace EnvFile

/-! ## Lines that cannot be read -/

/-- Whether a value can be read does not depend on what names stand for. -/
theorem isSome_readValue_congr (lookUp lookUp' : List Char → List Char) (weak : Bool) (mode : Mode)
    (cs : List Char) :
    (readValue lookUp weak mode cs).isSome = (readValue lookUp' weak mode cs).isSome := by
  -- what a name stands for is only put before the rest
  fun_induction readValue lookUp weak mode cs <;> grind [readValue, Option.isSome_map]

/-- Whether a line can be read. -/
def Parses (line : List Char) : Prop :=
  readLine (fun _ => []) line ≠ .malformed

instance (line : List Char) : Decidable (Parses line) :=
  inferInstanceAs (Decidable (¬ _))

theorem readLine_eq_malformed_iff (lookUp : List Char → List Char) {line : List Char} :
    readLine lookUp line = .malformed ↔ ¬ Parses line := by
  rw [Parses, Ne, Decidable.not_not]
  unfold readLine
  dsimp only
  split
  · exact Iff.rfl
  · split
    · exact Iff.rfl
    · rename_i name rest _
      split
      · exact Iff.rfl
      · have hsome := isSome_readValue_congr lookUp (fun _ => []) false .text rest
        cases hvalue : readValue lookUp false .text rest with
        | none =>
          rw [hvalue, eq_comm, Option.isSome_none, Option.isSome_eq_false_iff,
            Option.isNone_iff_eq_none] at hsome
          rw [hsome]
        | some value =>
          rw [hvalue, Option.isSome_some, eq_comm, Option.isSome_iff_exists] at hsome
          obtain ⟨value', hvalue'⟩ := hsome
          rw [hvalue']
          exact iff_of_false nofun nofun

/-- A complete line of a file that cannot be read: a logical line that is malformed, or one that
ends where the bytes are no text. -/
inductive IsBadLine : List UInt8 → Prop
  | malformed {text line : List Char} (whole : IsLogicalLine text line) (bad : ¬ Parses line) :
    IsBadLine (Utf8.encode text ++ [0x0A])
  | notText {bytes : List UInt8} (oneLine : 0x0A ∉ bytes)
    (bad : Utf8.decode? (bytes ++ [0x0A]) = none) : IsBadLine (bytes ++ [0x0A])
  /-- The first lines leave quotes open, and the next one is no text. -/
  | notTextLater {text : List Char} {bytes : List UInt8} (mark : ¬ startsComment text)
    (inside : Scan.complete.staysOpen (text ++ ['\n']) = true) (oneLine : 0x0A ∉ bytes)
    (bad : Utf8.decode? (bytes ++ [0x0A]) = none) :
    IsBadLine (Utf8.encode (text ++ ['\n']) ++ (bytes ++ [0x0A]))

/-! ## The characters of a value -/

theorem mem_of_readValue {lookUp : List Char → List Char} {weak : Bool} {mode : Mode}
    {cs value : List Char} (h : readValue lookUp weak mode cs = some value) {c : Char}
    (hc : c ∈ value) : c ∈ cs ∨ c = '\n' ∨ ∃ name, c ∈ lookUp name := by
  fun_induction readValue lookUp weak mode cs generalizing value <;>
    grind [unescape?, Option.map_eq_some_iff]

theorem trimStart_suffix (cs : List Char) : trimStart cs <:+ cs :=
  List.dropWhile_suffix isBlank

theorem trimEnd_subset (cs : List Char) : trimEnd cs ⊆ cs := by
  intro c hc
  rw [trimEnd, List.mem_reverse] at hc
  exact List.mem_reverse.1 ((List.dropWhile_suffix isBlank).subset hc)

theorem suffix_of_readName {cs name rest : List Char} (h : readName cs = some (name, rest)) :
    rest <:+ cs := by
  unfold readName at h
  split at h
  · cases h
    exact (trimStart_suffix _).trans (List.dropWhile_suffix isNameChar)
  · cases h

theorem suffix_of_afterEquals {cs rest : List Char} (h : afterEquals cs = some rest) :
    rest <:+ cs := by
  unfold afterEquals at h
  split at h
  · cases h
    exact (trimStart_suffix _).trans (List.suffix_cons '=' _)
  · cases h

theorem suffix_of_readKey {cs name rest : List Char} (h : readKey cs = some (name, rest)) :
    rest <:+ cs := by
  simp only [readKey, Option.bind_eq_bind, Option.bind_eq_some_iff] at h
  obtain ⟨⟨first, afterFirst⟩, hfirst, h⟩ := h
  have hafter := suffix_of_readName hfirst
  split at h
  · rename_i value hvalue
    cases h
    exact (suffix_of_afterEquals hvalue).trans hafter
  · split at h
    · obtain ⟨⟨second, afterSecond⟩, hsecond, h⟩ := Option.bind_eq_some_iff.1 h
      obtain ⟨value, hvalue, h⟩ := Option.bind_eq_some_iff.1 h
      cases h
      exact (suffix_of_afterEquals hvalue).trans ((suffix_of_readName hsecond).trans hafter)
    · cases h

/-- A character of a value stands in its line, in a value that a name in the line stands for, or is
an escaped line end. -/
theorem mem_of_readLine {lookUp : List Char → List Char} {line : List Char} {name value : String}
    (h : readLine lookUp line = .assignment name value) {c : Char} (hc : c ∈ value.toList) :
    c ∈ line ∨ c = '\n' ∨ ∃ name, c ∈ lookUp name := by
  unfold readLine at h
  dsimp only at h
  split at h
  · cases h
  · split at h
    · cases h
    · rename_i key rest hkey
      have hline : rest ⊆ line := fun d hd =>
        trimEnd_subset line ((trimStart_suffix _).subset ((suffix_of_readKey hkey).subset hd))
      split at h
      · cases h
        cases hc
      · split at h
        · rename_i text htext
          cases h
          rw [String.toList_ofList] at hc
          exact (mem_of_readValue htext hc).imp_left (hline ·)
        · cases h

end EnvFile

/-! ## Assignments of a file in parts -/

open EnvFile

theorem Environment.exists_of_mem_valueOf {env : Environment} {name : List Char} {c : Char}
    (h : c ∈ env.valueOf name) : ∃ x ∈ env, c ∈ x.2.toList := by
  rw [valueOf] at h
  cases hget : env.get? (String.ofList name) with
  | none =>
    rw [hget] at h
    cases h
  | some value =>
    rw [hget] at h
    obtain ⟨x, hx, rfl⟩ := Option.map_eq_some_iff.1 hget
    exact ⟨x, List.mem_of_find?_eq_some hx, h⟩

theorem Environment.valueOf_congr {known known' : Environment}
    (h : ∀ n, known.get? n = known'.get? n) : known.valueOf = known'.valueOf := by
  funext name
  rw [valueOf, valueOf, h]

theorem assignments_congr {known known' : Environment} (h : ∀ n, known.get? n = known'.get? n)
    (lines : List (List Char)) : assignments known lines = assignments known' lines := by
  induction lines generalizing known known' with
  | nil => rfl
  | cons line lines ih =>
    rw [assignments, assignments, Environment.valueOf_congr h]
    cases readLine known'.valueOf line with
    | blank => exact ih h
    | malformed => rfl
    | assignment name value =>
      refine congrArg _ (ih fun n => ?_)
      rw [Environment.get?_append, Environment.get?_append, h]

/-- After lines that can be read their assignments are known. -/
theorem assignments_append {lines : List (List Char)} (h : ∀ line ∈ lines, Parses line)
    (known : Environment) (rest : List (List Char)) :
    assignments known (lines ++ rest) =
      assignments known lines ++ assignments (known ++ assignments known lines) rest := by
  induction lines generalizing known with
  | nil =>
    rw [assignments, List.append_nil]
    rfl
  | cons line lines ih =>
    have hlines := ih fun l hl => h l (List.mem_cons_of_mem line hl)
    rw [List.cons_append, assignments, assignments]
    cases hline : readLine known.valueOf line with
    | blank => exact hlines known
    | malformed => exact absurd (h line List.mem_cons_self) ((readLine_eq_malformed_iff _).1 hline)
    | assignment name value =>
      simp only
      rw [hlines, List.cons_append, List.append_assoc, List.singleton_append]

/-- A line that cannot be read ends a file. -/
theorem assignments_append_of_not_parses {line : List Char} (h : ¬ Parses line)
    (known : Environment) (lines rest : List (List Char)) :
    assignments known (lines ++ line :: rest) = assignments known lines := by
  induction lines generalizing known with
  | nil =>
    rw [List.nil_append, assignments.eq_2, (readLine_eq_malformed_iff _).2 h]
    rfl
  | cons first lines ih =>
    rw [List.cons_append, assignments, assignments]
    cases readLine known.valueOf first with
    | blank => exact ih known
    | malformed => rfl
    | assignment name value => exact congrArg _ (ih _)

/-- A character of an assigned value stands in a line or in a value that is known, or is an escaped
line end. -/
theorem mem_of_assignments {known : Environment} {lines : List (List Char)} {x : String × String}
    (hx : x ∈ assignments known lines) {c : Char} (hc : c ∈ x.2.toList) :
    (∃ line ∈ lines, c ∈ line) ∨ c = '\n' ∨ ∃ y ∈ known, c ∈ y.2.toList := by
  induction lines generalizing known with
  | nil => cases hx
  | cons line lines ih =>
    have hlater : (∃ l ∈ lines, c ∈ l) → ∃ l ∈ line :: lines, c ∈ l := by
      rintro ⟨l, hl, hcl⟩
      exact ⟨l, List.mem_cons_of_mem line hl, hcl⟩
    rw [assignments] at hx
    cases hline : readLine known.valueOf line with
    | blank =>
      rw [hline] at hx
      exact (ih hx).imp_left hlater
    | malformed =>
      rw [hline] at hx
      cases hx
    | assignment name value =>
      have hvalue : ∀ d ∈ value.toList,
          (∃ l ∈ line :: lines, d ∈ l) ∨ d = '\n' ∨ ∃ y ∈ known, d ∈ y.2.toList := by
        intro d hd
        rcases mem_of_readLine hline hd with hd | hd | ⟨n, hd⟩
        · exact .inl ⟨line, List.mem_cons_self, hd⟩
        · exact .inr (.inl hd)
        · exact .inr (.inr (Environment.exists_of_mem_valueOf hd))
      rw [hline] at hx
      rcases List.mem_cons.1 hx with rfl | hx
      · exact hvalue c hc
      · rcases ih hx with hlines | hnewline | ⟨y, hy, hcy⟩
        · exact .inl (hlater hlines)
        · exact .inr (.inl hnewline)
        · rcases List.mem_append.1 hy with hy | hy
          · exact .inr (.inr ⟨y, hy, hcy⟩)
          · cases List.mem_singleton.1 hy
            exact hvalue c hcy

theorem EnvFile.IsBadLine.not_startsWithMark {bad : List UInt8} (h : IsBadLine bad)
    (hmark : ¬ StartsWithMark bad) (rest : List UInt8) : ¬ StartsWithMark (bad ++ rest) := by
  cases h with
  | malformed | notText =>
    rw [startsWithMark_append_newline_iff] at hmark
    rwa [List.append_assoc, List.singleton_append, startsWithMark_append_newline_iff]
  | notTextLater =>
    rw [encode_append_newline, List.append_assoc, List.cons_append,
      startsWithMark_append_newline_iff] at hmark
    rwa [List.append_assoc, encode_append_newline, List.append_assoc, List.cons_append,
      startsWithMark_append_newline_iff]

/-- A file ends at a line that cannot be read. -/
theorem EnvFile.IsBadLine.assignments_eq {bad : List UInt8} (h : IsBadLine bad)
    (hmark : ¬ StartsWithMark bad) (known : Environment) (lines : List (List Char))
    (rest : List UInt8) :
    assignments known (lines ++ logicalLines (bad ++ rest)) = assignments known lines := by
  rw [logicalLines, withoutMark_of_not (h.not_startsWithMark hmark rest)]
  cases h with
  | @malformed text line whole hbad =>
    rw [List.append_assoc, List.singleton_append, whole.joinLines_eq,
      assignments_append_of_not_parses hbad]
  | @notText bytes oneLine hbad =>
    rw [List.append_assoc, List.singleton_append, physicalLines_append_newline oneLine, joinLines,
      hbad]
    exact congrArg (assignments known) (List.append_nil lines)
  | @notTextLater text bytes mark inside oneLine hbad =>
    obtain ⟨t, hjoin⟩ := exists_joinLines_eq mark inside
    rw [List.append_assoc, hjoin, List.append_assoc, List.singleton_append,
      physicalLines_append_newline oneLine, joinLines, hbad]
    exact congrArg (assignments known) (List.append_nil lines)

/-! ## The assignments that count -/

theorem firstAssignments_append (taken : List String) (list more : List (String × String)) :
    firstAssignments taken (list ++ more) =
      firstAssignments taken list ++ firstAssignments (taken ++ list.map (·.1)) more := by
  induction list generalizing taken with
  | nil => simp [firstAssignments]
  | cons x list ih =>
    obtain ⟨name, value⟩ := x
    rw [List.cons_append, firstAssignments, firstAssignments]
    split
    · rename_i hname
      rw [ih]
      refine congrArg _ (firstAssignments_congr (fun n => ?_) more)
      have htaken : n = name → n ∈ taken := fun h => h ▸ hname
      simp only [List.map_cons, List.mem_append, List.mem_cons]
      tauto
    · rw [ih, List.cons_append]
      refine congrArg _ (congrArg _ (firstAssignments_congr (fun n => ?_) more))
      simp only [List.map_cons, List.mem_append, List.mem_cons]
      tauto

theorem mem_of_mem_firstAssignments {taken : List String} {list : List (String × String)}
    {x : String × String} (h : x ∈ firstAssignments taken list) : x ∈ list := by
  induction list generalizing taken with
  | nil => cases h
  | cons y list ih =>
    obtain ⟨name, value⟩ := y
    rw [firstAssignments] at h
    split at h
    · exact List.mem_cons_of_mem _ (ih h)
    · rcases List.mem_cons.1 h with rfl | h
      · exact List.mem_cons_self
      · exact List.mem_cons_of_mem _ (ih h)

/-- A name that is not taken has the value of its first assignment. -/
theorem get?_firstAssignments (taken : List String) (list : List (String × String))
    (name : String) :
    Environment.get? (firstAssignments taken list) name =
      if name ∈ taken then none else Environment.get? list name := by
  induction list generalizing taken with
  | nil => simp [firstAssignments, Environment.get?]
  | cons x list ih =>
    obtain ⟨n, v⟩ := x
    rw [firstAssignments]
    split
    · rename_i hn
      rw [ih]
      split
      · rfl
      · rename_i hname
        have hne : n ≠ name := fun h => hname (h ▸ hn)
        simp [Environment.get?, hne]
    · rename_i hn
      by_cases hne : n = name
      · subst hne
        simp [Environment.get?, hn]
      · have hrest := ih (n :: taken)
        simp only [Environment.get?, List.mem_cons, Ne.symm hne, false_or] at hrest
        simp [Environment.get?, hne, hrest]

/-- A file without null characters assigns none to a name. -/
theorem fileAssignments_isNullFree {env : Environment} {content : List UInt8}
    (henv : env.IsNullFree) (hcontent : 0x00 ∉ content) :
    Environment.IsNullFree (fileAssignments env content) := by
  intro x hx hnull
  have hbytes : String.utf8EncodeChar '\x00' = [0x00] := by decide
  rcases mem_of_assignments hx hnull with ⟨line, hline, hmem⟩ | hnewline | ⟨y, hy, hmem⟩
  · have hsubset := bytes_subset_of_mem_logicalLines hline hmem
    rw [hbytes] at hsubset
    exact hcontent (hsubset (List.mem_singleton_self 0x00))
  · cases hnewline
  · exact henv y hy hmem

namespace Environment

theorem addedBy_isNullFree {env : Environment} {content : List UInt8} (henv : env.IsNullFree)
    (hcontent : 0x00 ∉ content) : IsNullFree (env.addedBy content) :=
  fun x hx => fileAssignments_isNullFree henv hcontent x (mem_of_mem_firstAssignments hx)

theorem mem_names_iff {env : Environment} {name : String} :
    name ∈ env.map (·.1) ↔ env.get? name ≠ none :=
  ⟨fun h hnone => not_mem_names_of_get? hnone h, not_imp_comm.1 get?_eq_none_of_not_mem⟩

/-- A variable that is set keeps its value; another has that of its first assignment. -/
theorem get?_append_firstAssignments (env : Environment) (list : List (String × String))
    (name : String) :
    get? (env ++ firstAssignments (env.map (·.1)) list) name = get? (env ++ list) name := by
  rw [get?_append, get?_append, get?_firstAssignments]
  cases henv : env.get? name with
  | some value => rfl
  | none => rw [if_neg (not_mem_names_of_get? henv)]

/-- What a file adds whose first part can be read: what this part adds, and after that the rest. -/
theorem addedBy_of_logicalLines_eq {env : Environment} {whole first rest : List UInt8}
    (hlines : logicalLines whole = logicalLines first ++ logicalLines rest)
    (hparse : ∀ line ∈ logicalLines first, Parses line) :
    env.addedBy whole = env.addedBy first ++ addedBy (env ++ env.addedBy first) rest := by
  -- names that are set or assigned are taken, whether or not their assignments count
  have hget := env.get?_append_firstAssignments (fileAssignments env first)
  have hnames : ∀ n, n ∈ env.map (·.1) ++ (fileAssignments env first).map (·.1) ↔
      n ∈ (env ++ env.addedBy first).map (·.1) := by
    intro n
    rw [← List.map_append, mem_names_iff, mem_names_iff, addedBy, hget]
  have hassigned : fileAssignments env whole =
      fileAssignments env first ++ fileAssignments (env ++ env.addedBy first) rest := by
    rw [fileAssignments, hlines, assignments_append hparse]
    exact congrArg _ (assignments_congr (fun n => (hget n).symm) _)
  rw [addedBy, hassigned, firstAssignments_append, firstAssignments_congr hnames]
  rfl

end Environment

end OriginGate
