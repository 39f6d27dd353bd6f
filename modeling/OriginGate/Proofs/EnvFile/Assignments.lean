import OriginGate.Config.Load

/-!
# What an environment file adds

Reading an environment file and adding its variables go hand in hand, since a value may refer to
variables that were set before. The two are told apart here: `assignments` reads the lines up to
the first malformed one, whatever they assign, and `firstAssignments` drops the assignments of
names that are taken. What a file adds is the first of the second; it comes after all that was set.

* `applyLines_eq_store`, `mergedEnvironment_eq_store`: the variables after the file, or the value
  that cannot be stored.
* `Environment.store_of_isNullFree`, `Environment.exists_store_of_not_isNullFree`: which of the two.
-/

namespace OriginGate

open Text EnvFile

/-! ## Assignments of a file -/

/-- The value that a name in an environment file stands for. -/
def Environment.valueOf (env : Environment) (name : List Char) : List Char :=
  ((env.get? (String.ofList name)).getD "").toList

/-- The assignments of the lines up to the first malformed one, in order. A value may refer to what
is `known` and to the assignments before it; what was known first prevails. -/
def assignments (known : Environment) : List (List Char) → List (String × String)
  | [] => []
  | line :: lines =>
    match readLine known.valueOf line with
    | .blank => assignments known lines
    | .malformed => []
    | .assignment name value => (name, value) :: assignments (known ++ [(name, value)]) lines

/-- The assignments of names that are neither taken nor assigned earlier, in order. -/
def firstAssignments (taken : List String) : List (String × String) → List (String × String)
  | [] => []
  | (name, value) :: rest =>
    if name ∈ taken then firstAssignments taken rest
    else (name, value) :: firstAssignments (name :: taken) rest

theorem firstAssignments_congr {taken taken' : List String} (h : ∀ n, n ∈ taken ↔ n ∈ taken')
    (list : List (String × String)) :
    firstAssignments taken list = firstAssignments taken' list := by
  induction list generalizing taken taken' with
  | nil => rfl
  | cons x rest ih =>
    obtain ⟨name, value⟩ := x
    have hcons : ∀ n, n ∈ name :: taken ↔ n ∈ name :: taken' := by
      intro n
      simp [h n]
    simp only [firstAssignments, h name, ih h, ih hcons]

/-! ## Reading and adding at once -/

/-- The variables set so far and the latest assignments give a name the value that the first
assignment of it in `known` gives. -/
structure Environment.Agrees (env earlier known : Environment) : Prop where
  get? : ∀ n, known.get? n = env.get? n
  earlier : ∀ n, env.get? n = none → earlier.get? n = none

namespace Environment.Agrees

variable {env earlier known : Environment} {name value : String}

theorem lookUpName_eq (h : env.Agrees earlier known) : lookUpName env earlier = known.valueOf := by
  funext text
  rw [lookUpName, Environment.valueOf, h.get?]
  cases henv : env.get? (String.ofList text) with
  | some value => rfl
  | none => simp [h.earlier _ henv]

/-- An assignment of a name that is taken changes no value. -/
theorem assign_taken (h : env.Agrees earlier known) {old : String}
    (hname : env.get? name = some old) :
    env.Agrees (earlier.set name value) (known ++ [(name, value)]) where
  get? n := by
    rw [get?_append, h.get?]
    cases hn : env.get? n with
    | some v => rfl
    | none =>
      have hne : name ≠ n := by
        rintro rfl
        rw [hname] at hn
        cases hn
      simp [Environment.get?, hne]
  earlier n hn := by
    have hne : name ≠ n := by
      rintro rfl
      rw [hname] at hn
      cases hn
    rw [get?_set_of_ne hne]
    exact h.earlier n hn

/-- An assignment of a name that is free gives it a value. -/
theorem assign_free (h : env.Agrees earlier known) :
    Environment.Agrees (env ++ [(name, value)]) (earlier.set name value)
      (known ++ [(name, value)]) where
  get? n := by rw [get?_append, get?_append, h.get?]
  earlier n hn := by
    rw [get?_append, Option.or_eq_none_iff] at hn
    have hne : name ≠ n := by
      rintro rfl
      simp [Environment.get?] at hn
    rw [get?_set_of_ne hne]
    exact h.earlier n hn.1

end Environment.Agrees

/-- Variables whose values hold no null character, as those that a process is started with. -/
def Environment.IsNullFree (env : Environment) : Prop :=
  ∀ x ∈ env, '\x00' ∉ x.2.toList

instance (env : Environment) : Decidable env.IsNullFree :=
  inferInstanceAs (Decidable (∀ x ∈ env, _))

/-- The variables with those of a list after them, unless the value of one cannot be stored. -/
def Environment.store (env : Environment) (list : List (String × String)) :
    Except EnvFileFault Environment :=
  match list.find? fun x => '\x00' ∈ x.2.toList with
  | some (name, value) => .error (.unstorable name value)
  | none => .ok (env ++ list)

theorem Environment.store_append {list : Environment} (h : list.IsNullFree) (env : Environment)
    (more : List (String × String)) :
    env.store (list ++ more) = Environment.store (env ++ list) more := by
  have hnone : (list.find? fun x => '\x00' ∈ x.2.toList) = none :=
    List.find?_eq_none.2 fun x hx => by simpa using h x hx
  simp only [store, List.find?_append, hnone, Option.none_or, List.append_assoc]

theorem Environment.store_of_isNullFree {list : Environment} (h : list.IsNullFree)
    (env : Environment) : env.store list = .ok (env ++ list) := by
  have hstore := Environment.store_append h env []
  rw [List.append_nil] at hstore
  rw [hstore, store, List.append_nil]
  rfl

/-- The first value that cannot be stored is reported. -/
theorem Environment.exists_store_of_not_isNullFree {list : Environment} (h : ¬ list.IsNullFree)
    (env : Environment) :
    ∃ x ∈ list, '\x00' ∈ x.2.toList ∧ env.store list = .error (.unstorable x.1 x.2) := by
  rw [store]
  cases hfind : list.find? fun x => '\x00' ∈ x.2.toList with
  | none =>
    refine absurd (fun x hx => ?_) h
    simpa using List.find?_eq_none.1 hfind x hx
  | some x => exact ⟨x, List.mem_of_find?_eq_some hfind, by simpa using List.find?_some hfind, rfl⟩

theorem applyLines_eq_store {env earlier known : Environment} (hagree : env.Agrees earlier known)
    (lines : List (List Char)) :
    applyLines env earlier lines =
      env.store (firstAssignments (env.map (·.1)) (assignments known lines)) := by
  -- line by line; what carries the proof is that names keep standing for the same values
  induction lines generalizing env earlier known with
  | nil => simp [assignments, firstAssignments, Environment.store]
  | cons line lines ih =>
    rw [applyLines, hagree.lookUpName_eq, assignments]
    cases hline : readLine known.valueOf line with
    | blank => exact ih hagree
    | malformed => simp [firstAssignments, Environment.store]
    | assignment name value =>
      simp only
      cases hname : env.get? name with
      | some old =>
        have hmem := Environment.mem_names_of_get? hname
        simp only [firstAssignments, hmem, if_true]
        exact ih (hagree.assign_taken hname)
      | none =>
        have hmem := Environment.not_mem_names_of_get? hname
        simp only [firstAssignments, hmem, if_false, Environment.set_eq_append hname]
        split
        · rename_i hnull
          simp [Environment.store, hnull]
        · rename_i hstorable
          have hone : Environment.IsNullFree [(name, value)] := by
            simpa [Environment.IsNullFree] using hstorable
          have htaken : firstAssignments ((env ++ [(name, value)]).map (·.1)) =
              firstAssignments (name :: env.map (·.1)) := by
            funext list
            exact firstAssignments_congr (fun n => by simp [or_comm]) list
          rw [ih hagree.assign_free, htaken, ← Environment.store_append hone env,
            List.singleton_append]

/-- The assignments of the content of a file, under variables that are set. -/
def fileAssignments (env : Environment) (content : List UInt8) : List (String × String) :=
  assignments env (logicalLines content)

/-- What the content of a file adds to variables that are set. -/
def Environment.addedBy (env : Environment) (content : List UInt8) : List (String × String) :=
  firstAssignments (env.map (·.1)) (fileAssignments env content)

/-- What the nearest file adds to variables that are set. -/
def Environment.added (env : Environment) (files : EnvFiles) : List (String × String) :=
  env.addedBy (files.nearest?.getD [])

theorem mergedEnvironment_eq_store (env : Environment) (files : EnvFiles) :
    mergedEnvironment env files = env.store (env.added files) := by
  rw [mergedEnvironment, Environment.added]
  cases files.nearest? with
  | none =>
    simp [Environment.addedBy, fileAssignments, logicalLines, withoutMark, physicalLines, joinLines,
      assignments, firstAssignments, Environment.store]
  | some content => exact applyLines_eq_store ⟨fun _ => rfl, fun _ _ => rfl⟩ _

theorem mergedEnvironment_eq_append {env merged : Environment} {files : EnvFiles}
    (h : mergedEnvironment env files = .ok merged) :
    merged = env ++ firstAssignments (env.map (·.1))
      (fileAssignments env ((files.own.or files.above).getD [])) := by
  rw [mergedEnvironment_eq_store, Environment.store] at h
  split at h
  · cases h
  · exact (Except.ok.inj h).symm

end OriginGate
