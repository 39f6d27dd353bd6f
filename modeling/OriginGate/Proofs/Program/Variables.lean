import OriginGate.Program.Run
import OriginGate.Proofs.Config.Outcome

/-!
# Variables that are no texts

The configuration is decoded from all variables of the process, so that the program ends at one that
is no text even where no field has its name. Only the environment file can replace it, and only what
stands before it can be reported instead.

* `Config.decode_of_take`: a fault among the first variables is the fault of all.
* `exists_failure_of_foreign`: no command is carried out beside a variable that is no text.
-/

namespace OriginGate

open CommandLine Text

theorem Config.decode_of_take {env : Environment} {n : Nat} {fault : DecodeFault}
    (h : Config.decode (env.take n) = .error fault) : Config.decode env = .error fault := by
  obtain ⟨before, name, text, after, htake, hsound, hfault⟩ := Config.decode_eq_error_iff.1 h
  refine Config.decode_eq_error_iff.2 ⟨before, name, text, after ++ env.drop n, ?_, hsound, hfault⟩
  rw [← List.cons_append, ← List.append_assoc, ← htake, List.take_append_drop]

section Runs

variable {i : Invocation} {s : Surroundings}

theorem execute_of_foreign {f : Foreign}
    (h : foreignFault? s.foreign s.environment s.files = some f) (written : List Output) :
    (execute i s).run.run written = (.error (.abort f.message), written) := by
  unfold execute
  rw [h]
  rfl

theorem execute_of_load {fault : LoadFault}
    (h : foreignFault? s.foreign s.environment s.files = none)
    (hload : Config.load s.environment s.files = .error fault) (written : List Output) :
    (execute i s).run.run written = (.error fault.failure, written) := by
  unfold execute
  rw [h, Config.ofInvocation, hload]
  rfl

/-- No command is carried out beside a variable that is no text, unless the environment file puts
a text in its place. -/
theorem exists_failure_of_foreign {args : List String} (hread : Invocation.read args = .ok i)
    {f : Foreign} (hf : f ∈ s.foreign)
    (hkept : ∀ merged, mergedEnvironment s.environment s.files = .ok merged →
      f.isReplaced merged = false) :
    ∃ failure : Failure,
      Program.run args s = ⟨[.complaint failure.report], .exit failure.status⟩ := by
  suffices hexecute : ∃ failure, (execute i s).run.run [] = (.error failure, []) by
    obtain ⟨failure, hfailure⟩ := hexecute
    exact ⟨failure, by rw [Program.run, hread]; simp only [hfailure, List.nil_append]⟩
  cases hmerged : mergedEnvironment s.environment s.files with
  | error fault =>
    have hnone : foreignFault? s.foreign s.environment s.files = none := by
      rw [foreignFault?, hmerged]
    have hload : Config.load s.environment s.files = .error (.file fault) := by
      rw [Config.load, hmerged]
      rfl
    exact ⟨_, execute_of_load hnone hload []⟩
  | ok merged =>
    obtain ⟨first, hfirst⟩ : ∃ first, s.foreign.find? (! ·.isReplaced merged) = some first := by
      rw [← Option.isSome_iff_exists, List.find?_isSome]
      exact ⟨f, hf, by rw [hkept merged hmerged]; rfl⟩
    cases hbefore : Config.decode (merged.take first.earlier) with
    | ok c =>
      have hfound : foreignFault? s.foreign s.environment s.files = some first := by
        simp only [foreignFault?, hmerged, hfirst, Option.filter, hbefore]
        rfl
      exact ⟨_, execute_of_foreign hfound []⟩
    | error fault =>
      have hnone : foreignFault? s.foreign s.environment s.files = none := by
        simp only [foreignFault?, hmerged, hfirst, Option.filter, hbefore]
        rfl
      have hload : Config.load s.environment s.files = .error (.decode fault) := by
        rw [Config.load, hmerged]
        exact congrArg (Except.mapError LoadFault.decode) (Config.decode_of_take hbefore)
      exact ⟨_, execute_of_load hnone hload []⟩

end Runs

end OriginGate
