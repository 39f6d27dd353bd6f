import OriginGate.Program.Run
import OriginGate.Proofs.CommandLine.Choices
import OriginGate.Proofs.Config.Decoding
import OriginGate.Proofs.EnvFile.Assignments

/-!
# Which source of a configuration prevails

A field of the configuration is told by the command line, a variable of the process, the nearest
environment file or its usual value, in this order.

* `Setting.decodedFrom_of_load`: each field of a configuration that was loaded.
* `Config.isOverride_override`: what the command line changes.
* `Config.ofInvocation_precedence`: both, for every command line.
-/

namespace OriginGate

open CommandLine EnvFile Text

/-- The variables of the process and, after them, the assignments of the nearest file to names
that are not set, the first to each name. -/
def Surroundings.allVariables (s : Surroundings) : List (String × String) :=
  s.environment ++ firstAssignments (s.environment.map (·.1))
    (fileAssignments s.environment ((s.files.own.or s.files.above).getD []))

theorem Setting.decodedFrom_of_load {s : Surroundings} {c : Config}
    (h : Config.load s.environment s.files = .ok c) (field : Setting) :
    field.DecodedFrom s.allVariables c := by
  rw [Config.load] at h
  cases hmerged : mergedEnvironment s.environment s.files with
  | error fault =>
    rw [hmerged] at h
    cases h
  | ok merged =>
    rw [hmerged] at h
    have hdecode : Config.decode merged = .ok c := eq_ok_of_mapError h
    have hvariables : merged = s.allVariables := mergedEnvironment_eq_append hmerged
    rw [← hvariables]
    exact decodedFrom_of_decode hdecode field

namespace Config

/-- The configuration `c` is `loaded` but for what the command line says. -/
structure IsOverride (c loaded : Config) (o : Options) : Prop where
  host : c.host = o.host.getD loaded.host
  port : c.port = o.port.getD loaded.port
  logJson : c.logJson = (loaded.logJson || o.jsonLogs)
  others : ∀ field : Setting, field ∉ [.host, .port, .logJson] → field.get c = field.get loaded

theorem isOverride_override (c : Config) (o : Options) : (c.override o).IsOverride c o where
  host := rfl
  port := rfl
  logJson := rfl
  others field h := by
    cases field with
    | host | port | logJson => simp at h
    | _ => rfl

theorem ofInvocation_precedence {s : Surroundings} {loaded : Config}
    (h : Config.load s.environment s.files = .ok loaded) :
    (∀ field : Setting, field.DecodedFrom s.allVariables loaded) ∧
      (∀ args i, Invocation.read args = .ok i →
        ∃ c, ofInvocation i.options s = .ok c ∧ c.IsOverride loaded i.options) ∧
      ∀ w : Written, w.IsReadable → Invocation.read w.arguments = .ok w.invocation := by
  refine ⟨Setting.decodedFrom_of_load h, ?_, fun w => Written.read_arguments⟩
  intro args i hread
  refine ⟨loaded.override i.options, ?_, isOverride_override loaded i.options⟩
  rw [ofInvocation, h]
  rfl

/-- Three sources tell the port, two lines the host, and the line after a malformed one tells the
filter. -/
theorem ofInvocation_precedence_contested :
    let s : Surroundings :=
      { environment := [("PORT", "9001")]
        files := {
          own := some (Utf8.ofString
            "HOST=10.0.0.2\nHOST=10.0.0.3\nPORT=9000\n\nno line\nRUST_LOG=debug\n")
          above := some (Utf8.ofString "LOG_JSON=true\n") }
        refusal? := fun _ => none }
    let loaded : Config := { host := "10.0.0.2", port := 9001 }
    Config.load s.environment s.files = .ok loaded ∧
      Setting.port.variablesIn s.allVariables = [("PORT", "9001")] ∧
      Setting.host.DecodedFrom s.allVariables loaded ∧
      ∃ i c, Invocation.read ["--port", "7000", "--json-logs", "serve", "--host=::1"] = .ok i ∧
        ofInvocation i.options s = .ok c ∧ c.host = "::1" ∧ c.port = 7000 ∧ c.logJson = true ∧
        c.logFilter = "info" := by
  intro s loaded
  have hload : Config.load s.environment s.files = .ok loaded := by rfl
  obtain ⟨hfields, hoverride, hwritten⟩ := ofInvocation_precedence hload
  have hread := hwritten
    { outer := [.port false "7000" 7000, .jsonLogs], called := some (.serve, [.host true "::1"]) }
    { outer := by
        intro c hc
        rcases List.mem_cons.1 hc with rfl | hc
        · refine ⟨?_, ?_⟩
          · rintro value ⟨⟩
            decide
          · rintro joined text n ⟨⟩
            rfl
        · cases List.mem_singleton.1 hc
          exact ⟨nofun, nofun⟩
      outer_nodup := by decide
      inner := by
        rintro called ⟨⟩ c hc
        cases List.mem_singleton.1 hc
        exact ⟨nofun, nofun⟩
      inner_nodup := by
        rintro called ⟨⟩
        decide }
  obtain ⟨c, hc, hprevails⟩ := hoverride _ _ hread
  have hfilter := hprevails.others .logFilter (by decide)
  exact ⟨hload, by decide, hfields .host, _, c, hread, hc, hprevails.host, hprevails.port,
    hprevails.logJson, hfilter⟩

end Config

end OriginGate
