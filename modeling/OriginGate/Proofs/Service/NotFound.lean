import OriginGate.Proofs.Service.Documents

/-!
# Paths that are not found

A path is not found in one of two ways. No route matches it, and the answer is a document that says
so; or it lies below the documentation, whose route takes it, and no file has its name. Then the
answer has neither content nor a type.

* `Service.plain_of_status`: the two answers with the status 404 behind the gate.
* `Service.respond_notFound`: what is read in an answer with this status.
* `Service.respond_notFound_docs`: below the documentation nothing is read.
-/

namespace OriginGate.Service

open Http Json Metrics Text

/-- The document that tells that a path is not found. -/
def notFoundDocument : Value :=
  .object [("detail", .string "Not Found")]

theorem docsResponse_of_status {assets : List Docs.File} {captured : List (List Char)}
    (h : (docsResponse assets captured).status = 404) :
    docsResponse assets captured = emptyResponse 404 := by
  unfold docsResponse at h ⊢
  split at h
  · cases h
  · rfl

/-- Where a route leads without a name of a file, there is an answer. -/
theorem status_read_nil_ne (s : Service) (endpoint : Endpoint) :
    (s.read endpoint []).status ≠ 404 := by
  by_cases hentry : endpoint = .docsEntry
  · rw [hentry, read]
    cases pageLocation? s.metadata with
    | none => exact Nat.ne_of_beq_eq_false rfl
    | some location => exact Nat.ne_of_beq_eq_false rfl
  · rw [status_read_nil hentry]
    decide

section Usual

variable {m : Metadata} {p : Policy} {assets : List Docs.File} {s : Service} {r : Request}

theorem plain_of_status (hs : build m p assets = .ok s)
    (hm : m.docsPath = ({} : Metadata).docsPath) (hread : isRead r.method = true)
    (h : (s.plain r).status = 404) :
    (s.plain r = notFound ∧ ∀ rest, rest ≠ [] → r.uri.path ≠ docsRoot ++ rest) ∨
      (s.plain r = emptyResponse 404 ∧ ∃ rest, rest ≠ [] ∧ r.uri.path = docsRoot ++ rest) := by
  by_cases hbelow : ∃ rest, rest ≠ [] ∧ r.uri.path = docsRoot ++ rest
  · obtain ⟨rest, hrest, hpath⟩ := hbelow
    have hfound : s.endpoint? r.uri.path = some (.docsFile, [rest]) := by
      rw [hpath]
      exact endpoint?_below hs hm hrest
    rw [plain_of_isRead hfound hread] at h ⊢
    exact .inr ⟨docsResponse_of_status h, rest, hrest, hpath⟩
  · have hbelow' : ∀ rest, rest ≠ [] → r.uri.path ≠ docsRoot ++ rest := fun rest hrest hpath =>
      hbelow ⟨rest, hrest, hpath⟩
    have hfixed : r.uri.path ∉ fixedPaths.map (·.2) := by
      intro hmem
      obtain ⟨⟨endpoint, path⟩, hx, hpath⟩ := List.mem_map.1 hmem
      have hfound : s.endpoint? r.uri.path = some (endpoint, []) := by
        rw [← hpath]
        exact endpoint?_fixed hs hm hx
      rw [plain_of_isRead hfound hread] at h
      exact s.status_read_nil_ne endpoint h
    exact .inl ⟨plain_of_unknown (endpoint?_unknown hs hm hfixed hbelow'), hbelow'⟩

end Usual

theorem respond_notFound {p : Policy} (assets : List Docs.File) (hp : p.conflict? = none) :
    ∃ s, build {} p assets = .ok s ∧
      ∀ (r : Request) (rec : Recorder), r.method = .get →
        ((s.respond r).run rec).1.status = 404 →
        ((∀ rest, rest ≠ [] → r.uri.path ≠ "/docs/".toList ++ rest) →
          ((s.respond r).run rec).1.Holds 404 notFoundDocument) ∧
        ((∃ rest, rest ≠ [] ∧ r.uri.path = "/docs/".toList ++ rest) →
          ((s.respond r).run rec).1.body = [] ∧
            ((s.respond r).run rec).1.fields.getAll .contentType = []) := by
  obtain ⟨s, hs, -⟩ := exists_build (m := {}) assets rfl hp
  refine ⟨s, hs, fun r rec hget hstatus => ?_⟩
  have hread : isRead r.method = true := isRead_iff.2 (.inl hget)
  have hpre : isPreflight r = false := not_isPreflight_of_isRead hread
  rw [s.status_respond hpre rec] at hstatus
  rcases plain_of_status hs rfl hread hstatus with ⟨hplain, hout⟩ | ⟨hplain, hin⟩
  · refine ⟨fun _ => s.holds_respond hget hplain rec, fun ⟨rest, hrest, hpath⟩ => ?_⟩
    exact absurd hpath (hout rest hrest)
  · refine ⟨fun hout => ?_, fun _ => ⟨?_, ?_⟩⟩
    · obtain ⟨rest, hrest, hpath⟩ := hin
      exact absurd hpath (hout rest hrest)
    · rw [s.body_respond_get hget rec, hplain]
      rfl
    · rw [s.getAll_contentType_respond hpre rec, hplain]
      rfl

/-- A path that only begins like the documentation is told so. -/
theorem respond_notFound_near_miss :
    ∃ s, build {} ⟨[], false, .any, .any, 0⟩ [] = .ok s ∧
      ∀ rec, let r : Request := ⟨.get, ⟨"/docs.html".toList, none⟩, [], []⟩
        ((s.respond r).run rec).1.Holds 404 notFoundDocument := by
  obtain ⟨s, hs, hall⟩ := respond_notFound (p := ⟨[], false, .any, .any, 0⟩) [] rfl
  refine ⟨s, hs, fun rec => ?_⟩
  intro r
  have hout : ∀ rest, rest ≠ [] → r.uri.path ≠ "/docs/".toList ++ rest := by
    intro rest _ h
    have hfirst := congrArg (List.take 6) h
    exact absurd hfirst (by simp [r])
  have hunknown : s.endpoint? r.uri.path = none :=
    endpoint?_unknown hs rfl (by decide) hout
  exact (hall r rec rfl (status_respond_of_unknown (by decide) rec hunknown)).1 hout

/-- A file that is not there, in the service as it is by default. -/
theorem respond_notFound_docs :
    let p : Policy := ⟨[.ofString "http://localhost:5173"], true, .any, .any, 600⟩
    ∀ assets : List Docs.File, (∀ f ∈ assets, f.name ≠ "nope") →
      ∃ s, build {} p assets = .ok s ∧
        ∀ rec, let r : Request := ⟨.get, ⟨"/docs/nope".toList, none⟩, [], []⟩
          ((s.respond r).run rec).1.status = 404 ∧ ((s.respond r).run rec).1.body = [] ∧
            ¬ ((s.respond r).run rec).1.Holds 404 notFoundDocument := by
  intro p assets hassets
  obtain ⟨s, hs, -⟩ := exists_build (m := {}) (p := p) assets rfl rfl
  refine ⟨s, hs, fun rec => ?_⟩
  intro r
  have hfound : s.endpoint? r.uri.path = some (.docsFile, ["nope".toList]) :=
    endpoint?_below hs rfl (List.cons_ne_nil _ _)
  have hplain : s.plain r = emptyResponse 404 := by
    have hnone : Docs.file? assets "nope".toList = none :=
      Docs.file?_eq_none (by decide) (List.forall_mem_append.2 ⟨by decide, hassets⟩)
    have hrest : docsRest ["nope".toList] = "nope".toList := rfl
    rw [plain_of_isRead hfound rfl, read, docsResponse, hrest, assets_of_build hs, hnone]
  have hpre : isPreflight r = false := by decide
  refine ⟨?_, ?_, fun h => ?_⟩
  · rw [s.status_respond hpre rec, hplain]
    rfl
  · rw [s.body_respond_get rfl rec, hplain]
    rfl
  · have htype := h.mediaType
    rw [s.getAll_contentType_respond hpre rec, hplain] at htype
    cases htype

end OriginGate.Service
