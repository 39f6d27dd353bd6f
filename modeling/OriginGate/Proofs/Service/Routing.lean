import OriginGate.Proofs.Service.Transparency

/-!
# The routing table

A service with the usual place of its documentation answers on five paths and on all that lie below
the documentation, and on no other. Paths are compared character by character: the routes are
literal texts but for one, which takes all that follows the last slash of the documentation.

* `Service.endpoint?_eq`: which endpoint a path leads to.
* `Service.endpoint?_fixed`, `endpoint?_below`, `endpoint?_unknown`: the three kinds of paths.
* `Service.plain_of_isRead`, `plain_of_not_isRead`, `plain_of_unknown`: the answers behind the
  gate.
* `Service.respond_routes`: the status of every answer.
-/

namespace OriginGate

open Http Metrics Text

namespace Service

/-! ## What a route matches -/

theorem captures?_tail_append (ps : List Char) {rest : List Char} (hrest : rest ≠ []) :
    captures? (ps.map .literal ++ [.tail]) (ps ++ rest) = some [rest] := by
  induction ps with
  | nil =>
    cases rest with
    | nil => exact absurd rfl hrest
    | cons c cs => rfl
  | cons p ps ih => simpa [captures?] using ih

theorem eq_append_of_captures?_tail {ps cs : List Char} {captured : List (List Char)}
    (h : captures? (ps.map .literal ++ [.tail]) cs = some captured) :
    ∃ rest, rest ≠ [] ∧ cs = ps ++ rest := by
  induction ps generalizing cs with
  | nil =>
    cases cs with
    | nil => cases h
    | cons c cs => exact ⟨c :: cs, List.cons_ne_nil c cs, rfl⟩
  | cons p ps ih =>
    cases cs with
    | nil => cases h
    | cons c cs =>
      simp only [List.map_cons, List.cons_append, captures?] at h
      split at h
      · rename_i hc
        obtain ⟨rest, hne, hrest⟩ := ih h
        exact ⟨rest, hne, by rw [hc, hrest, List.cons_append]⟩
      · cases h

/-- The route of a path without names. -/
def literalRoute (endpoint : Endpoint) (text : List Char) : Route :=
  { text, pieces := text.map .literal, endpoint }

/-- Of literal routes the one with the text of the path is found, with nothing captured. -/
theorem findSome?_literalRoute (fixed : List (Endpoint × List Char)) (path : List Char) :
    (fixed.map fun x => literalRoute x.1 x.2).findSome?
        (fun r => (captures? r.pieces path).map (r.endpoint, ·)) =
      (fixed.find? fun x => path = x.2).map fun x => (x.1, []) := by
  induction fixed with
  | nil => rfl
  | cons x fixed ih =>
    rw [List.map_cons, List.findSome?_cons, ih]
    simp only [literalRoute, captures?_literal]
    by_cases hx : path = x.2
    · simp [hx]
    · simp [hx]

/-! ## The table -/

/-- The paths with an endpoint of their own. -/
def fixedPaths : List (Endpoint × List Char) :=
  [(.root, "/".toList), (.health, "/health".toList), (.description, "/openapi.json".toList),
    (.docsEntry, "/docs".toList), (.docsFile, "/docs/".toList)]

/-- The path that the files of the documentation lie below. -/
def docsRoot : List Char := "/docs/".toList

theorem allRoutes_usual :
    allRoutes ({} : Metadata).docsPath.toList =
      .ok ((fixedPaths.map fun x => literalRoute x.1 x.2) ++
        [⟨"/docs/*rest".toList, docsRoot.map .literal ++ [.tail], .docsFile⟩]) := by
  rfl

section Usual

variable {m : Metadata} {p : Policy} {assets : List Docs.File} {s : Service}

theorem endpoint?_eq (hs : build m p assets = .ok s)
    (hm : m.docsPath = ({} : Metadata).docsPath) (path : List Char) :
    s.endpoint? path =
      ((fixedPaths.find? fun x => path = x.2).map fun x => (x.1, [])).or
        ((captures? (docsRoot.map .literal ++ [.tail]) path).map (.docsFile, ·)) := by
  have hroutes := (build_eq_ok_iff.1 hs).1
  rw [hm, allRoutes_usual] at hroutes
  rw [endpoint?, ← Except.ok.inj hroutes, List.findSome?_append, findSome?_literalRoute]
  congr 1
  simp only [List.findSome?_cons, List.findSome?_nil]
  cases captures? (docsRoot.map .literal ++ [.tail]) path <;> rfl

theorem endpoint?_fixed (hs : build m p assets = .ok s)
    (hm : m.docsPath = ({} : Metadata).docsPath) {endpoint : Endpoint} {path : List Char}
    (h : (endpoint, path) ∈ fixedPaths) :
    s.endpoint? path = some (endpoint, []) := by
  have hfind : ∀ x ∈ fixedPaths, fixedPaths.find? (fun y => x.2 = y.2) = some x := by decide
  rw [endpoint?_eq hs hm, hfind _ h]
  rfl

theorem endpoint?_below (hs : build m p assets = .ok s)
    (hm : m.docsPath = ({} : Metadata).docsPath) {rest : List Char} (hrest : rest ≠ []) :
    s.endpoint? (docsRoot ++ rest) = some (.docsFile, [rest]) := by
  -- the fixed paths are too short, or differ from the root of the documentation
  have hnone : fixedPaths.find? (fun x => docsRoot ++ rest = x.2) = none := by
    refine List.find?_eq_none.2 fun x hx heq => hrest ?_
    have heq : docsRoot ++ rest = x.2 := of_decide_eq_true heq
    have htake : x.2.take docsRoot.length = docsRoot := by rw [← heq, List.take_left]
    have hdrop : x.2.drop docsRoot.length = rest := by rw [← heq, List.drop_left]
    have hall : ∀ x ∈ fixedPaths, x.2.take docsRoot.length = docsRoot →
        x.2.drop docsRoot.length = [] := by decide
    rw [← hdrop, hall x hx htake]
  rw [endpoint?_eq hs hm, hnone, captures?_tail_append docsRoot hrest]
  rfl

theorem endpoint?_unknown (hs : build m p assets = .ok s)
    (hm : m.docsPath = ({} : Metadata).docsPath) {path : List Char}
    (hfixed : path ∉ fixedPaths.map (·.2))
    (hbelow : ∀ rest, rest ≠ [] → path ≠ docsRoot ++ rest) : s.endpoint? path = none := by
  have hnone : fixedPaths.find? (fun x => path = x.2) = none := by
    refine List.find?_eq_none.2 fun x hx heq => hfixed ?_
    rw [of_decide_eq_true heq]
    exact List.mem_map_of_mem hx
  rw [endpoint?_eq hs hm, hnone]
  cases hcaptured : captures? (docsRoot.map .literal ++ [.tail]) path with
  | none => rfl
  | some captured =>
    obtain ⟨rest, hne, hrest⟩ := eq_append_of_captures?_tail hcaptured
    exact absurd hrest (hbelow rest hne)

end Usual

/-! ## Answers behind the gate -/

theorem status_respond (s : Service) {r : Request} (hr : isPreflight r = false) (rec : Recorder) :
    ((s.respond r).run rec).1.status = (s.plain r).status :=
  (s.agreeOutside_respond hr rec).status.trans (status_complete s r (s.plain r))

theorem isRead_iff {m : Method} : isRead m = true ↔ m = .get ∨ m = .head := by
  simp [isRead]

theorem plain_of_isRead {s : Service} {r : Request} {endpoint : Endpoint}
    {captured : List (List Char)} (h : s.endpoint? r.uri.path = some (endpoint, captured))
    (hread : isRead r.method = true) : s.plain r = s.read endpoint captured := by
  simp [plain, h, hread]

theorem plain_of_not_isRead {s : Service} {r : Request} {found : Endpoint × List (List Char)}
    (h : s.endpoint? r.uri.path = some found) (hread : isRead r.method = false) :
    s.plain r = emptyResponse 405 := by
  simp [plain, h, hread]

theorem plain_of_unknown {s : Service} {r : Request} (h : s.endpoint? r.uri.path = none) :
    s.plain r = notFound := by
  simp [plain, h]

theorem plain_congr (s : Service) {r₁ r₂ : Request} (hmethod : r₁.method = r₂.method)
    (hpath : r₁.uri.path = r₂.uri.path) : s.plain r₁ = s.plain r₂ := by
  simp only [plain, hmethod, hpath]

theorem status_docsResponse (assets : List Docs.File) (captured : List (List Char)) :
    (docsResponse assets captured).status = 200 ∨ (docsResponse assets captured).status = 404 := by
  unfold docsResponse
  split
  · exact .inl rfl
  · exact .inr rfl

theorem status_read_ne (s : Service) (endpoint : Endpoint) (captured : List (List Char)) :
    (s.read endpoint captured).status ≠ 405 := by
  cases endpoint with
  | root | health | description => exact Nat.ne_of_beq_eq_false rfl
  | docsEntry =>
    rw [read]
    cases pageLocation? s.metadata with
    | none => exact Nat.ne_of_beq_eq_false rfl
    | some location => exact Nat.ne_of_beq_eq_false rfl
  | docsFile =>
    rcases status_docsResponse s.assets captured with h | h
    · exact fun h405 => absurd (h.symm.trans h405) (by decide)
    · exact fun h405 => absurd (h.symm.trans h405) (by decide)

theorem status_read_nil {s : Service} {endpoint : Endpoint} (h : endpoint ≠ .docsEntry) :
    (s.read endpoint []).status = 200 := by
  cases endpoint with
  | docsEntry => exact absurd rfl h
  | root | health | description | docsFile => rfl

/-- Only an endpoint refuses, and only what is no reading. -/
theorem exists_endpoint?_of_status {s : Service} {r : Request} (h : (s.plain r).status = 405) :
    ∃ found, s.endpoint? r.uri.path = some found ∧ isRead r.method = false := by
  cases hfound : s.endpoint? r.uri.path with
  | none =>
    rw [plain_of_unknown hfound] at h
    cases h
  | some found =>
    refine ⟨found, rfl, ?_⟩
    by_contra hread
    rw [plain_of_isRead hfound (Bool.of_not_eq_false hread)] at h
    exact s.status_read_ne found.1 found.2 h

/-- A refusal as it is sent, but for the gate. -/
theorem ungated_of_not_isRead {s : Service} {r : Request} {found : Endpoint × List (List Char)}
    (h : s.endpoint? r.uri.path = some found) (hread : isRead r.method = false) :
    s.ungated r =
      { status := 405
        fields := [(.allow, .ofString "GET,HEAD"), (.contentLength, .ofNat 0)]
        body := [] } := by
  have hhead : r.method ≠ .head := fun heq => by simp [isRead, heq] at hread
  have hallow : (emptyResponse 405).fields.has .allow = false := rfl
  rw [ungated, complete, h, plain_of_not_isRead h hread]
  simp only [finish, hread, hallow, hhead, Bool.false_or, Bool.false_eq_true, if_false]
  rfl

/-! ## The answers of all paths -/

section Answers

variable {s : Service} {r : Request}

/-- What a path with an endpoint gives depends on whether the request reads. -/
theorem status_respond_of_endpoint? (hr : isPreflight r = false) (rec : Recorder)
    {endpoint : Endpoint} {captured : List (List Char)}
    (h : s.endpoint? r.uri.path = some (endpoint, captured)) :
    ((s.respond r).run rec).1.status =
      if r.method = .get ∨ r.method = .head then (s.read endpoint captured).status else 405 := by
  rw [s.status_respond hr rec]
  split
  · rename_i hread
    rw [plain_of_isRead h (isRead_iff.2 hread)]
  · rename_i hread
    rw [plain_of_not_isRead h (Bool.eq_false_iff.2 fun h' => hread (isRead_iff.1 h'))]
    rfl

theorem status_respond_of_unknown (hr : isPreflight r = false) (rec : Recorder)
    (h : s.endpoint? r.uri.path = none) : ((s.respond r).run rec).1.status = 404 := by
  rw [s.status_respond hr rec, plain_of_unknown h]
  rfl

theorem plain_docsEntry (h : s.endpoint? r.uri.path = some (.docsEntry, []))
    (hread : r.method = .get ∨ r.method = .head) {location : FieldValue}
    (hlocation : pageLocation? s.metadata = some location) : s.plain r = redirect location := by
  rw [plain_of_isRead h (isRead_iff.2 hread), read, hlocation]
  rfl

theorem getAll_location_respond (hr : isPreflight r = false) (rec : Recorder)
    (h : s.endpoint? r.uri.path = some (.docsEntry, []))
    (hread : r.method = .get ∨ r.method = .head) {location : FieldValue}
    (hlocation : pageLocation? s.metadata = some location) :
    ((s.respond r).run rec).1.fields.getAll .location = [location] := by
  rw [(s.agreeOutside_respond hr rec).getAll (by decide), ungated,
    getAll_complete s r _ (by decide) (by decide), plain_docsEntry h hread hlocation]
  exact Fields.getAll_cons_self _ _ _

theorem refusal_respond (hr : isPreflight r = false) (rec : Recorder)
    (h : ((s.respond r).run rec).1.status = 405) :
    ((s.respond r).run rec).1.body = [] ∧
      ((s.respond r).run rec).1.fields.getAll .allow = [.ofString "GET,HEAD"] := by
  have hagree := s.agreeOutside_respond hr rec
  have hplain : (s.plain r).status = 405 := (s.status_respond hr rec).symm.trans h
  obtain ⟨found, hpath, hread⟩ := exists_endpoint?_of_status hplain
  rw [hagree.body, hagree.getAll (by decide), ungated_of_not_isRead hpath hread]
  exact ⟨rfl, by decide⟩

end Answers

/-- What the answer to a request that is no pre-flight must be, by the path and the method. -/
structure FollowsTable (r : Request) (response : Response) : Prop where
  page : r.uri.path ∈ ["/", "/health", "/openapi.json", "/docs/"].map String.toList →
    response.status = if r.method = .get ∨ r.method = .head then 200 else 405
  /-- The documentation without its slash sends the reader to the path with it. -/
  entry : r.uri.path = "/docs".toList →
    if r.method = .get ∨ r.method = .head then
      response.status = 303 ∧ response.fields.getAll .location = [.ofString "/docs/"]
    else response.status = 405
  file : ∀ rest, rest ≠ [] → r.uri.path = "/docs/".toList ++ rest →
    if r.method = .get ∨ r.method = .head then response.status = 200 ∨ response.status = 404
    else response.status = 405
  unknown : r.uri.path ∉ ["/", "/health", "/openapi.json", "/docs", "/docs/"].map String.toList →
    (∀ rest, rest ≠ [] → r.uri.path ≠ "/docs/".toList ++ rest) → response.status = 404
  refusal : response.status = 405 →
    response.body = [] ∧ response.fields.getAll .allow = [.ofString "GET,HEAD"]

theorem followsTable_respond {p : Policy} {assets : List Docs.File} {s : Service}
    (hs : build {} p assets = .ok s) (hmeta : s.metadata = {}) {r : Request}
    (hr : isPreflight r = false) (rec : Recorder) : FollowsTable r ((s.respond r).run rec).1 := by
  constructor
  case page =>
    intro hpath
    have hall : ∀ path ∈ ["/", "/health", "/openapi.json", "/docs/"].map String.toList,
        ∃ x ∈ fixedPaths, x.2 = path ∧ x.1 ≠ .docsEntry := by decide
    obtain ⟨⟨endpoint, path⟩, hmem, rfl, hne⟩ := hall _ hpath
    rw [status_respond_of_endpoint? hr rec (endpoint?_fixed hs rfl hmem), status_read_nil hne]
  case entry =>
    intro hpath
    have hentry : s.endpoint? r.uri.path = some (.docsEntry, []) := by
      rw [hpath]
      exact endpoint?_fixed hs rfl (by decide)
    have hlocation : pageLocation? s.metadata = some (.ofString "/docs/") := by
      rw [hmeta]
      decide
    split
    · rename_i hread
      refine ⟨?_, getAll_location_respond hr rec hentry hread hlocation⟩
      rw [s.status_respond hr rec, plain_docsEntry hentry hread hlocation]
      rfl
    · rename_i hread
      rw [status_respond_of_endpoint? hr rec hentry, if_neg hread]
  case file =>
    intro rest hrest hpath
    have hbelow : s.endpoint? r.uri.path = some (.docsFile, [rest]) := by
      rw [hpath]
      exact endpoint?_below hs rfl hrest
    have hstatus := status_respond_of_endpoint? hr rec hbelow
    split
    · rename_i hread
      rw [hstatus, if_pos hread]
      exact status_docsResponse s.assets [rest]
    · rename_i hread
      rw [hstatus, if_neg hread]
  case unknown =>
    intro hfixed hbelow
    exact status_respond_of_unknown hr rec (endpoint?_unknown hs rfl hfixed hbelow)
  case refusal => exact refusal_respond hr rec

theorem respond_routes {p : Policy} (assets : List Docs.File) (hp : p.conflict? = none) :
    ∃ s, build {} p assets = .ok s ∧
      (∀ (r : Request) (rec : Recorder), isPreflight r = false →
        FollowsTable r ((s.respond r).run rec).1) ∧
      ∀ (r₁ r₂ : Request) (rec₁ rec₂ : Recorder),
        isPreflight r₁ = false → isPreflight r₂ = false →
        r₁.method = r₂.method → r₁.uri.path = r₂.uri.path →
        ((s.respond r₁).run rec₁).1.status = ((s.respond r₂).run rec₂).1.status := by
  obtain ⟨s, hs, hmeta, -⟩ := exists_build (m := {}) assets rfl hp
  refine ⟨s, hs, fun r rec hr => followsTable_respond hs hmeta hr rec, ?_⟩
  intro r₁ r₂ rec₁ rec₂ h₁ h₂ hmethod hpath
  rw [s.status_respond h₁, s.status_respond h₂, s.plain_congr hmethod hpath]

/-- A path in other case is unknown to every method, the documentation without its slash redirects,
and an `OPTIONS` request with an origin is refused where it asks for no method. -/
theorem respond_routes_near_miss :
    ∃ s, build {} ⟨[.ofString "http://a"], true, .any, .any, 5⟩ [] = .ok s ∧
      ∀ rec, let miss : Request := ⟨.delete, ⟨"/Health".toList, some "q".toList⟩, [], [0]⟩
        let entry : Request := ⟨.head, ⟨"/docs".toList, none⟩, [], []⟩
        let bare : Request :=
          ⟨.options, ⟨"/docs/a".toList, none⟩, [(.origin, .ofString "http://a")], []⟩
        ((s.respond miss).run rec).1.status = 404 ∧
          ((s.respond entry).run rec).1.fields.getAll .location = [.ofString "/docs/"] ∧
          ((s.respond bare).run rec).1.fields.getAll .allow = [.ofString "GET,HEAD"] := by
  obtain ⟨s, hs, htable, -⟩ :=
    respond_routes (p := ⟨[.ofString "http://a"], true, .any, .any, 5⟩) [] rfl
  refine ⟨s, hs, fun rec => ?_⟩
  intro miss entry bare
  have hmiss := (htable miss rec (by decide)).unknown (by decide) fun rest _ h => by
    have hlength := congrArg (List.take 2) h
    exact absurd hlength (by simp [miss])
  have hentry := (htable entry rec (by decide)).entry rfl
  have hbare := (htable bare rec (by decide)).file ['a'] (List.cons_ne_nil _ _) rfl
  rw [if_pos (.inr rfl)] at hentry
  rw [if_neg (by decide)] at hbare
  exact ⟨hmiss, hentry.2, ((htable bare rec (by decide)).refusal hbare).2⟩

end Service

end OriginGate
