import OriginGate.Proofs.Service.Documents

/-!
# Where the documentation is mounted

The documentation can be mounted at any path in which no character starts a name. Its routes are
then three: the path without a slash at its end, the path with it, and all that lies below. A
service can be built with them unless the first is the route of a document, or no route at all.

* `Service.route_literal`, `route_tail`: the routes of texts without names.
* `Service.addRoutes_eq_ok_iff`: routes can be added if no pattern occurs twice.
* `Service.exists_build_iff`: the paths at which the documentation can be mounted.
* `Service.endpoint?_mounted`: where the routes lead.
* `Service.plain_outside`: what is answered on all other paths.
-/

namespace OriginGate

open Http Text

namespace Service

/-- A path without names: a slash and characters that a path may hold, none of which starts the
name of a piece. -/
def IsMountPath (path : List Char) : Prop :=
  ∃ rest, path = '/' :: rest ∧ ∀ c ∈ rest, Uri.isPathChar c = true ∧ startsName c = false

theorem IsMountPath.isPathChar {path : List Char} (h : IsMountPath path) :
    ∀ c ∈ path, Uri.isPathChar c = true := by
  obtain ⟨rest, rfl, hrest⟩ := h
  exact List.forall_mem_cons.2 ⟨by decide, fun c hc => (hrest c hc).1⟩

theorem IsMountPath.not_startsName {path : List Char} (h : IsMountPath path) :
    ∀ c ∈ path, startsName c = false := by
  obtain ⟨rest, rfl, hrest⟩ := h
  exact List.forall_mem_cons.2 ⟨by decide, fun c hc => (hrest c hc).2⟩

/-! ## Patterns -/

theorem checkNames_append {literal rest : List Char} (h : ∀ c ∈ literal, startsName c = false)
    (count : Nat) : checkNames count none (literal ++ rest) = checkNames count none rest := by
  induction literal with
  | nil => rfl
  | cons c cs ih =>
    obtain ⟨hc, hcs⟩ := List.forall_mem_cons.1 h
    rw [List.cons_append, checkNames, hc]
    exact ih hcs

/-- Characters that start no name stand for themselves. -/
theorem pieces_append {literal rest : List Char} {ps : List Piece}
    (h : ∀ c ∈ literal, startsName c = false) (hrest : ∀ b, pieces false b rest = .ok ps) :
    ∀ b, pieces false b (literal ++ rest) = .ok (literal.map .literal ++ ps) := by
  induction literal with
  | nil => exact hrest
  | cons c cs ih =>
    intro b
    obtain ⟨hc, hcs⟩ := List.forall_mem_cons.1 h
    obtain ⟨hcolon, hstar⟩ : c ≠ ':' ∧ c ≠ '*' := by simpa [startsName] using hc
    rw [List.cons_append, pieces, if_neg hcolon, if_neg hstar, ih hcs]
    rfl

theorem readPattern_append {path rest : List Char} {ps : List Piece} (h : IsMountPath path)
    (hcheck : checkNames 0 none rest = .ok ()) (hrest : ∀ b, pieces false b rest = .ok ps) :
    readPattern (path ++ rest) = .ok (path.map .literal ++ ps) := by
  have hnames := h.not_startsName
  obtain ⟨cs, rfl, -⟩ := h
  have hchecked : checkNames 0 none ('/' :: (cs ++ rest)) = .ok () :=
    (checkNames_append hnames 0).trans hcheck
  have hpieces := pieces_append hnames hrest false
  rw [List.cons_append] at hpieces ⊢
  simp only [readPattern, hchecked, hpieces]
  rfl

/-- The route of all that lies below a path. -/
def tailRoute (path : List Char) : Route :=
  { text := path ++ "/*rest".toList
    pieces := (path ++ ['/']).map .literal ++ [.tail]
    endpoint := .docsFile }

theorem route_literal {path : List Char} (h : IsMountPath path) (endpoint : Endpoint) :
    route endpoint path = .ok (literalRoute endpoint path) := by
  have hread : readPattern (path ++ []) = .ok (path.map .literal ++ []) :=
    readPattern_append h rfl fun _ => rfl
  rw [List.append_nil, List.append_nil] at hread
  rw [route, hread]
  rfl

theorem route_tail {path : List Char} (h : IsMountPath path) :
    route .docsFile (path ++ "/*rest".toList) = .ok (tailRoute path) := by
  have hread : readPattern (path ++ "/*rest".toList) =
      .ok (path.map .literal ++ [.literal '/', .tail]) :=
    readPattern_append h rfl fun b => by cases b <;> rfl
  rw [route, hread, tailRoute, List.map_append, List.append_assoc]
  rfl

/-! ## The table -/

theorem addRoute_of_new {routes : List Route} {r : Route} (h : r.text ∉ routes.map (·.text)) :
    addRoute routes r = .ok (routes ++ [r]) := by
  have hany : routes.any (·.text = r.text) = false :=
    List.any_eq_false.2 fun r' hr' heq => h (of_decide_eq_true heq ▸ List.mem_map_of_mem hr')
  rw [addRoute, hany]
  rfl

theorem addRoute_of_known {routes : List Route} {r : Route} (h : r.text ∈ routes.map (·.text)) :
    addRoute routes r = .error (.overlap (String.ofList r.text)) := by
  obtain ⟨r', hr', heq⟩ := List.mem_map.1 h
  exact if_pos (List.any_eq_true.2 ⟨r', hr', decide_eq_true heq⟩)

/-- Routes can be added one by one if no two have the same pattern. -/
theorem addRoutes_eq_ok_iff {routes added out : List Route} (h : (routes.map (·.text)).Nodup) :
    added.foldlM addRoute routes = .ok out ↔
      ((routes ++ added).map (·.text)).Nodup ∧ out = routes ++ added := by
  induction added generalizing routes with
  | nil =>
    rw [List.append_nil, List.foldlM_nil]
    exact ⟨fun hout => ⟨h, (Except.ok.inj hout).symm⟩, fun hout => congrArg _ hout.2.symm⟩
  | cons r added ih =>
    rw [List.foldlM_cons, List.append_cons]
    by_cases hr : r.text ∈ routes.map (·.text)
    · rw [addRoute_of_known hr]
      refine ⟨nofun, fun ⟨hnodup, _⟩ => ?_⟩
      rw [List.map_append, List.map_append, List.append_assoc, List.nodup_append] at hnodup
      exact absurd rfl (hnodup.2.2 _ hr _ List.mem_cons_self)
    · rw [addRoute_of_new hr]
      refine ih ?_
      rw [List.map_append, List.nodup_append]
      refine ⟨h, List.pairwise_singleton _ _, fun text htext text' htext' heq => hr ?_⟩
      have hsame : text = r.text := heq.trans (List.mem_singleton.1 htext')
      exact hsame ▸ htext

/-- The routes of the documentation at a path. -/
def mountedRoutes (base : List Char) : List Route :=
  [literalRoute .docsEntry base, literalRoute .docsFile (base ++ ['/']), tailRoute base]

theorem isMountPath_docsBase {path : List Char} (h : IsMountPath path) (hne : path ≠ ['/']) :
    IsMountPath (docsBase path) := by
  obtain ⟨rest, rfl, hrest⟩ := h
  have hrest' : rest ≠ [] := fun hnil => hne (congrArg _ hnil)
  unfold docsBase
  split
  · exact ⟨rest.dropLast, List.dropLast_cons_of_ne_nil hrest', fun c hc =>
      hrest c (List.dropLast_subset rest hc)⟩
  · exact ⟨rest, rfl, hrest⟩

theorem IsMountPath.concat {path : List Char} (h : IsMountPath path) :
    IsMountPath (path ++ ['/']) := by
  obtain ⟨rest, rfl, hrest⟩ := h
  refine ⟨rest ++ ['/'], rfl, List.forall_mem_append.2 ⟨hrest, ?_⟩⟩
  simp only [List.mem_singleton, forall_eq]
  decide

theorem docsRoutes_eq {path : List Char} (h : IsMountPath path) (hne : path ≠ ['/']) :
    docsRoutes path = (mountedRoutes (docsBase path)).foldlM addRoute
      [literalRoute .description "/openapi.json".toList] := by
  have hbase := isMountPath_docsBase h hne
  have hpatterns : docsRoutes path = (docsPatterns path).foldlM
      (fun routes x => route x.1 x.2 >>= addRoute routes)
      [literalRoute .description "/openapi.json".toList] := rfl
  rw [hpatterns, docsPatterns, if_neg hne]
  simp only [List.foldlM_cons, List.foldlM_nil, mountedRoutes, route_literal hbase,
    route_literal hbase.concat, route_tail hbase]
  rfl

/-- The routes of a service whose documentation is mounted at a path. -/
def routesWith (base : List Char) : List Route :=
  (ownPaths.map fun x => literalRoute x.1 x.2) ++ mountedRoutes base

theorem allRoutes_eq_ok_iff {path : List Char} (h : IsMountPath path) (hne : path ≠ ['/'])
    {routes : List Route} :
    allRoutes path = .ok routes ↔
      ((routesWith (docsBase path)).map (·.text)).Nodup ∧ routes = routesWith (docsBase path) := by
  have hall : allRoutes path = docsRoutes path >>= fun docs => docs.foldlM addRoute
      [literalRoute .root "/".toList, literalRoute .health "/health".toList] := rfl
  have hdescription : ([literalRoute .description "/openapi.json".toList].map (·.text)).Nodup :=
    List.pairwise_singleton _ _
  have hown : ([literalRoute .root "/".toList, literalRoute .health "/health".toList].map
      (·.text)).Nodup := by decide
  rw [hall, docsRoutes_eq h hne]
  constructor
  · intro hroutes
    obtain ⟨docs, hdocs, hadded⟩ := exists_of_bind_eq_ok hroutes
    obtain ⟨-, rfl⟩ := (addRoutes_eq_ok_iff hdescription).1 hdocs
    exact (addRoutes_eq_ok_iff hown).1 hadded
  · rintro ⟨hnodup, rfl⟩
    have hrest := (List.pairwise_cons.1 (List.pairwise_cons.1 hnodup).2).2
    rw [(addRoutes_eq_ok_iff hdescription).2 ⟨hrest, rfl⟩]
    exact (addRoutes_eq_ok_iff hown).2 ⟨hnodup, rfl⟩

theorem nodup_routesWith_iff {base : List Char} (h : IsMountPath base) :
    ((routesWith base).map (·.text)).Nodup ↔ base ∉ ownPaths.map (·.2) := by
  have htexts : (routesWith base).map (·.text) =
      ownPaths.map (·.2) ++ [base, base ++ ['/'], base ++ "/*rest".toList] := rfl
  obtain ⟨cs, hbase, -⟩ := h
  rw [htexts, List.nodup_append]
  refine ⟨fun hnodup hmem => hnodup.2.2 _ hmem _ List.mem_cons_self rfl,
    fun hnot => ⟨by decide, by simp, fun a ha b hb => ?_⟩⟩
  simp only [List.mem_cons, List.not_mem_nil, or_false] at hb
  rcases hb with rfl | rfl | rfl
  · exact fun heq => hnot (heq ▸ ha)
  · -- of the paths of the documents only that of the service itself ends in a slash
    have hslash : ∀ a ∈ ownPaths.map (·.2), a.getLast? = some '/' → a.dropLast = [] := by decide
    rintro rfl
    have hnil := hslash _ ha List.getLast?_concat
    rw [List.dropLast_concat, hbase] at hnil
    cases hnil
  · have hlast : ∀ a ∈ ownPaths.map (·.2), a.getLast? ≠ some 't' := by decide
    rintro rfl
    exact hlast _ ha (by simp)

/-- The path of a slash alone is that of the service itself. -/
theorem allRoutes_slash : allRoutes ['/'] = .error (.overlap "/") := by
  rfl

theorem exists_allRoutes_iff {path : List Char} (h : IsMountPath path) :
    (∃ routes, allRoutes path = .ok routes) ↔
      docsBase path ∉ ["", "/", "/health", "/openapi.json"].map String.toList := by
  by_cases hne : path = ['/']
  · rw [hne, allRoutes_slash]
    exact ⟨nofun, fun hnot => absurd (by decide) hnot⟩
  · have hbase := isMountPath_docsBase h hne
    have hpaths : docsBase path ∈ ["", "/", "/health", "/openapi.json"].map String.toList ↔
        docsBase path ∈ ownPaths.map (·.2) := by
      obtain ⟨cs, hcs, -⟩ := hbase
      rw [hcs]
      simp [ownPaths]
    rw [hpaths, ← nodup_routesWith_iff hbase]
    simp only [allRoutes_eq_ok_iff h hne]
    exact ⟨fun ⟨_, hnodup, _⟩ => hnodup, fun hnodup => ⟨_, hnodup, rfl⟩⟩

/-! ## Where the routes lead -/

/-- The paths with an endpoint of their own. -/
def mountedPaths (base : List Char) : List (Endpoint × List Char) :=
  ownPaths ++ [(.docsEntry, base), (.docsFile, base ++ ['/'])]

theorem find?_eq_some_of_nodup {paths : List (Endpoint × List Char)}
    (h : (paths.map (·.2)).Nodup) {x : Endpoint × List Char} (hx : x ∈ paths) :
    paths.find? (fun y => x.2 = y.2) = some x := by
  induction paths with
  | nil => cases hx
  | cons y paths ih =>
    rw [List.map_cons, List.nodup_cons] at h
    rcases List.mem_cons.1 hx with rfl | hx
    · exact List.find?_cons_of_pos (decide_eq_true rfl)
    · have hne : x.2 ≠ y.2 := fun heq => h.1 (heq ▸ List.mem_map_of_mem hx)
      rw [List.find?_cons_of_neg (by simpa using hne)]
      exact ih h.2 hx

section Built

variable {m : Metadata} {p : Policy} {assets : List Docs.File} {s : Service}

theorem exists_build_iff (assets : List Docs.File) (hm : IsMountPath m.docsPath.toList)
    (hp : p.conflict? = none) :
    (∃ s, build m p assets = .ok s) ↔
      docsBase m.docsPath.toList ∉ ["", "/", "/health", "/openapi.json"].map String.toList := by
  rw [← exists_allRoutes_iff hm]
  constructor
  · rintro ⟨s, hs⟩
    exact ⟨s.routes, (build_eq_ok_iff.1 hs).1⟩
  · rintro ⟨routes, hroutes⟩
    exact ⟨⟨m, p, routes, assets⟩, build_eq_ok_iff.2 ⟨hroutes, hp, rfl, rfl, rfl⟩⟩

theorem ne_slash_of_build (hs : build m p assets = .ok s) : m.docsPath.toList ≠ ['/'] := by
  intro hslash
  have hroutes := (build_eq_ok_iff.1 hs).1
  rw [hslash, allRoutes_slash] at hroutes
  cases hroutes

theorem endpoint?_mounted (hm : IsMountPath m.docsPath.toList) (hs : build m p assets = .ok s)
    {endpoint : Endpoint} {path : List Char}
    (h : (endpoint, path) ∈ mountedPaths (docsBase m.docsPath.toList)) :
    s.endpoint? path = some (endpoint, []) := by
  obtain ⟨hnodup, hroutes⟩ :=
    (allRoutes_eq_ok_iff hm (ne_slash_of_build hs)).1 (build_eq_ok_iff.1 hs).1
  have hsplit : routesWith (docsBase m.docsPath.toList) =
      ((mountedPaths (docsBase m.docsPath.toList)).map fun x => literalRoute x.1 x.2) ++
        [tailRoute (docsBase m.docsPath.toList)] := rfl
  have hpaths : ((mountedPaths (docsBase m.docsPath.toList)).map (·.2)).Nodup := by
    rw [hsplit, List.map_append, List.map_map] at hnodup
    exact (List.nodup_append.1 hnodup).1
  rw [endpoint?, hroutes, hsplit, List.findSome?_append, findSome?_literalRoute,
    find?_eq_some_of_nodup hpaths h]
  rfl

/-- The path is not one of the documentation. -/
def IsOutside (base path : List Char) : Prop :=
  path ≠ base ∧ ∀ rest, path ≠ base ++ '/' :: rest

theorem endpoint?_outside (hm : IsMountPath m.docsPath.toList) (hs : build m p assets = .ok s)
    {path : List Char} (h : IsOutside (docsBase m.docsPath.toList) path)
    {found : Endpoint × List (List Char)} (hfound : s.endpoint? path = some found) :
    found.1 ∈ ownPaths.map (·.1) := by
  have hroutes := ((allRoutes_eq_ok_iff hm (ne_slash_of_build hs)).1 (build_eq_ok_iff.1 hs).1).2
  rw [endpoint?, hroutes] at hfound
  obtain ⟨r, hr, hmatch⟩ := List.exists_of_findSome?_eq_some hfound
  obtain ⟨captured, hcaptured, rfl⟩ := Option.map_eq_some_iff.1 hmatch
  have hliteral : ∀ text, captures? (text.map .literal) path = some captured → path = text := by
    intro text hcaptured
    by_contra hne
    rw [captures?_literal, if_neg hne] at hcaptured
    cases hcaptured
  rcases List.mem_append.1 hr with hr | hr
  · obtain ⟨x, hx, rfl⟩ := List.mem_map.1 hr
    exact List.mem_map_of_mem hx
  · simp only [mountedRoutes, List.mem_cons, List.not_mem_nil, or_false] at hr
    rcases hr with rfl | rfl | rfl
    · exact absurd (hliteral _ hcaptured) h.1
    · exact absurd (hliteral _ hcaptured) (h.2 [])
    · obtain ⟨rest, -, hrest⟩ := eq_append_of_captures?_tail hcaptured
      rw [List.append_assoc, List.singleton_append] at hrest
      exact absurd hrest (h.2 rest)

/-- Outside the documentation all that is read are documents, and the refusal of unknown paths. -/
theorem plain_outside (hm : IsMountPath m.docsPath.toList) (hs : build m p assets = .ok s)
    {r : Request} (hread : isRead r.method = true)
    (h : IsOutside (docsBase m.docsPath.toList) r.uri.path) :
    ∃ status v, s.plain r = jsonResponse status v ∧ status ≠ 303 := by
  cases hfound : s.endpoint? r.uri.path with
  | none => exact ⟨404, _, plain_of_unknown hfound, by decide⟩
  | some found =>
    obtain ⟨endpoint, captured⟩ := found
    have hown : endpoint ∈ ownPaths.map (·.1) := endpoint?_outside hm hs h hfound
    rw [plain_of_isRead hfound hread]
    cases endpoint with
    | root => exact ⟨200, _, rfl, by decide⟩
    | health => exact ⟨200, _, rfl, by decide⟩
    | description => exact ⟨200, _, rfl, by decide⟩
    | docsEntry => exact absurd hown (by decide)
    | docsFile => exact absurd hown (by decide)

end Built

end Service

end OriginGate
