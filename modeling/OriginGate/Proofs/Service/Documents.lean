import OriginGate.Proofs.Json.Reader
import OriginGate.Proofs.Service.Routing

/-!
# The documents of the service

What the service says of itself, of its health and of its interface are three documents at three
fixed paths. The place of the interactive documentation is free, but its routes come after those of
the documents, so that with whatever place a service can be built, the documents are found.

* `Service.endpoint?_own`: the three paths lead to their documents.
* `Service.holds_respond`: what is answered with a document is read as that document.
* `Service.respond_head`: `HEAD` is told what `GET` is told.
-/

namespace OriginGate

open Http Metrics Text

theorem Http.Method.eq_of_chars {a b : Method} (h : a.chars = b.chars) : a = b := by
  cases a
  cases b
  cases h
  rfl

namespace Service

/-! ## Routes that are there in every service -/

def ownPaths : List (Endpoint × List Char) :=
  [(.root, "/".toList), (.health, "/health".toList), (.description, "/openapi.json".toList)]

theorem eq_append_of_addRoute {routes out : List Route} {r : Route}
    (h : addRoute routes r = .ok out) : out = routes ++ [r] := by
  unfold addRoute at h
  split at h
  · cases h
  · exact (Except.ok.inj h).symm

theorem eq_append_of_addRoutes {routes added out : List Route}
    (h : added.foldlM addRoute routes = .ok out) : out = routes ++ added := by
  induction added generalizing routes with
  | nil =>
    rw [List.append_nil]
    exact (Except.ok.inj h).symm
  | cons r added ih =>
    obtain ⟨next, hnext, hrest⟩ := exists_of_bind_eq_ok h
    rw [ih hrest, eq_append_of_addRoute hnext, List.append_assoc, List.singleton_append]

theorem exists_append_of_addPatterns {patterns : List (Endpoint × List Char)}
    {before after : List Route}
    (h : patterns.foldlM (fun routes x => route x.1 x.2 >>= addRoute routes) before = .ok after) :
    ∃ rest, after = before ++ rest := by
  induction patterns generalizing before with
  | nil =>
    obtain rfl := Except.ok.inj h
    exact ⟨[], (List.append_nil _).symm⟩
  | cons x patterns ih =>
    obtain ⟨next, hnext, hrest⟩ := exists_of_bind_eq_ok h
    obtain ⟨r, -, hr⟩ := exists_of_bind_eq_ok hnext
    obtain ⟨rest, rfl⟩ := ih hrest
    exact ⟨r :: rest, by rw [eq_append_of_addRoute hr, List.append_assoc, List.singleton_append]⟩

theorem exists_docsRoutes {docsPath : List Char} {routes : List Route}
    (h : docsRoutes docsPath = .ok routes) :
    ∃ rest, routes = literalRoute .description "/openapi.json".toList :: rest := by
  have hpatterns : (docsPatterns docsPath).foldlM
      (fun routes x => route x.1 x.2 >>= addRoute routes)
      [literalRoute .description "/openapi.json".toList] = .ok routes := h
  exact exists_append_of_addPatterns hpatterns

theorem exists_allRoutes {docsPath : List Char} {routes : List Route}
    (h : allRoutes docsPath = .ok routes) :
    ∃ rest, routes = (ownPaths.map fun x => literalRoute x.1 x.2) ++ rest := by
  obtain ⟨docs, hdocs, h⟩ := exists_of_bind_eq_ok h
  obtain ⟨rest, rfl⟩ := exists_docsRoutes hdocs
  exact ⟨rest, eq_append_of_addRoutes h⟩

section Built

variable {m : Metadata} {p : Policy} {assets : List Docs.File} {s : Service}

theorem metadata_of_build (hs : build m p assets = .ok s) : s.metadata = m :=
  (build_eq_ok_iff.1 hs).2.2.1

theorem assets_of_build (hs : build m p assets = .ok s) : s.assets = assets :=
  (build_eq_ok_iff.1 hs).2.2.2.2

theorem endpoint?_own (hs : build m p assets = .ok s) {endpoint : Endpoint} {path : List Char}
    (h : (endpoint, path) ∈ ownPaths) : s.endpoint? path = some (endpoint, []) := by
  obtain ⟨rest, hrest⟩ := exists_allRoutes (build_eq_ok_iff.1 hs).1
  have hfind : ∀ x ∈ ownPaths, ownPaths.find? (fun y => x.2 = y.2) = some x := by decide
  rw [endpoint?, hrest, List.findSome?_append, findSome?_literalRoute, hfind _ h]
  rfl

end Built

end Service

/-! ## Answers that hold a document -/

/-- The answer is a JSON document, and it is read as this value. -/
structure Http.Response.Holds (response : Response) (status : Nat) (v : Json.Value) : Prop where
  status : response.status = status
  mediaType : response.fields.getAll .contentType = [.ofString "application/json"]
  body : Json.readBytes? response.body = some v

namespace Service

variable (s : Service)

theorem not_isPreflight_of_isRead {r : Request} (h : isRead r.method = true) :
    isPreflight r = false := by
  have hmethod : r.method ≠ .options := by
    intro heq
    rw [heq] at h
    exact absurd h (by decide)
  simp [isPreflight, hmethod]

theorem body_complete_of_ne_head {r : Request} (h : r.method ≠ .head) (response : Response) :
    (s.complete r response).body = response.body := by
  unfold complete finish
  split
  · dsimp only
    rw [if_neg h, body_withLength]
    split <;> rfl
  · exact body_withLength response

theorem getAll_contentType_respond {r : Request} (hr : isPreflight r = false) (rec : Recorder) :
    ((s.respond r).run rec).1.fields.getAll .contentType =
      (s.plain r).fields.getAll .contentType := by
  rw [(s.agreeOutside_respond hr rec).getAll (by decide), ungated,
    getAll_complete s r _ (by decide) (by decide)]

theorem body_respond_get {r : Request} (h : r.method = .get) (rec : Recorder) :
    ((s.respond r).run rec).1.body = (s.plain r).body := by
  have hr : isPreflight r = false := not_isPreflight_of_isRead (isRead_iff.2 (.inl h))
  have hne : r.method ≠ .head := by
    rw [h]
    decide
  rw [(s.agreeOutside_respond hr rec).body]
  exact s.body_complete_of_ne_head hne (s.plain r)

theorem holds_respond {r : Request} (h : r.method = .get) {status : Nat} {v : Json.Value}
    (hplain : s.plain r = jsonResponse status v) (rec : Recorder) :
    ((s.respond r).run rec).1.Holds status v := by
  have hr : isPreflight r = false := not_isPreflight_of_isRead (isRead_iff.2 (.inl h))
  constructor
  case status =>
    rw [s.status_respond hr rec, hplain]
    rfl
  case mediaType =>
    rw [s.getAll_contentType_respond hr rec, hplain]
    exact Fields.getAll_cons_self _ _ _
  case body =>
    rw [s.body_respond_get h rec, hplain]
    exact Json.readBytes?_compact v

/-- What is told of a document does not depend on whether the document is sent. -/
theorem respond_head {r : Request} {found : Endpoint × List (List Char)}
    (hfound : s.endpoint? r.uri.path = some found) (h : r.method = .head) (rec rec' : Recorder) :
    ((s.respond r).run rec).1 =
      { ((s.respond { r with method := .get }).run rec').1 with body := [] } := by
  have hpre : isPreflight r = false := not_isPreflight_of_isRead (isRead_iff.2 (.inr h))
  have hpre' : isPreflight { r with method := .get } = false :=
    not_isPreflight_of_isRead (isRead_iff.2 (.inl rfl))
  have hcross : isCrossOrigin { r with method := .get } = isCrossOrigin r := by
    have hget : Method.get ≠ .options := by decide
    have hhead : Method.head ≠ .options := by decide
    simp [isCrossOrigin, h, hget, hhead]
  have hplain : s.plain { r with method := .get } = s.plain r := by
    rw [plain_of_isRead hfound (isRead_iff.2 (.inr h))]
    exact plain_of_isRead hfound (isRead_iff.2 (.inl rfl))
  have hgated : s.policy.gated { r with method := .get } (s.plain r) =
      s.policy.gated r (s.plain r) := by
    rw [Policy.gated, Policy.gated, hpre, hpre', hcross]
    rfl
  rw [run_respond, run_respond, hplain, hgated]
  simp only [complete, hfound, h]
  rfl

end Service

end OriginGate
