import Mathlib.Algebra.BigOperators.Finprod
import OriginGate.Proofs.Metrics.Series
import OriginGate.Proofs.Service.Routing

/-!
# What traffic leaves in the metrics

A request is counted if it is no pre-flight and asks for one of the two endpoints of the service
itself: by one step of the recorder, after it was answered. So the recorder after any run of
requests shows how often each kind of answer was given to each of them, and nothing else.

* `Service.run_respond_counted`: one request.
* `Service.run_mapM_respond`: a run of requests, by induction on it.
* `Service.respond_countsTraffic`: the lines of the metrics after any run.
-/

namespace OriginGate

open Http Metrics Text

namespace Service

/-! ## One request -/

/-- The paths whose requests are counted. -/
def measuredPaths : List String := ["/", "/health"]

/-- The labels under which a request that was answered is counted, if it is. -/
def countedAs? (r : Request) (status : Nat) : Option Labels :=
  if isPreflight r then none
  else (measuredPaths.find? fun e => e.toList = r.uri.path).map fun e =>
    ⟨e, r.method.toString, status⟩

section Usual

variable {m : Metadata} {p : Policy} {assets : List Docs.File} {s : Service}

theorem measured?_endpoint? (hs : build m p assets = .ok s)
    (hm : m.docsPath = ({} : Metadata).docsPath) (path : List Char) :
    (s.endpoint? path).bind (fun found => measured? found.1) =
      measuredPaths.find? fun e => e.toList = path := by
  by_cases hfixed : path ∈ fixedPaths.map (·.2)
  · obtain ⟨⟨endpoint, path⟩, hmem, rfl⟩ := List.mem_map.1 hfixed
    have hall : ∀ x ∈ fixedPaths,
        measured? x.1 = measuredPaths.find? fun e => e.toList = x.2 := by decide
    rw [endpoint?_fixed hs hm hmem]
    exact hall _ hmem
  · have hnone : measuredPaths.find? (fun e => e.toList = path) = none := by
      have hall : ∀ e ∈ measuredPaths, e.toList ∈ fixedPaths.map (·.2) := by decide
      refine List.find?_eq_none.2 fun e he heq => hfixed ?_
      rw [← of_decide_eq_true heq]
      exact hall e he
    rw [hnone]
    by_cases hbelow : ∃ rest, rest ≠ [] ∧ path = docsRoot ++ rest
    · obtain ⟨rest, hrest, rfl⟩ := hbelow
      rw [endpoint?_below hs hm hrest]
      rfl
    · have hunknown : s.endpoint? path = none :=
        endpoint?_unknown hs hm hfixed fun rest hrest heq => hbelow ⟨rest, hrest, heq⟩
      rw [hunknown]
      rfl

theorem recorded_eq (hs : build m p assets = .ok s)
    (hm : m.docsPath = ({} : Metadata).docsPath) (r : Request) (rec : Recorder) :
    s.recorded r rec =
      match measuredPaths.find? fun e => e.toList = r.uri.path with
      | some e => (rec.recordLatency e).recordRequest ⟨e, r.method.toString, (s.plain r).status⟩
      | none => rec := by
  rw [← measured?_endpoint? hs hm, recorded]
  cases s.endpoint? r.uri.path with
  | none => rfl
  | some found => rfl

/-- The answer to a request, which does not depend on what was counted before. -/
def answered (s : Service) (r : Request) : Response :=
  s.complete r (s.policy.gated r (s.plain r))

theorem run_respond_counted (hs : build m p assets = .ok s)
    (hm : m.docsPath = ({} : Metadata).docsPath) (r : Request) (rec : Recorder) :
    (s.respond r).run rec =
      (s.answered r, rec.recordAll (countedAs? r (s.answered r).status).toList) := by
  have hrun : (s.respond r).run rec =
      (s.answered r, if isPreflight r then rec else s.recorded r rec) := s.run_respond r rec
  rw [hrun, countedAs?]
  cases hr : isPreflight r with
  | true => rfl
  | false =>
    have hstatus : (s.answered r).status = (s.plain r).status := by
      have h := s.status_respond hr rec
      rwa [hrun] at h
    simp only [Bool.false_eq_true, if_false]
    rw [recorded_eq hs hm, hstatus]
    cases measuredPaths.find? fun e => e.toList = r.uri.path <;> rfl

/-! ## A run of requests -/

theorem run_bind_of_run {σ α β : Type} {x : StateM σ α} {f : α → StateM σ β} {st st' : σ} {a : α}
    (h : x.run st = (a, st')) : (x >>= f).run st = (f a).run st' := by
  rw [StateT.run_bind, h]
  rfl

theorem run_mapM_respond (hs : build m p assets = .ok s)
    (hm : m.docsPath = ({} : Metadata).docsPath) (rs : List Request) (rec : Recorder) :
    (rs.mapM s.respond).run rec =
      (rs.map s.answered,
        rec.recordAll (rs.filterMap fun r => countedAs? r (s.answered r).status)) := by
  induction rs generalizing rec with
  | nil => rfl
  | cons r rs ih =>
    have htraffic : (r :: rs).filterMap (fun r => countedAs? r (s.answered r).status) =
        (countedAs? r (s.answered r).status).toList ++
          rs.filterMap fun r => countedAs? r (s.answered r).status := by
      rw [List.filterMap_cons]
      cases countedAs? r (s.answered r).status <;> rfl
    rw [List.mapM_cons, run_bind_of_run (run_respond_counted hs hm r rec),
      run_bind_of_run (ih _), htraffic, Recorder.recordAll_append]
    rfl

end Usual

/-! ## What was counted -/

/-- How many of the answered requests are no pre-flights, ask for just the path of the endpoint
with the method and have an answer with the status. -/
def requestCount (exchanges : List (Request × Response)) (endpoint : String) (m : Method)
    (status : Nat) : Nat :=
  exchanges.countP fun x =>
    !isPreflight x.1 && x.1.uri.path = endpoint.toList && x.1.method = m && x.2.status = status

/-- The lines of the metrics tell of these answered requests and nothing else. -/
structure CountsTraffic (exchanges : List (Request × Response)) (lines : List String) : Prop where
  requests : ∀ endpoint ∈ ["/", "/health"], ∀ (m : Method) (status n : Nat),
    requestSample ⟨endpoint, m.toString, status⟩ n ∈ lines ↔
      n = requestCount exchanges endpoint m status ∧ 0 < n
  /-- The latencies of an endpoint are as many as its requests of all methods and statuses. -/
  latencies : ∀ endpoint ∈ ["/", "/health"], ∀ n,
    latencySample endpoint n ∈ lines ↔
      n = (∑ᶠ k : Method × Nat, requestCount exchanges endpoint k.1 k.2) ∧ 0 < n
  nothing_else : ∀ line ∈ lines, line.toList.head? = some '#' ∨
    ∃ endpoint ∈ ["/", "/health"],
      (∃ (m : Method) (status n : Nat), line = requestSample ⟨endpoint, m.toString, status⟩ n) ∨
        ∃ n, line = latencySample endpoint n
  once : lines.Nodup

theorem countedAs?_eq_some_iff {r : Request} {status : Nat} {l : Labels} :
    countedAs? r status = some l ↔
      isPreflight r = false ∧ l.endpoint ∈ measuredPaths ∧ r.uri.path = l.endpoint.toList ∧
        r.method.toString = l.method ∧ status = l.status := by
  obtain ⟨endpoint, method, labelled⟩ := l
  unfold countedAs?
  cases hr : isPreflight r with
  | true => simp
  | false =>
    simp only [Bool.false_eq_true, if_false, Option.map_eq_some_iff, Labels.mk.injEq, true_and]
    constructor
    · rintro ⟨e, hfind, rfl, rfl, rfl⟩
      have hpath : e.toList = r.uri.path := by simpa using List.find?_some hfind
      exact ⟨List.mem_of_find?_eq_some hfind, hpath.symm, rfl, rfl⟩
    · rintro ⟨hmem, hpath, hmethod, hstatus⟩
      refine ⟨endpoint, ?_, rfl, hmethod, hstatus⟩
      have hall : ∀ e ∈ measuredPaths,
          measuredPaths.find? (fun e' => e'.toList = e.toList) = some e := by decide
      rw [hpath]
      exact hall endpoint hmem

theorem Method.toString_inj {m m' : Method} : m.toString = m'.toString ↔ m = m' := by
  constructor
  · intro h
    obtain ⟨chars, hm⟩ := m
    obtain ⟨chars', hm'⟩ := m'
    obtain rfl : chars = chars' := String.ofList_injective h
    rfl
  · rintro rfl
    rfl

/-- The labels of the counted requests among those answered, in order. -/
def traffic (exchanges : List (Request × Response)) : List Labels :=
  exchanges.filterMap fun x => countedAs? x.1 x.2.status

theorem of_mem_traffic {exchanges : List (Request × Response)} {l : Labels}
    (h : l ∈ traffic exchanges) :
    l.endpoint ∈ measuredPaths ∧ ∃ m : Method, l.method = m.toString := by
  obtain ⟨x, -, hx⟩ := List.mem_filterMap.1 h
  obtain ⟨-, hendpoint, -, hmethod, -⟩ := countedAs?_eq_some_iff.1 hx
  exact ⟨hendpoint, x.1.method, hmethod.symm⟩

theorem isPlain_of_mem_measuredPaths {e : String} (h : e ∈ measuredPaths) : IsPlain e.toList := by
  have hall : ∀ e ∈ measuredPaths, '\n' ∉ e.toList ∧ '"' ∉ e.toList ∧ '\\' ∉ e.toList := by decide
  obtain ⟨hnewline, hquote, hbackslash⟩ := hall e h
  exact ⟨hnewline, hquote, hbackslash⟩

theorem isPlain_of_mem_traffic {exchanges : List (Request × Response)} {l : Labels}
    (h : l ∈ traffic exchanges) : l.IsPlain := by
  obtain ⟨hendpoint, m, hm⟩ := of_mem_traffic h
  refine ⟨isPlain_of_mem_measuredPaths hendpoint, ?_⟩
  rw [hm]
  exact isPlain_method m

theorem count_traffic (exchanges : List (Request × Response)) {endpoint : String}
    (he : endpoint ∈ measuredPaths) (m : Method) (status : Nat) :
    (traffic exchanges).count ⟨endpoint, m.toString, status⟩ =
      requestCount exchanges endpoint m status := by
  rw [traffic, List.count_filterMap, requestCount]
  refine List.countP_congr fun x _ => ?_
  rw [beq_iff_eq, countedAs?_eq_some_iff]
  simp [he, Method.toString_inj, and_assoc]

/-- Over all keys, the numbers of elements with each key sum up to the length. -/
theorem finsum_countP {α κ : Type} [DecidableEq κ] (key : α → κ) (xs : List α) :
    (∑ᶠ k, xs.countP fun x => key x = k) = xs.length := by
  have hcount : ∀ k, (xs.countP fun x => key x = k) = (xs.map key).count k := by
    intro k
    rw [List.count, List.countP_map]
    exact List.countP_congr fun x _ => by simp
  have hsupport : Function.support (fun k => (xs.map key).count k) ⊆ (xs.map key).toFinset := by
    intro k hk
    have hpos : 0 < (xs.map key).count k := Nat.pos_of_ne_zero hk
    exact Finset.mem_coe.2 (List.mem_toFinset.2 (List.count_pos_iff.1 hpos))
  rw [finsum_congr hcount, finsum_eq_sum_of_support_subset _ hsupport,
    List.sum_toFinset_count_eq_length, List.length_map]

/-- Whether an answered request is counted for the endpoint. -/
def isCountedFor (endpoint : String) (x : Request × Response) : Bool :=
  !isPreflight x.1 && x.1.uri.path = endpoint.toList

theorem count_traffic_endpoint (exchanges : List (Request × Response)) {endpoint : String}
    (he : endpoint ∈ measuredPaths) :
    ((traffic exchanges).map (·.endpoint)).count endpoint =
      ∑ᶠ k : Method × Nat, requestCount exchanges endpoint k.1 k.2 := by
  have hcount : ∀ k : Method × Nat, requestCount exchanges endpoint k.1 k.2 =
      (exchanges.filter (isCountedFor endpoint)).countP
        fun x => (x.1.method, x.2.status) = k := by
    intro k
    rw [requestCount, List.countP_filter]
    refine List.countP_congr fun x _ => ?_
    simp only [isCountedFor, Bool.and_eq_true, decide_eq_true_eq, Prod.ext_iff]
    tauto
  rw [finsum_congr hcount, finsum_countP, ← List.countP_eq_length_filter, List.count,
    List.countP_map, traffic, List.countP_filterMap]
  refine List.countP_congr fun x _ => ?_
  have hsome : isCountedFor endpoint x = true ↔
      countedAs? x.1 x.2.status = some ⟨endpoint, x.1.method.toString, x.2.status⟩ := by
    rw [countedAs?_eq_some_iff]
    simp [isCountedFor, he]
  rw [hsome]
  cases hcounted : countedAs? x.1 x.2.status with
  | none => simp
  | some l =>
    obtain ⟨-, -, -, hmethod, hstatus⟩ := countedAs?_eq_some_iff.1 hcounted
    rw [hmethod, hstatus, Option.some_inj, Labels.mk.injEq]
    simp

/-! ## The lines after a run -/

theorem countsTraffic_of_shows {rec : Recorder} {exchanges : List (Request × Response)}
    (h : rec.Shows (traffic exchanges)) : CountsTraffic exchanges rec.lines := by
  have hplain := h.isPlain fun l hl => isPlain_of_mem_traffic hl
  constructor
  case requests =>
    intro endpoint he m status n
    have hlabels : Labels.IsPlain ⟨endpoint, m.toString, status⟩ :=
      ⟨isPlain_of_mem_measuredPaths he, isPlain_method m⟩
    rw [Recorder.requestSample_mem_lines_iff hplain hlabels, h.requests.mem_iff,
      count_traffic exchanges he]
  case latencies =>
    intro endpoint he n
    rw [Recorder.latencySample_mem_lines_iff hplain (isPlain_of_mem_measuredPaths he),
      h.latencies.mem_iff, count_traffic_endpoint exchanges he]
  case nothing_else =>
    intro line hline
    refine (Recorder.mem_lines hline).imp_right fun hsample => ?_
    rcases hsample with hlatency | hrequest
    · obtain ⟨⟨e, n⟩, hmem, rfl⟩ := List.mem_map.1 hlatency
      have he := (h.latencies.mem e).1 (List.mem_map.2 ⟨_, hmem, rfl⟩)
      obtain ⟨l, hl, rfl⟩ := List.mem_map.1 he
      exact ⟨l.endpoint, (of_mem_traffic hl).1, .inr ⟨n, rfl⟩⟩
    · obtain ⟨⟨⟨e, method, status⟩, n⟩, hmem, rfl⟩ := List.mem_map.1 hrequest
      have hl := (h.requests.mem _).1 (List.mem_map.2 ⟨_, hmem, rfl⟩)
      obtain ⟨he, m, rfl⟩ := of_mem_traffic hl
      exact ⟨e, he, .inl ⟨m, status, n, rfl⟩⟩
  case once => exact Recorder.nodup_lines hplain h.requests.nodup h.latencies.nodup

theorem shows_of_fresh {rec : Recorder} (h : rec ∈ [Recorder.empty, Recorder.empty.describe]) :
    rec.Shows [] := by
  rcases List.mem_cons.1 h with rfl | h
  · exact ⟨.nil, .nil⟩
  · rw [List.mem_singleton.1 h]
    exact ⟨.nil, .nil⟩

theorem respond_countsTraffic {p : Policy} (assets : List Docs.File) (hp : p.conflict? = none) :
    ∃ s, build {} p assets = .ok s ∧
      ∀ rec ∈ [Recorder.empty, Recorder.empty.describe], ∀ rs : List Request,
        ((rs.mapM s.respond).run rec).1.length = rs.length ∧
          CountsTraffic (rs.zip ((rs.mapM s.respond).run rec).1)
            ((rs.mapM s.respond).run rec).2.lines ∧
          ∀ rs' : List Request, rs'.Perm rs →
            ((rs'.mapM s.respond).run rec).2.lines = ((rs.mapM s.respond).run rec).2.lines := by
  obtain ⟨s, hs, -⟩ := exists_build (m := {}) assets rfl hp
  refine ⟨s, hs, fun rec hrec rs => ?_⟩
  have hshows : ∀ rs : List Request, (rec.recordAll (rs.filterMap fun r =>
      countedAs? r (s.answered r).status)).Shows
        (rs.filterMap fun r => countedAs? r (s.answered r).status) :=
    fun rs => (shows_of_fresh hrec).recordAll _
  rw [run_mapM_respond hs rfl]
  refine ⟨List.length_map _, ?_, fun rs' hperm => ?_⟩
  · have htraffic : traffic (rs.zip (rs.map s.answered)) =
        rs.filterMap fun r => countedAs? r (s.answered r).status := by
      rw [← List.map_prod_left_eq_zip, traffic, List.filterMap_map]
      rfl
    have h := hshows rs
    rw [← htraffic] at h ⊢
    exact countsTraffic_of_shows h
  · rw [run_mapM_respond hs rfl]
    refine (hshows rs').lines_eq (hshows rs) ?_ (hperm.filterMap _)
    rw [Recorder.described_recordAll, Recorder.described_recordAll]

/-- Two readings of the health and a refused method are counted, a pre-flight and an unknown path
are not; and the same in reverse order. -/
theorem respond_countsTraffic_mixed :
    ∃ s, build {} ⟨[.ofString "http://a"], true, .any, .any, 5⟩ [] = .ok s ∧
      let health (m : Method) (fields : Fields) : Request :=
        ⟨m, ⟨"/health".toList, none⟩, fields, []⟩
      let rs : List Request :=
        [health .get [],
          health .options [(.origin, .ofString "b"), (.requestMethod, .ofString "PUT")],
          ⟨.get, ⟨"/nowhere".toList, none⟩, [], []⟩, health .post [],
          health .get [(.origin, .ofString "b")]]
      let lines := ((rs.mapM s.respond).run Recorder.empty).2.lines
      requestSample ⟨"/health", "GET", 200⟩ 2 ∈ lines ∧
        requestSample ⟨"/health", "POST", 405⟩ 1 ∈ lines ∧
        ((rs.reverse.mapM s.respond).run Recorder.empty).2.lines = lines := by
  obtain ⟨s, hs, hcounts⟩ :=
    respond_countsTraffic (p := ⟨[.ofString "http://a"], true, .any, .any, 5⟩) [] rfl
  refine ⟨s, hs, ?_⟩
  intro health rs lines
  obtain ⟨-, htraffic, hperm⟩ := hcounts Recorder.empty List.mem_cons_self rs
  have hrequests := htraffic.requests "/health" (by decide)
  cases hs
  have hget := (hrequests .get 200 2).2 (by decide +kernel)
  have hpost := (hrequests .post 405 1).2 (by decide +kernel)
  exact ⟨hget, hpost, hperm rs.reverse (List.reverse_perm rs)⟩

end Service

end OriginGate
