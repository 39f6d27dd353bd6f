import Mathlib.Data.List.Nodup
import OriginGate.Http.Token
import OriginGate.Metrics.Exposition
import OriginGate.Text.Split

/-!
# What the lines of a recorder say

A recorder is filled with the labels of one counted request after the other. The lines that show it
have one sample for each combination of labels that occurred, with the number of its occurrences,
and one for each endpoint. A sample tells its labels and its number, since no label value
of a counted request holds a quote.

* `Tallies.bump`: what one more key does to counts.
* `requestSample_inj`, `latencySample_inj`: samples are unambiguous.
* `Recorder.requestSample_mem_lines_iff`, `Recorder.latencySample_mem_lines_iff`: which samples the
  lines have, and `Recorder.nodup_lines`: each once.
* `Recorder.Shows.recordAll`: what is recorded of traffic.
* `Recorder.Shows.lines_eq`: the order of the traffic is not seen in the lines.
-/

namespace OriginGate.Metrics

open Http Text

/-! ## Counts of keys -/

section Tally

variable {α : Type} [DecidableEq α] {counts : List (α × Nat)} {keys : List α}

/-- The counts are those of the keys, each of which occurs in one place. -/
structure Tallies (counts : List (α × Nat)) (keys : List α) : Prop where
  nodup : (counts.map (·.1)).Nodup
  mem : ∀ k, k ∈ counts.map (·.1) ↔ k ∈ keys
  count : ∀ k, countOf k counts = keys.count k

theorem mem_keys_bump (key k : α) (counts : List (α × Nat)) :
    k ∈ (bump key counts).map (·.1) ↔ k ∈ counts.map (·.1) ∨ k = key := by
  induction counts with
  | nil => simp [bump]
  | cons x counts ih =>
    obtain ⟨j, n⟩ := x
    by_cases hj : j = key
    · subst hj
      simp only [bump, if_true, List.map_cons, List.mem_cons]
      exact ⟨.inl, fun h => h.elim id .inl⟩
    · simp only [bump, hj, if_false, List.map_cons, List.mem_cons, ih, or_assoc]

theorem nodup_keys_bump (key : α) (h : (counts.map (·.1)).Nodup) :
    ((bump key counts).map (·.1)).Nodup := by
  induction counts with
  | nil => simp [bump]
  | cons x counts ih =>
    obtain ⟨j, n⟩ := x
    obtain ⟨hj, hrest⟩ := List.nodup_cons.1 h
    by_cases hkey : j = key
    · simpa [bump, hkey] using h
    · simp only [bump, hkey, if_false, List.map_cons]
      refine List.nodup_cons.2 ⟨fun hmem => ?_, ih hrest⟩
      exact ((mem_keys_bump key j counts).1 hmem).elim hj hkey

theorem countOf_of_mem (h : (counts.map (·.1)).Nodup) {k : α} {n : Nat} (hmem : (k, n) ∈ counts) :
    countOf k counts = n := by
  induction counts with
  | nil => cases hmem
  | cons x counts ih =>
    obtain ⟨j, m⟩ := x
    obtain ⟨hj, hrest⟩ := List.nodup_cons.1 h
    rcases List.mem_cons.1 hmem with heq | hmem
    · cases heq
      simp [countOf]
    · have hne : j ≠ k := by
        rintro rfl
        exact hj (List.mem_map.2 ⟨_, hmem, rfl⟩)
      simp [countOf, hne, ih hrest hmem]

namespace Tallies

theorem nil : Tallies ([] : List (α × Nat)) [] :=
  ⟨List.nodup_nil, fun _ => Iff.rfl, fun _ => rfl⟩

theorem bump (h : Tallies counts keys) (key : α) :
    Tallies (Metrics.bump key counts) (keys ++ [key]) where
  nodup := nodup_keys_bump key h.nodup
  mem k := by
    rw [mem_keys_bump, h.mem, List.mem_append, List.mem_singleton]
  count k := by
    rw [countOf_bump, h.count, List.count_append]
    by_cases hk : k = key
    · simp [hk]
    · simp [hk, Ne.symm hk]

theorem mem_iff (h : Tallies counts keys) {k : α} {n : Nat} :
    (k, n) ∈ counts ↔ n = keys.count k ∧ 0 < n := by
  constructor
  · intro hmem
    have hcount := countOf_of_mem h.nodup hmem
    have hkey : k ∈ keys := (h.mem k).1 (List.mem_map_of_mem hmem)
    rw [h.count] at hcount
    rw [← hcount]
    exact ⟨rfl, List.count_pos_iff.2 hkey⟩
  · rintro ⟨rfl, hpos⟩
    obtain ⟨⟨j, n⟩, hmem, rfl⟩ := List.mem_map.1 ((h.mem k).2 (List.count_pos_iff.1 hpos))
    rw [← h.count, countOf_of_mem h.nodup hmem]
    exact hmem

/-- The counts of the same keys in another order. -/
theorem perm {counts' : List (α × Nat)} {keys' : List α} (h : Tallies counts keys)
    (h' : Tallies counts' keys') (hkeys : keys.Perm keys') : counts.Perm counts' := by
  have hnodup := List.Nodup.of_map _ h.nodup
  have hnodup' := List.Nodup.of_map _ h'.nodup
  refine (List.perm_ext_iff_of_nodup hnodup hnodup').2 fun ⟨k, n⟩ => ?_
  rw [h.mem_iff, h'.mem_iff, hkeys.count_eq]

end Tallies

end Tally

/-! ## Texts of samples -/

/-- The text has no character that a label value must escape. -/
structure IsPlain (cs : List Char) : Prop where
  newline : '\n' ∉ cs
  quote : '"' ∉ cs
  backslash : '\\' ∉ cs

theorem escapeLabel_of_isPlain {cs : List Char} (h : IsPlain cs) : escapeLabel false cs = cs := by
  induction cs with
  | nil => rfl
  | cons c cs ih =>
    obtain ⟨hn, hcn⟩ := List.ne_and_not_mem_of_not_mem_cons h.newline
    obtain ⟨hq, hcq⟩ := List.ne_and_not_mem_of_not_mem_cons h.quote
    obtain ⟨hb, hcb⟩ := List.ne_and_not_mem_of_not_mem_cons h.backslash
    simp [escapeLabel, hn.symm, hq.symm, hb.symm, ih ⟨hcn, hcq, hcb⟩]

theorem isPlain_of_all {cs : List Char} {p : Char → Bool} (h : ∀ c ∈ cs, p c = true)
    (hn : p '\n' = false) (hq : p '"' = false) (hb : p '\\' = false) : IsPlain cs where
  newline hmem := by
    rw [h _ hmem] at hn
    cases hn
  quote hmem := by
    rw [h _ hmem] at hq
    cases hq
  backslash hmem := by
    rw [h _ hmem] at hb
    cases hb

theorem isPlain_method (m : Method) : IsPlain m.toString.toList := by
  have h := m.wellFormed
  simp only [Bool.and_eq_true, List.all_eq_true] at h
  rw [Method.toString, String.toList_ofList]
  exact isPlain_of_all h.2 (by decide) (by decide) (by decide)

theorem toList_decimalString (n : Nat) : (decimalString n).toList = decimal n :=
  String.toList_ofList

theorem isPlain_decimal (n : Nat) : IsPlain (decimal n) :=
  isPlain_of_all (fun _ => isDigit_of_mem_decimal) (by decide) (by decide) (by decide)

theorem toList_labelText {name value : String} (h : IsPlain value.toList) :
    (labelText name value).toList = name.toList ++ "=\"".toList ++ value.toList ++ ['"'] := by
  simp [labelText, escapeLabel_of_isPlain h]

/-- The sample of the counter of requests with the labels. -/
def requestSample (l : Labels) (n : Nat) : String :=
  sample requestsName l.texts n

/-- The sample of the number of latencies of the endpoint. -/
def latencySample (endpoint : String) (n : Nat) : String :=
  sample (latencyName ++ "_count") [labelText "endpoint" endpoint] n

/-- The labels are written as they are. -/
structure Labels.IsPlain (l : Labels) : Prop where
  endpoint : Metrics.IsPlain l.endpoint.toList
  method : Metrics.IsPlain l.method.toList

theorem toList_requestSample {l : Labels} (h : l.IsPlain) (n : Nat) :
    (requestSample l n).toList =
      "http_requests_total\x7bendpoint=\"".toList ++ (l.endpoint.toList ++ '"' ::
        (",method=\"".toList ++ (l.method.toList ++ '"' ::
          (",status=\"".toList ++ (decimal l.status ++ '"' ::
            ("\x7d ".toList ++ decimal n)))))) := by
  have hlist : ",".intercalate l.texts =
      labelText "endpoint" l.endpoint ++ "," ++ labelText "method" l.method ++ "," ++
        labelText "status" (decimalString l.status) := rfl
  have hstatus : Metrics.IsPlain (decimalString l.status).toList := by
    rw [toList_decimalString]
    exact isPlain_decimal l.status
  simp [requestSample, sample, requestsName, hlist, toList_labelText h.endpoint,
    toList_labelText h.method, toList_labelText hstatus, toList_decimalString]

example : requestSample ⟨"/health", "GET", 200⟩ 2 =
    "http_requests_total\x7bendpoint=\"/health\",method=\"GET\",status=\"200\"\x7d 2" := by
  decide

theorem toList_latencySample {endpoint : String} (h : IsPlain endpoint.toList) (n : Nat) :
    (latencySample endpoint n).toList =
      "http_request_latency_ms_count\x7bendpoint=\"".toList ++ (endpoint.toList ++ '"' ::
        ("\x7d ".toList ++ decimal n)) := by
  have hlist : ",".intercalate [labelText "endpoint" endpoint] = labelText "endpoint" endpoint :=
    rfl
  simp [latencySample, sample, latencyName, hlist, toList_labelText h, toList_decimalString]

theorem requestSample_inj {l l' : Labels} {n n' : Nat} (h : l.IsPlain) (h' : l'.IsPlain)
    (heq : requestSample l n = requestSample l' n') : l = l' ∧ n = n' := by
  have htext := congrArg String.toList heq
  rw [toList_requestSample h, toList_requestSample h'] at htext
  -- each value ends at its closing quote
  obtain ⟨hendpoint, htext⟩ :=
    append_sep_inj h.endpoint.quote h'.endpoint.quote (List.append_cancel_left htext)
  obtain ⟨hmethod, htext⟩ :=
    append_sep_inj h.method.quote h'.method.quote (List.append_cancel_left htext)
  obtain ⟨hstatus, htext⟩ := append_sep_inj (isPlain_decimal l.status).quote
    (isPlain_decimal l'.status).quote (List.append_cancel_left htext)
  have hn := decimal_injective (List.append_cancel_left htext)
  obtain ⟨endpoint, method, status⟩ := l
  obtain ⟨endpoint', method', status'⟩ := l'
  obtain rfl : endpoint = endpoint' := String.toList_inj.1 hendpoint
  obtain rfl : method = method' := String.toList_inj.1 hmethod
  obtain rfl : status = status' := decimal_injective hstatus
  exact ⟨rfl, hn⟩

theorem latencySample_inj {e e' : String} {n n' : Nat} (h : IsPlain e.toList)
    (h' : IsPlain e'.toList) (heq : latencySample e n = latencySample e' n') :
    e = e' ∧ n = n' := by
  have htext := congrArg String.toList heq
  rw [toList_latencySample h, toList_latencySample h'] at htext
  obtain ⟨hendpoint, htext⟩ := append_sep_inj h.quote h'.quote (List.append_cancel_left htext)
  exact ⟨String.toList_inj.1 hendpoint, decimal_injective (List.append_cancel_left htext)⟩

/-! ## Kinds of lines -/

/-- The start of a line that tells the kinds of lines apart. -/
def lineStart (line : String) : List Char :=
  line.toList.take 13

theorem lineStart_requestSample (l : Labels) (n : Nat) :
    lineStart (requestSample l n) = "http_requests".toList := by
  simp [lineStart, requestSample, sample, requestsName]

theorem lineStart_latencySample (e : String) (n : Nat) :
    lineStart (latencySample e n) = "http_request_".toList := by
  simp [lineStart, latencySample, sample, latencyName]

theorem mem_metricLines_of_mem {described : Bool} {name kind help line : String}
    {samples : List String} (h : line ∈ samples) :
    line ∈ metricLines described name kind help samples := by
  have hne : samples.isEmpty = false := List.isEmpty_eq_false_iff_exists_mem.2 ⟨line, h⟩
  rw [metricLines, hne, if_neg Bool.false_ne_true]
  exact List.mem_append_right _ h

/-- The comments on a metric. -/
def comments (described : Bool) (name kind help : String) : List String :=
  (if described then ["# HELP " ++ name ++ " " ++ help] else []) ++
    ["# TYPE " ++ name ++ " " ++ kind]

theorem metricLines_eq (described : Bool) (name kind help : String) {samples : List String}
    (h : samples ≠ []) :
    metricLines described name kind help samples =
      comments described name kind help ++ samples := by
  rw [metricLines, List.isEmpty_eq_false_iff.2 h, if_neg Bool.false_ne_true]
  rfl

theorem head?_of_mem_comments {described : Bool} {name kind help line : String}
    (h : line ∈ comments described name kind help) : line.toList.head? = some '#' := by
  rcases List.mem_append.1 h with h | h
  · split at h
    · rw [List.mem_singleton.1 h]
      simp
    · cases h
  · rw [List.mem_singleton.1 h]
    simp

theorem mem_metricLines {described : Bool} {name kind help line : String}
    {samples : List String} (h : line ∈ metricLines described name kind help samples) :
    line.toList.head? = some '#' ∨ line ∈ samples := by
  by_cases hne : samples = []
  · rw [hne] at h
    cases h
  · rw [metricLines_eq described name kind help hne] at h
    exact (List.mem_append.1 h).imp_left head?_of_mem_comments

namespace Recorder

variable {r r' : Recorder}

theorem mem_lines {line : String} (h : line ∈ r.lines) :
    line.toList.head? = some '#' ∨ line ∈ r.latencySamples ∨ line ∈ r.requestSamples := by
  rw [lines, List.mem_mergeSort, List.mem_append] at h
  rcases h with h | h
  · exact (mem_metricLines h).imp_right .inl
  · exact (mem_metricLines h).imp_right .inr

theorem mem_lines_of_mem_requests {l : Labels} {n : Nat} (h : (l, n) ∈ r.requests) :
    requestSample l n ∈ r.lines := by
  have hmem : requestSample l n ∈ r.requestSamples := List.mem_map.2 ⟨(l, n), h, rfl⟩
  rw [lines, List.mem_mergeSort]
  exact List.mem_append_right _ (mem_metricLines_of_mem hmem)

theorem mem_lines_of_mem_latencies {e : String} {n : Nat} (h : (e, n) ∈ r.latencies) :
    latencySample e n ∈ r.lines := by
  have hmem : latencySample e n ∈ r.latencySamples := List.mem_map.2 ⟨(e, n), h, rfl⟩
  rw [lines, List.mem_mergeSort]
  exact List.mem_append_left _ (mem_metricLines_of_mem hmem)

/-- The lines of a recorder whose labels need no escape. -/
structure IsPlain (r : Recorder) : Prop where
  requests : ∀ x ∈ r.requests, x.1.IsPlain
  latencies : ∀ x ∈ r.latencies, Metrics.IsPlain x.1.toList

theorem requestSample_mem_lines_iff (hr : r.IsPlain) {l : Labels} (hl : l.IsPlain) {n : Nat} :
    requestSample l n ∈ r.lines ↔ (l, n) ∈ r.requests := by
  refine ⟨fun h => ?_, mem_lines_of_mem_requests⟩
  have hstart := lineStart_requestSample l n
  rcases mem_lines h with hcomment | hlatency | hrequest
  · simp [requestSample, sample, requestsName] at hcomment
  · obtain ⟨⟨e, m⟩, -, heq⟩ := List.mem_map.1 hlatency
    rw [← heq] at hstart
    exact absurd ((lineStart_latencySample e m).symm.trans hstart) (by decide)
  · obtain ⟨⟨l', m⟩, hmem, heq⟩ := List.mem_map.1 hrequest
    obtain ⟨rfl, rfl⟩ := requestSample_inj (hr.requests _ hmem) hl heq
    exact hmem

theorem latencySample_mem_lines_iff (hr : r.IsPlain) {e : String} (he : Metrics.IsPlain e.toList)
    {n : Nat} : latencySample e n ∈ r.lines ↔ (e, n) ∈ r.latencies := by
  refine ⟨fun h => ?_, mem_lines_of_mem_latencies⟩
  have hstart := lineStart_latencySample e n
  rcases mem_lines h with hcomment | hlatency | hrequest
  · simp [latencySample, sample, latencyName] at hcomment
  · obtain ⟨⟨e', m⟩, hmem, heq⟩ := List.mem_map.1 hlatency
    obtain ⟨rfl, rfl⟩ := latencySample_inj (hr.latencies _ hmem) he heq
    exact hmem
  · obtain ⟨⟨l, m⟩, -, heq⟩ := List.mem_map.1 hrequest
    rw [← heq] at hstart
    exact absurd ((lineStart_requestSample l m).symm.trans hstart) (by decide)

theorem perm_metricLines (described : Bool) (name kind help : String)
    {samples samples' : List String} (h : samples.Perm samples') :
    (metricLines described name kind help samples).Perm
      (metricLines described name kind help samples') := by
  by_cases hnil : samples = []
  · subst hnil
    rw [h.nil_eq]
  · have hnil' : samples' ≠ [] := fun h' => hnil (h' ▸ h).eq_nil
    rw [metricLines_eq _ _ _ _ hnil, metricLines_eq _ _ _ _ hnil']
    exact h.append_left _

theorem perm_latencySamples (h : r.latencies.Perm r'.latencies) :
    r.latencySamples.Perm r'.latencySamples :=
  h.map _

theorem perm_requestSamples (h : r.requests.Perm r'.requests) :
    r.requestSamples.Perm r'.requestSamples :=
  h.map _

theorem pairwise_mergeSort_le (list : List String) :
    (list.mergeSort fun a b => a ≤ b).Pairwise fun a b => decide (a ≤ b) = true := by
  refine List.pairwise_mergeSort ?_ ?_ list
  · intro a b c hab hbc
    exact decide_eq_true (String.le_trans (of_decide_eq_true hab) (of_decide_eq_true hbc))
  · intro a b
    simpa using String.le_total a b

theorem lines_eq_of_perm (hdescribed : r.described = r'.described)
    (hrequests : r.requests.Perm r'.requests) (hlatencies : r.latencies.Perm r'.latencies) :
    r.lines = r'.lines := by
  rw [lines, lines, ← hdescribed]
  refine List.Perm.eq_of_pairwise (fun a b _ _ hab hba => ?_) (pairwise_mergeSort_le _)
    (pairwise_mergeSort_le _) ?_
  · exact String.le_antisymm (of_decide_eq_true hab) (of_decide_eq_true hba)
  · refine (List.mergeSort_perm _ _).trans (List.Perm.trans ?_ (List.mergeSort_perm _ _).symm)
    exact (perm_metricLines _ _ _ _ (perm_latencySamples hlatencies)).append
      (perm_metricLines _ _ _ _ (perm_requestSamples hrequests))

/-! ### No line stands twice -/

theorem nodup_requestSamples (hr : r.IsPlain) (h : (r.requests.map (·.1)).Nodup) :
    r.requestSamples.Nodup := by
  refine List.Nodup.map_on ?_ (List.Nodup.of_map _ h)
  intro x hx y hy heq
  obtain ⟨hl, hn⟩ := requestSample_inj (hr.requests x hx) (hr.requests y hy) heq
  exact Prod.ext hl hn

theorem nodup_latencySamples (hr : r.IsPlain) (h : (r.latencies.map (·.1)).Nodup) :
    r.latencySamples.Nodup := by
  refine List.Nodup.map_on ?_ (List.Nodup.of_map _ h)
  intro x hx y hy heq
  obtain ⟨he, hn⟩ := latencySample_inj (hr.latencies x hx) (hr.latencies y hy) heq
  exact Prod.ext he hn

theorem lineStart_of_mem_requestSamples {line : String} (h : line ∈ r.requestSamples) :
    lineStart line = "http_requests".toList := by
  obtain ⟨x, -, rfl⟩ := List.mem_map.1 h
  exact lineStart_requestSample x.1 x.2

theorem lineStart_of_mem_latencySamples {line : String} (h : line ∈ r.latencySamples) :
    lineStart line = "http_request_".toList := by
  obtain ⟨x, -, rfl⟩ := List.mem_map.1 h
  exact lineStart_latencySample x.1 x.2

theorem sublist_metricLines (described : Bool) (name kind help : String) (samples : List String) :
    (metricLines described name kind help samples).Sublist
      (comments described name kind help ++ samples) := by
  by_cases h : samples = []
  · rw [h]
    exact List.nil_sublist _
  · rw [metricLines_eq described name kind help h]

theorem nodup_lines (hr : r.IsPlain) (hrequests : (r.requests.map (·.1)).Nodup)
    (hlatencies : (r.latencies.map (·.1)).Nodup) : r.lines.Nodup := by
  have hsamples : (r.latencySamples ++ r.requestSamples).Nodup := by
    refine List.nodup_append.2 ⟨nodup_latencySamples hr hlatencies,
      nodup_requestSamples hr hrequests, ?_⟩
    rintro line hl _ hl' rfl
    exact absurd ((lineStart_of_mem_latencySamples hl).symm.trans
      (lineStart_of_mem_requestSamples hl')) (by decide)
  have hcomments : (comments r.described latencyName "summary"
      "HTTP request latency in milliseconds" ++ comments r.described requestsName "counter"
      "Total number of HTTP requests served").Nodup := by
    cases r.described <;> decide
  rw [lines, (List.mergeSort_perm _ _).nodup_iff]
  refine List.Nodup.sublist
    ((sublist_metricLines _ _ _ _ _).append (sublist_metricLines _ _ _ _ _)) ?_
  -- the comments of both metrics first, then the samples
  rw [List.append_assoc, ((List.perm_append_comm_assoc _ _ _).append_left _).nodup_iff,
    ← List.append_assoc]
  refine List.nodup_append.2 ⟨hcomments, hsamples, ?_⟩
  rintro line hl _ hl' rfl
  have hhead : line.toList.head? = some '#' :=
    (List.mem_append.1 hl).elim head?_of_mem_comments head?_of_mem_comments
  have hstart : lineStart line ∈ ["http_request_".toList, "http_requests".toList] := by
    rcases List.mem_append.1 hl' with h | h
    · simp [lineStart_of_mem_latencySamples h]
    · simp [lineStart_of_mem_requestSamples h]
  have hsame : (lineStart line).head? = line.toList.head? := by
    simp [lineStart, List.head?_take]
  have hall : ∀ start ∈ ["http_request_".toList, "http_requests".toList],
      start.head? ≠ some '#' := by decide
  exact hall _ hstart (hsame.trans hhead)

/-! ## Counted requests -/

/-- The recorder after counted requests with these labels, one after the other. -/
def recordAll (r : Recorder) (traffic : List Labels) : Recorder :=
  traffic.foldl (fun r l => (r.recordLatency l.endpoint).recordRequest l) r

theorem recordAll_append (r : Recorder) (earlier later : List Labels) :
    r.recordAll (earlier ++ later) = (r.recordAll earlier).recordAll later :=
  List.foldl_append

/-- The recorder shows this traffic: each combination of labels and each endpoint with the number
of its occurrences. -/
structure Shows (r : Recorder) (traffic : List Labels) : Prop where
  requests : Tallies r.requests traffic
  latencies : Tallies r.latencies (traffic.map (·.endpoint))

theorem Shows.record {traffic : List Labels} (h : r.Shows traffic) (l : Labels) :
    ((r.recordLatency l.endpoint).recordRequest l).Shows (traffic ++ [l]) where
  requests := h.requests.bump l
  latencies := by
    rw [List.map_append]
    exact h.latencies.bump l.endpoint

theorem Shows.recordAll {traffic : List Labels} (h : r.Shows traffic) (more : List Labels) :
    (r.recordAll more).Shows (traffic ++ more) := by
  induction more generalizing r traffic with
  | nil =>
    rw [List.append_nil]
    exact h
  | cons l more ih =>
    have hlater := ih (h.record l)
    rw [List.append_assoc] at hlater
    exact hlater

theorem described_recordAll (r : Recorder) (traffic : List Labels) :
    (r.recordAll traffic).described = r.described := by
  induction traffic generalizing r with
  | nil => rfl
  | cons l traffic ih => exact ih _

theorem Shows.isPlain {traffic : List Labels} (h : r.Shows traffic)
    (hplain : ∀ l ∈ traffic, l.IsPlain) : r.IsPlain where
  requests x hx := hplain x.1 ((h.requests.mem x.1).1 (List.mem_map_of_mem hx))
  latencies x hx := by
    have hmem := (h.latencies.mem x.1).1 (List.mem_map_of_mem hx)
    obtain ⟨l, hl, hendpoint⟩ := List.mem_map.1 hmem
    rw [← hendpoint]
    exact (hplain l hl).endpoint

/-- Traffic in another order is shown by the same lines. -/
theorem Shows.lines_eq {traffic traffic' : List Labels} (h : r.Shows traffic)
    (h' : r'.Shows traffic') (hdescribed : r.described = r'.described)
    (hperm : traffic.Perm traffic') : r.lines = r'.lines :=
  lines_eq_of_perm hdescribed (h.requests.perm h'.requests hperm)
    (h.latencies.perm h'.latencies (hperm.map _))

end Recorder

end OriginGate.Metrics
