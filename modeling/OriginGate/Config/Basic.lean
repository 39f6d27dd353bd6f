import OriginGate.Text.Blank

/-!
# Configuration

What the service can be told: where it listens, which web pages may read its answers, whether
traffic is counted and what is logged. Lists are given as entries in which surrounding blanks and
blank entries do not count.

* `entries_eq_nil_iff`: no entry counts exactly if all are blank.
* `entries_cons`, `entries_cons_of_blank`: what one more entry adds.
* `map_toList_entries`: the texts of the entries.
-/

namespace OriginGate

open Text

/-- The entries of a list that count: without surrounding blanks, and without blank ones. -/
def entries (list : List String) : List String :=
  (list.map fun s => String.ofList (trim s.toList)).filter (! ·.toList.isEmpty)

theorem entries_eq_nil_iff {list : List String} :
    entries list = [] ↔ ∀ s ∈ list, ∀ c ∈ s.toList, isBlank c = true := by
  simp only [entries, List.filter_eq_nil_iff, List.mem_map, forall_exists_index, and_imp,
    forall_apply_eq_imp_iff₂, String.toList_ofList, Bool.not_eq_true', Bool.not_eq_false,
    List.isEmpty_iff, trim_eq_nil_iff]

theorem entries_cons (s : String) (list : List String) :
    entries (s :: list) =
      if (trim s.toList).isEmpty then entries list
      else String.ofList (trim s.toList) :: entries list := by
  simp only [entries, List.map_cons, List.filter_cons, String.toList_ofList]
  cases (trim s.toList).isEmpty <;> rfl

theorem entries_cons_of_blank {s : String} (h : ∀ c ∈ s.toList, isBlank c = true)
    (list : List String) : entries (s :: list) = entries list := by
  rw [entries_cons, trim_eq_nil_iff.2 h]
  rfl

theorem map_toList_entries (list : List String) :
    (entries list).map String.toList = (list.map fun s => trim s.toList).filter (! ·.isEmpty) := by
  induction list with
  | nil => rfl
  | cons s list ih =>
    simp only [entries, List.map_cons, List.filter_cons, String.toList_ofList] at ih ⊢
    split
    · rw [List.map_cons, ih, String.toList_ofList]
    · exact ih

/-- The configuration of the service; the values given here hold where nothing is configured. -/
structure Config where
  /-- The address that the listener binds to. -/
  host : String := "127.0.0.1"
  port : UInt16 := 8000
  /-- The origins whose pages may read answers. -/
  origins : List String := ["http://localhost:5173"]
  /-- The methods allowed on cross-origin requests; `*` means all. -/
  methods : List String := ["*"]
  /-- The request headers allowed on cross-origin requests; `*` means all. -/
  headers : List String := ["*"]
  /-- Whether requests with credentials may read answers. -/
  credentials : Bool := true
  /-- For how many seconds a browser may keep the answer to a pre-flight. -/
  maxAge : UInt64 := 600
  /-- The port on which metrics are shown, if they are. -/
  metricsPort : Option UInt16 := none
  /-- What is logged. -/
  logFilter : String := "info"
  /-- Whether log lines are JSON. -/
  logJson : Bool := false
  deriving DecidableEq, Repr

namespace Config

/-- The allowed origins that count. -/
def allowedOrigins (c : Config) : List String :=
  entries c.origins

end Config

end OriginGate
