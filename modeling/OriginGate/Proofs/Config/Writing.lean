import OriginGate.Proofs.Config.Decoding
import OriginGate.Proofs.EnvFile.Writing

/-!
# Writing a configuration

Each field of a configuration is written as a variable of its name in upper case. The variables are
read back as the configuration, in any order, from the process and from a file: each field is read
from the one variable that names it, and a field that is not written has its usual value.

* `Setting.read_text`: the text of a field is read back.
* `Config.nodup_ofVariable?`, `Config.text?_eq_some_of_mem`: each variable names one field, and no
  other variable names it.
* `Config.decode_written`: written variables are decoded to the configuration.
* `Config.load_written`: so are they when they are loaded.
-/

namespace OriginGate

open Text EnvFile

/-! ## Texts of fields -/

def boolText (b : Bool) : String :=
  if b then "true" else "false"

/-- The items with commas between them. -/
def listText (items : List String) : String :=
  String.ofList (join [','] (items.map String.toList))

/-- Lists that can be written: without commas and null characters. No text is left for a single
empty item, since the empty text is that of no item. -/
structure IsWritableList (items : List String) : Prop where
  noNull : ∀ s ∈ items, '\x00' ∉ s.toList
  noComma : ∀ s ∈ items, ',' ∉ s.toList
  ne_singleton : items ≠ [""]

theorem readNumber_decimalString {limit n : Nat} (h : n ≤ limit) :
    readNumber limit (decimalString n) = .ok n := by
  rw [readNumber, decimalString, String.toList_ofList, natural?_decimal h]
  rfl

theorem readBool_boolText (b : Bool) : readBool (boolText b) = .ok b := by
  cases b <;> rfl

theorem readList_listText {items : List String} (h : IsWritableList items) :
    readList (listText items) = items := by
  have hcomma : ∀ p ∈ items.map String.toList, ',' ∉ p := List.forall_mem_map.2 h.noComma
  rw [readList, listText, String.toList_ofList]
  by_cases hnil : join [','] (items.map String.toList) = []
  · rw [hnil]
    rcases join_eq_nil (List.cons_ne_nil ',' []) hnil with hitems | hitems
    · rw [List.map_eq_nil_iff.1 hitems]
      rfl
    · obtain ⟨s, rfl, hs⟩ := List.map_eq_singleton_iff.1 hitems
      exact absurd (congrArg (fun s => [s]) (String.toList_inj.1 hs)) h.ne_singleton
  · have hne : items.map String.toList ≠ [] := by
      intro hitems
      rw [hitems] at hnil
      exact hnil rfl
    rw [if_neg (by simpa using hnil), split_join hne hcomma, List.map_map]
    simp [Function.comp_def]

namespace Setting

/-- The name of the variable that a field is written to. -/
def variableName (s : Setting) : String :=
  String.ofList (s.name.toList.map Char.toUpper)

/-- The text of a field, if it has a value. -/
def text? : Setting → Config → Option String
  | host, c => some c.host
  | port, c => some (decimalString c.port.toNat)
  | origins, c => some (listText c.origins)
  | methods, c => some (listText c.methods)
  | headers, c => some (listText c.headers)
  | credentials, c => some (boolText c.credentials)
  | maxAge, c => some (decimalString c.maxAge.toNat)
  | metricsPort, c => c.metricsPort.map fun port => decimalString port.toNat
  | logFilter, c => some c.logFilter
  | logJson, c => some (boolText c.logJson)

theorem isNamedBy_variableName_iff {s t : Setting} : s.IsNamedBy t.variableName ↔ s = t := by
  have hlower : ∀ t ∈ all, t.variableName.toList.map Char.toLower = t.name.toList := by
    decide +kernel
  rw [IsNamedBy, hlower t t.mem_all]
  exact ⟨eq_of_name_eq, fun h => h ▸ rfl⟩

theorem ofVariable?_variableName (s : Setting) : ofVariable? s.variableName = some s :=
  isNamedBy_iff.1 (isNamedBy_variableName_iff.2 rfl)

theorem isName_variableName (s : Setting) : IsName s.variableName.toList := by
  have hall : ∀ s ∈ all, IsName s.variableName.toList := by decide +kernel
  exact hall s s.mem_all

end Setting

namespace Config

/-- Configurations that can be written as variables. -/
structure IsWritable (c : Config) : Prop where
  host : '\x00' ∉ c.host.toList
  origins : IsWritableList c.origins
  methods : IsWritableList c.methods
  headers : IsWritableList c.headers
  logFilter : '\x00' ∉ c.logFilter.toList

/-- The variables that a configuration is written as. -/
def toEnvironment (c : Config) : Environment :=
  Setting.all.filterMap fun s => (s.text? c).map (s.variableName, ·)

theorem mem_toEnvironment_iff {c : Config} {x : String × String} :
    x ∈ c.toEnvironment ↔ ∃ s : Setting, s.text? c = some x.2 ∧ s.variableName = x.1 := by
  obtain ⟨name, text⟩ := x
  simp only [toEnvironment, List.mem_filterMap, Option.map_eq_some_iff, Prod.mk.injEq]
  constructor
  · rintro ⟨s, -, _, htext, hname, rfl⟩
    exact ⟨s, htext, hname⟩
  · rintro ⟨s, htext, hname⟩
    exact ⟨s, s.mem_all, text, htext, hname, rfl⟩

example : ({ origins := ["http://a", "http://b"], headers := [] } : Config).toEnvironment =
    [("HOST", "127.0.0.1"), ("PORT", "8000"), ("CORS_ALLOWED_ORIGINS", "http://a,http://b"),
      ("CORS_ALLOW_METHODS", "*"), ("CORS_ALLOW_HEADERS", ""), ("CORS_ALLOW_CREDENTIALS", "true"),
      ("CORS_MAX_AGE_SECS", "600"), ("RUST_LOG", "info"), ("LOG_JSON", "false")] := by
  decide +kernel

end Config

theorem Setting.read_text {c : Config} (hc : c.IsWritable) {s : Setting} {text : String}
    (h : s.text? c = some text) : s.read text = .ok (s.get c) := by
  cases s with
  | host | logFilter =>
    cases h
    rfl
  | origins =>
    cases h
    exact congrArg Except.ok (readList_listText hc.origins)
  | methods =>
    cases h
    exact congrArg Except.ok (readList_listText hc.methods)
  | headers =>
    cases h
    exact congrArg Except.ok (readList_listText hc.headers)
  | credentials | logJson =>
    cases h
    exact readBool_boolText _
  | port =>
    cases h
    exact readNumber_decimalString (Nat.le_of_lt_succ c.port.toNat_lt)
  | maxAge =>
    cases h
    exact readNumber_decimalString (Nat.le_of_lt_succ c.maxAge.toNat_lt)
  | metricsPort =>
    obtain ⟨port, hport, rfl⟩ := Option.map_eq_some_iff.1 h
    have hread := readNumber_decimalString (Nat.le_of_lt_succ port.toNat_lt)
    simp only [read, get, hport, hread, Except.map, Option.map_some]

/-! ## Decoding -/

namespace Config

variable {c : Config} {env : Environment}

/-- No two variables name the same field. -/
theorem nodup_ofVariable? (h : env.Perm c.toEnvironment) :
    (env.map fun x => Setting.ofVariable? x.1).Nodup := by
  have hfields : c.toEnvironment.map (fun x : String × String => Setting.ofVariable? x.1) =
      Setting.all.filterMap fun s => (s.text? c).map fun _ => some s := by
    simp only [toEnvironment, List.map_filterMap, Option.map_map, Function.comp_def,
      Setting.ofVariable?_variableName]
  have hperm := h.map fun x : String × String => Setting.ofVariable? x.1
  rw [hperm.nodup_iff, hfields]
  refine List.Nodup.filterMap ?_ (by decide)
  intro s t field hs ht
  obtain ⟨-, -, rfl⟩ := Option.map_eq_some_iff.1 hs
  obtain ⟨-, -, hst⟩ := Option.map_eq_some_iff.1 ht
  exact (Option.some.inj hst).symm

/-- The variable of a field is the only one that names it. -/
theorem text?_eq_some_of_mem (h : env.Perm c.toEnvironment) {s : Setting} {name text : String}
    (hmem : (name, text) ∈ s.variablesIn env) : s.text? c = some text := by
  obtain ⟨henv, hnamed⟩ := List.mem_filter.1 hmem
  obtain ⟨t, htext, hname⟩ := mem_toEnvironment_iff.1 (h.mem_iff.1 henv)
  have hst : s = t := by
    rw [← Setting.isNamedBy_variableName_iff, hname]
    exact of_decide_eq_true hnamed
  rw [hst, htext]

theorem text?_eq_none_of_variablesIn (h : env.Perm c.toEnvironment) {s : Setting}
    (hnil : s.variablesIn env = []) : s.text? c = none := by
  cases htext : s.text? c with
  | none => rfl
  | some text =>
    have hmem : (s.variableName, text) ∈ env :=
      h.mem_iff.2 (mem_toEnvironment_iff.2 ⟨s, htext, rfl⟩)
    have hnamed : s.IsNamedBy s.variableName := Setting.isNamedBy_variableName_iff.2 rfl
    have hin : (s.variableName, text) ∈ s.variablesIn env :=
      List.mem_filter.2 ⟨hmem, decide_eq_true hnamed⟩
    rw [hnil] at hin
    cases hin

/-- Only the port of the metrics can be missing, and it usually is. -/
theorem get_of_text?_eq_none {s : Setting} (h : s.text? c = none) : s.get c = s.get {} := by
  cases s with
  | metricsPort =>
    rw [Setting.get, Option.map_eq_none_iff.1 h]
    rfl
  | host | port | origins | methods | headers | credentials | maxAge | logFilter | logJson =>
    cases h

theorem decode_written (hc : c.IsWritable) (h : env.Perm c.toEnvironment) :
    decode env = .ok c := by
  have hread : ∀ x ∈ env, ∃ (s : Setting) (v : s.Value),
      Setting.ofVariable? x.1 = some s ∧ s.read x.2 = .ok v := by
    intro x hx
    obtain ⟨s, htext, hname⟩ := mem_toEnvironment_iff.1 (h.mem_iff.1 hx)
    exact ⟨s, s.get c, hname ▸ s.ofVariable?_variableName, Setting.read_text hc htext⟩
  obtain ⟨c', hc'⟩ : ∃ c', decodeFrom [] {} env = .ok c' :=
    Setting.exists_decodeFrom hread (nodup_ofVariable? h)
  have hget : ∀ s : Setting, s.get c' = s.get c := by
    intro s
    -- the field is read from the variable it was written to, or it was not written
    rcases Setting.decodedFrom_of_decode hc' s with ⟨name, text, hin, hvalue⟩ | ⟨hnone, husual⟩
    · have htext := text?_eq_some_of_mem h (hin ▸ List.mem_singleton.2 rfl)
      exact Except.ok.inj (hvalue.symm.trans (Setting.read_text hc htext))
    · rw [husual, get_of_text?_eq_none (text?_eq_none_of_variablesIn h hnone)]
  rw [decode, hc', Setting.eq_of_get_eq hget]

/-! ## Loading -/

theorem null_not_mem_decimalString (n : Nat) : '\x00' ∉ (decimalString n).toList := by
  rw [decimalString, String.toList_ofList]
  exact fun hmem => absurd (isDigit_of_mem_decimal hmem) (by decide)

theorem null_not_mem_boolText (b : Bool) : '\x00' ∉ (boolText b).toList := by
  cases b <;> decide

theorem null_not_mem_listText {items : List String} (h : IsWritableList items) :
    '\x00' ∉ (listText items).toList := by
  rw [listText, String.toList_ofList]
  intro hmem
  rcases mem_join hmem with hcomma | ⟨p, hp, hnull⟩
  · exact absurd hcomma (by decide)
  · obtain ⟨s, hs, rfl⟩ := List.mem_map.1 hp
    exact h.noNull s hs hnull

theorem null_not_mem_text (hc : c.IsWritable) {s : Setting} {text : String}
    (h : s.text? c = some text) : '\x00' ∉ text.toList := by
  cases s with
  | host => exact Option.some.inj h ▸ hc.host
  | logFilter => exact Option.some.inj h ▸ hc.logFilter
  | origins => exact Option.some.inj h ▸ null_not_mem_listText hc.origins
  | methods => exact Option.some.inj h ▸ null_not_mem_listText hc.methods
  | headers => exact Option.some.inj h ▸ null_not_mem_listText hc.headers
  | credentials | logJson => exact Option.some.inj h ▸ null_not_mem_boolText _
  | port | maxAge => exact Option.some.inj h ▸ null_not_mem_decimalString _
  | metricsPort =>
    obtain ⟨port, -, rfl⟩ := Option.map_eq_some_iff.1 h
    exact null_not_mem_decimalString _

theorem isStorable_of_perm (hc : c.IsWritable) (h : env.Perm c.toEnvironment) :
    env.IsStorable := by
  constructor
  case names =>
    intro x hx
    obtain ⟨s, -, hname⟩ := mem_toEnvironment_iff.1 (h.mem_iff.1 hx)
    exact hname ▸ s.isName_variableName
  case values =>
    intro x hx
    obtain ⟨s, htext, -⟩ := mem_toEnvironment_iff.1 (h.mem_iff.1 hx)
    exact null_not_mem_text hc htext
  case nodup =>
    have hmap : env.map (fun x => Setting.ofVariable? x.1) =
        (env.map (·.1)).map Setting.ofVariable? := by rw [List.map_map]; rfl
    have hnodup := nodup_ofVariable? h
    rw [hmap] at hnodup
    exact hnodup.of_map _

theorem load_eq_ok {merged : Environment} {files : EnvFiles}
    (hmerged : mergedEnvironment env files = .ok merged) (hdecode : decode merged = .ok c) :
    load env files = .ok c := by
  simp only [load, hmerged, Except.mapError, bind, Except.bind, hdecode]

theorem load_written (hc : c.IsWritable) (h : env.Perm c.toEnvironment) :
    load env ⟨none, none⟩ = .ok c ∧
      ∀ (files : EnvFiles) (ending : List Char), ending = [] ∨ ending = ['\n'] →
        files.nearest? = some (Utf8.encode (env.write ++ ending)) → load [] files = .ok c := by
  have hdecode : decode env = .ok c := decode_written hc h
  constructor
  · exact load_eq_ok rfl hdecode
  · intro files ending hending hfile
    have hne : env ≠ [] := by
      rintro rfl
      have hmem : (Setting.host.variableName, c.host) ∈ c.toEnvironment :=
        mem_toEnvironment_iff.2 ⟨.host, rfl, rfl⟩
      exact absurd (h.mem_iff.2 hmem) List.not_mem_nil
    have hmerged : mergedEnvironment [] files = .ok env := by
      rw [mergedEnvironment, hfile]
      exact applyFile_written hne (isStorable_of_perm hc h) hending
    exact load_eq_ok hmerged hdecode

/-- A value may hold what looks like its end, a comment, a line end or a variable; an empty list and
one of empty items are told apart. -/
theorem load_written_contested :
    ∃ c : Config, load c.toEnvironment ⟨none, none⟩ = .ok c ∧
      load [] ⟨none, some (Utf8.encode (join ['\n'] (
        ["HOST=\"a # \\\"b\\\" \\$PORT\\n'\\\\n \"", "PORT=\"0\"", "CORS_ALLOWED_ORIGINS=\"\"",
          "CORS_ALLOW_METHODS=\",\"", "CORS_ALLOW_HEADERS=\"*, X\"",
          "CORS_ALLOW_CREDENTIALS=\"false\"", "CORS_MAX_AGE_SECS=\"600\"",
          "METRICS_PORT=\"65535\"", "RUST_LOG=\"\"", "LOG_JSON=\"true\""].map
            String.toList)))⟩ = .ok c ∧
      c.host = "a # \"b\" $PORT\n'\\n " ∧ c.origins = [] ∧ c.methods = ["", ""] ∧
      c.headers = ["*", " X"] ∧ c.metricsPort = some 65535 := by
  let c : Config :=
    { host := "a # \"b\" $PORT\n'\\n ", port := 0, origins := [], methods := ["", ""],
      headers := ["*", " X"], credentials := false, metricsPort := some 65535, logFilter := "",
      logJson := true }
  have hc : c.IsWritable :=
    ⟨by decide, ⟨by decide, by decide, by decide⟩, ⟨by decide, by decide, by decide⟩,
      ⟨by decide, by decide, by decide⟩, by decide⟩
  obtain ⟨hprocess, hfile⟩ := load_written hc (List.Perm.refl c.toEnvironment)
  refine ⟨c, hprocess, hfile _ [] (.inl rfl) ?_, rfl, rfl, rfl, rfl, rfl⟩
  exact congrArg (fun text => some (Utf8.encode text)) (by decide +kernel)

end Config

end OriginGate
