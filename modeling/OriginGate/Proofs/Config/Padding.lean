import OriginGate.Config.Validate
import OriginGate.Proofs.Cors.Policy

/-!
# Blanks in the lists of a configuration

Lists are written by hand, so that blank entries and blanks around entries come about easily. They
do not count: the check and the policy see the trimmed entries alone, also where they tell a fault.

* `IsPadding`: a list with blank entries and blanks around entries added to it.
* `entries_of_isPadding`: the entries that count are the same.
* `Config.validate_of_isPadding`: so are the outcome of the check and the policy.
-/

namespace OriginGate

open Http Text

/-- The second list is the first one with blank entries inserted anywhere and blanks added before
and after its entries. -/
inductive IsPadding : List String → List String → Prop
  | nil : IsPadding [] []
  | insert {list padded : List String} {entry : String}
      (blank : ∀ c ∈ entry.toList, isBlank c = true) (rest : IsPadding list padded) :
      IsPadding list (entry :: padded)
  | surround {list padded : List String} {before entry after : String}
      (blankBefore : ∀ c ∈ before.toList, isBlank c = true)
      (blankAfter : ∀ c ∈ after.toList, isBlank c = true) (rest : IsPadding list padded) :
      IsPadding (entry :: list) ((before ++ entry ++ after) :: padded)

/-- No blank need be added to an entry. -/
theorem IsPadding.cons {list padded : List String} (entry : String) (h : IsPadding list padded) :
    IsPadding (entry :: list) (entry :: padded) := by
  have hsame : "" ++ entry ++ "" = entry := by rw [String.empty_append, String.append_empty]
  have hnone : ∀ c ∈ "".toList, isBlank c = true := nofun
  have h' : IsPadding (entry :: list) (("" ++ entry ++ "") :: padded) := .surround hnone hnone h
  rwa [hsame] at h'

theorem entries_of_isPadding {list padded : List String} (h : IsPadding list padded) :
    entries padded = entries list := by
  induction h with
  | nil => rfl
  | insert blank rest ih => rw [entries_cons_of_blank blank, ih]
  | @surround list padded before entry after blankBefore blankAfter rest ih =>
    have htrim : trim (before ++ entry ++ after).toList = trim entry.toList := by
      rw [String.toList_append, String.toList_append, trim_padded blankBefore blankAfter]
    rw [entries_cons, entries_cons, htrim, ih]

theorem Allowed.parse_congr {α : Type} (read? : List Char → Option α) {list list' : List String}
    (h : entries list' = entries list) : parse read? list' = parse read? list := by
  rw [parse, parse, h]

namespace Config

/-- The second configuration is the first one with padded lists. -/
structure IsPadding (c c' : Config) : Prop where
  origins : OriginGate.IsPadding c.origins c'.origins
  methods : OriginGate.IsPadding c.methods c'.methods
  headers : OriginGate.IsPadding c.headers c'.headers
  rest : c' = { c with origins := c'.origins, methods := c'.methods, headers := c'.headers }

variable {c c' : Config}

theorem ofConfig_of_isPadding (h : c.IsPadding c') : Policy.ofConfig c' = Policy.ofConfig c := by
  have horigins : c'.allowedOrigins = c.allowedOrigins := entries_of_isPadding h.origins
  have hmethods := Allowed.parse_congr Method.ofText? (entries_of_isPadding h.methods)
  have hheaders := Allowed.parse_congr FieldName.ofText? (entries_of_isPadding h.headers)
  have hcredentials : c'.credentials = c.credentials := by rw [h.rest]
  have hmaxAge : c'.maxAge = c.maxAge := by rw [h.rest]
  rw [Policy.ofConfig, horigins, hmethods, hheaders, hcredentials, hmaxAge, Policy.ofConfig]

theorem validate_of_isPadding (h : c.IsPadding c') :
    c'.validate = c.validate ∧ Policy.ofConfig c' = Policy.ofConfig c := by
  have hpolicy := ofConfig_of_isPadding h
  have horigins : c'.allowedOrigins = c.allowedOrigins := entries_of_isPadding h.origins
  have hport : c'.port = c.port := by rw [h.rest]
  have hmetrics : c'.metricsPort = c.metricsPort := by rw [h.rest]
  refine ⟨?_, hpolicy⟩
  rw [validate, hport, hmetrics, horigins, hpolicy, validate]

/-- Of two methods that are refused the first is told without the blanks around it: a tab, an
ideographic space and the separators of lines are among those that do not count. -/
theorem validate_of_isPadding_faulty :
    let c : Config := { origins := ["http://[::1]"], methods := ["GE T", "P@"] }
    let c' : Config :=
      { origins := ["", "\u3000" ++ "http://[::1]" ++ "\r\n"],
        methods := ["\u2028", "\t" ++ "GE T" ++ "\u00a0", " ", "P@"] }
    c.IsPadding c' ∧ c'.validate = .error (.invalidMethod "GE T") ∧
      Policy.ofConfig c' = .error (.invalidMethod "GE T") := by
  intro c c'
  have hblank {text : String} (h : text.toList.all isBlank = true) :
      ∀ ch ∈ text.toList, isBlank ch = true := List.all_eq_true.1 h
  have h : c.IsPadding c' :=
    { origins := .insert (hblank rfl) (.surround (hblank rfl) (hblank rfl) .nil)
      methods := .insert (hblank rfl)
        (.surround (hblank rfl) (hblank rfl) (.insert (hblank rfl) (.cons "P@" .nil)))
      headers := .cons "*" .nil
      rest := rfl }
  obtain ⟨hvalidate, hpolicy⟩ := validate_of_isPadding h
  rw [hvalidate, hpolicy]
  exact ⟨h, by rfl, by rfl⟩

end Config

end OriginGate
