import OriginGate.Proofs.Config.FirstFault
import OriginGate.Proofs.Text.Quoted

/-!
# What is said about a configuration

The fault of a configuration is written to a log, with texts that anyone may have put into the
configuration. They are quoted, so that no two faults read the same and none breaks the line.

* `ConfigFault.message_injective`: different faults have different messages.
* `ConfigFault.isOneLine_message`: a message is on one line if the reason in it is.
* `Config.messages_unambiguous`: no fault of a configuration that is refused breaks the line.
-/

namespace OriginGate

open Http Text

/-- A text without control characters, line breaks and escape sequences among them. -/
def IsOneLine (text : String) : Prop :=
  ∀ ch ∈ text.toList, isControl ch = false

theorem isOneLine_append {s t : String} (hs : IsOneLine s) (ht : IsOneLine t) :
    IsOneLine (s ++ t) := by
  intro ch hch
  rw [String.toList_append] at hch
  exact (List.mem_append.1 hch).elim (hs ch) (ht ch)

theorem isOneLine_quote (s : String) : IsOneLine (quote s) :=
  fun _ => not_isControl_of_mem_quote

theorem isOneLine_of_all {text : String} (h : text.toList.all (! isControl ·) = true) :
    IsOneLine text := by
  simpa [IsOneLine] using h

theorem isOneLine_decimalString (n : Nat) : IsOneLine (decimalString n) := by
  intro ch hch
  rw [decimalString, String.toList_ofList] at hch
  exact not_isControl_of_isGraphic (isGraphic_of_isDigit (isDigit_of_mem_decimal hch))

theorem OriginFault.isOneLine_message (why : OriginFault) : IsOneLine why.message := by
  cases why with
  | unreadable fault => cases fault <;> exact isOneLine_of_all (by decide)
  | unsupportedScheme scheme =>
    exact isOneLine_append (isOneLine_of_all (by decide)) (isOneLine_quote scheme)
  | otherForm canonical =>
    exact isOneLine_append (isOneLine_of_all (by decide)) (isOneLine_quote canonical)

namespace ConfigFault

/-! ## Different faults, different messages -/

/-- The character that tells the kind of fault: the first of the message, or what follows
`invalid CORS`. -/
def mark (text : List Char) : Option Char :=
  if text.head? = some 'i' then text[13]? else text.head?

theorem mark_append {lead rest : List Char} (h : 13 < lead.length) :
    mark (lead ++ rest) = mark lead := by
  rw [mark, mark, List.getElem?_append_left h, List.head?_append_of_ne_nil]
  exact List.ne_nil_of_length_pos (by omega)

/-- What comes before the texts that a message quotes. -/
def lead : ConfigFault → String
  | noOrigins => "CORS_ALLOWED_ORIGINS must contain at least one origin"
  | invalidOrigin _ _ => "invalid CORS origin "
  | invalidMethod _ => "invalid CORS method "
  | invalidHeader _ => "invalid CORS header "
  | invalidPort => "PORT must be non-zero"
  | metricsPortCollision _ => "METRICS_PORT "

/-- What comes after it. -/
def rest : ConfigFault → String
  | noOrigins | invalidPort => ""
  | invalidOrigin origin reason => quote origin ++ (": " ++ reason)
  | invalidMethod text | invalidHeader text => quote text
  | metricsPortCollision port => decimalString port.toNat ++ " collides with PORT"

theorem message_eq (fault : ConfigFault) : fault.message = fault.lead ++ fault.rest := by
  cases fault with
  | noOrigins | invalidPort => exact String.append_empty.symm
  | invalidOrigin origin reason => exact String.append_assoc.trans String.append_assoc
  | invalidMethod text | invalidHeader text => rfl
  | metricsPortCollision port => exact String.append_assoc

/-- The mark of the messages of a kind. -/
def letter : ConfigFault → Char
  | noOrigins => 'C'
  | invalidOrigin _ _ => 'o'
  | invalidMethod _ => 'm'
  | invalidHeader _ => 'h'
  | invalidPort => 'P'
  | metricsPortCollision _ => 'M'

theorem mark_message (fault : ConfigFault) : mark fault.message.toList = some fault.letter := by
  rw [message_eq, String.toList_append]
  cases fault with
  | metricsPortCollision port =>
    have hlead : "METRICS_PORT ".toList = 'M' :: "ETRICS_PORT ".toList := by decide
    simp only [lead, hlead]
    rfl
  | _ =>
    rw [mark_append (by simp only [lead]; decide)]
    simp only [lead, letter]
    decide

/-- The mark tells the kind of fault, and the closing quote where a text in it ends. -/
theorem message_injective : Function.Injective message := by
  intro f g h
  have hletter : f.letter = g.letter := by
    rw [← Option.some.injEq, ← mark_message, ← mark_message, h]
  rw [message_eq, message_eq] at h
  cases f <;> cases g <;> try (simp [letter] at hletter; done)
  case noOrigins.noOrigins => rfl
  case invalidPort.invalidPort => rfl
  case invalidOrigin.invalidOrigin origin reason origin' reason' =>
    obtain ⟨rfl, hreason⟩ := quote_append_injective ((String.append_right_inj _).1 h)
    rw [(String.append_right_inj _).1 hreason]
  case invalidMethod.invalidMethod text text' =>
    rw [quote_injective ((String.append_right_inj _).1 h)]
  case invalidHeader.invalidHeader text text' =>
    rw [quote_injective ((String.append_right_inj _).1 h)]
  case metricsPortCollision.metricsPortCollision port port' =>
    have hdecimal := (String.append_left_inj _).1 ((String.append_right_inj _).1 h)
    rw [UInt16.toNat_inj.1 (decimal_injective (String.ofList_injective hdecimal))]

/-! ## No message breaks the line -/

theorem isOneLine_message {fault : ConfigFault}
    (h : ∀ origin reason, fault = invalidOrigin origin reason → IsOneLine reason) :
    IsOneLine fault.message := by
  cases fault with
  | noOrigins | invalidPort => exact isOneLine_of_all (by decide)
  | invalidOrigin origin reason =>
    exact isOneLine_append
      (isOneLine_append
        (isOneLine_append (isOneLine_of_all (by decide)) (isOneLine_quote origin))
        (isOneLine_of_all (by decide)))
      (h origin reason rfl)
  | invalidMethod text | invalidHeader text =>
    exact isOneLine_append (isOneLine_of_all (by decide)) (isOneLine_quote text)
  | metricsPortCollision port =>
    exact isOneLine_append
      (isOneLine_append (isOneLine_of_all (by decide)) (isOneLine_decimalString _))
      (isOneLine_of_all (by decide))

end ConfigFault

/-! ## Faults that are reported -/

theorem Policy.isOneLine_of_readOrigins {ss : List String} {fault : ConfigFault}
    (h : readOrigins ss = .error fault) : IsOneLine fault.message := by
  induction ss with
  | nil => cases h
  | cons s ss ih =>
    rw [readOrigins] at h
    split at h
    · cases h
      refine ConfigFault.isOneLine_message fun origin reason heq => ?_
      cases heq
      exact isOneLine_of_all (by decide)
    · exact ih (map_eq_error_iff.1 h)

theorem Policy.isOneLine_of_ofConfig {c : Config} {fault : ConfigFault}
    (h : ofConfig c = .error fault) : IsOneLine fault.message := by
  rw [ofConfig_eq] at h
  split at h
  · rename_i horigins
    cases h
    exact isOneLine_of_readOrigins horigins
  · cases h
    exact ConfigFault.isOneLine_message nofun
  · split at h
    · cases h
      exact ConfigFault.isOneLine_message nofun
    · split at h
      · cases h
        exact ConfigFault.isOneLine_message nofun
      · cases h

namespace Config

theorem isOneLine_of_reports {c : Config} {rule : Rule} {fault : ConfigFault}
    (h : c.Reports rule fault) : IsOneLine fault.message := by
  cases rule with
  | port | metricsPort | someOrigin =>
    cases h
    exact ConfigFault.isOneLine_message nofun
  | origins =>
    obtain ⟨e, why, -, -, rfl⟩ := h
    refine ConfigFault.isOneLine_message fun origin reason heq => ?_
    cases heq
    exact why.isOneLine_message
  | methods | headers =>
    obtain ⟨e, -, rfl⟩ := h
    exact ConfigFault.isOneLine_message nofun

theorem isOneLine_of_validate {c : Config} {fault : ConfigFault}
    (h : c.validate = .error fault) : IsOneLine fault.message := by
  rw [validate_eq, forM_eq_error_iff] at h
  obtain ⟨rule, -, hrule⟩ := h
  exact isOneLine_of_reports ((check_eq_error_iff rule).1 hrule).2

/-- Different faults have different messages, and no configuration is refused with a message that
breaks the line. -/
theorem messages_unambiguous :
    Function.Injective ConfigFault.message ∧
      ∀ (c : Config) (fault : ConfigFault),
        c.validate = .error fault ∨ Policy.ofConfig c = .error fault →
          ∀ ch ∈ fault.message.toList, isControl ch = false :=
  ⟨ConfigFault.message_injective, fun _ _ h =>
    h.elim isOneLine_of_validate Policy.isOneLine_of_ofConfig⟩

/-- An origin with a line break and an escape sequence is told in one line by both. -/
theorem messages_unambiguous_hostile :
    let c : Config := { origins := ["http://[::1]/\n\x1b[2K error"] }
    let told := ConfigFault.invalidOrigin "http://[::1]/\n\x1b[2K error"
    let form := "expected origin form \"http://[::1]\""
    (c.validate = .error (told form) ∧ Policy.ofConfig c = .error (told Policy.unsendable)) ∧
      (told form).message =
        "invalid CORS origin \"http://[::1]/\\n\\u\x7b1b\x7d[2K error\": " ++ form ∧
      (∀ ch ∈ (told form).message.toList, isControl ch = false) ∧
      ∀ ch ∈ (told Policy.unsendable).message.toList, isControl ch = false := by
  intro c told form
  have hvalidate : c.validate = .error (told form) := by rfl
  have hpolicy : Policy.ofConfig c = .error (told Policy.unsendable) := by rfl
  exact ⟨⟨hvalidate, hpolicy⟩, by rfl, messages_unambiguous.2 c _ (.inl hvalidate),
    messages_unambiguous.2 c _ (.inr hpolicy)⟩

end Config

end OriginGate
