import OriginGate.Http.Token
import OriginGate.Text.Blank
import OriginGate.Text.SpanTable

/-!
# Visible ASCII characters

Origins, methods and names are written in visible ASCII characters, which every header field can
carry.

* `isGraphic_of_isDigit`, `isGraphic_of_isHexDigit`, `isGraphic_of_isTokenChar`: digits and the
  characters of tokens are visible.
* `not_isBlank_of_isGraphic`: visible characters are not blank.
* `FieldValue.exists_ofText?_iff`, `ofText?_of_isGraphic`: a text without controls is a field value.
-/

namespace OriginGate.Text

/-- Whether the character is a visible ASCII character. -/
def isGraphic (c : Char) : Bool :=
  0x20 < c.toNat && c.toNat < 0x7F

theorem not_isBlank_of_isGraphic {c : Char} (h : isGraphic c = true) : isBlank c = false := by
  simp only [isGraphic, Bool.and_eq_true, decide_eq_true_eq] at h
  simp only [isBlank, Bool.or_eq_false_iff, Bool.and_eq_false_iff, decide_eq_false_iff_not]
  omega

/-- A range between two visible characters has visible characters only. -/
theorem isGraphic_of_mem_range {low high c : Char} (hlow : 0x20 < low.toNat)
    (hhigh : high.toNat < 0x7F) (h : low ≤ c ∧ c ≤ high) : isGraphic c = true := by
  have hc : low.toNat ≤ c.toNat ∧ c.toNat ≤ high.toNat := h
  simp only [isGraphic, Bool.and_eq_true, decide_eq_true_eq]
  omega

theorem isGraphic_of_isDigit {c : Char} (h : c.isDigit = true) : isGraphic c = true := by
  simp only [Char.isDigit, Bool.and_eq_true, decide_eq_true_eq] at h
  exact isGraphic_of_mem_range (by decide) (by decide) h

theorem isGraphic_of_isAlphanum {c : Char} (h : c.isAlphanum = true) : isGraphic c = true := by
  have hclass : (c.isUpper || c.isLower || c.isDigit) = true := h
  simp only [Bool.or_eq_true] at hclass
  rcases hclass with (hupper | hlower) | hdigit
  · have hrange : 'A' ≤ c ∧ c ≤ 'Z' := of_decide_eq_true hupper
    exact isGraphic_of_mem_range (by decide) (by decide) hrange
  · have hboth := Bool.and_eq_true_iff.1 hlower
    have hrange : 'a' ≤ c ∧ c ≤ 'z' := ⟨of_decide_eq_true hboth.1, of_decide_eq_true hboth.2⟩
    exact isGraphic_of_mem_range (by decide) (by decide) hrange
  · exact isGraphic_of_isDigit hdigit

theorem isGraphic_of_isHexDigit {c : Char} (h : (hexDigit? c).isSome = true) :
    isGraphic c = true := by
  unfold hexDigit? at h
  split at h
  · rename_i hc
    exact isGraphic_of_mem_range (by decide) (by decide) hc
  · split at h
    · rename_i hc
      exact isGraphic_of_mem_range (by decide) (by decide) hc
    · split at h
      · rename_i hc
        exact isGraphic_of_mem_range (by decide) (by decide) hc
      · cases h

end OriginGate.Text

namespace OriginGate.Http

open Text

theorem isGraphic_of_isTokenChar {c : Char} (h : isTokenChar c = true) : isGraphic c = true := by
  simp only [isTokenChar, Bool.or_eq_true] at h
  rcases h with halnum | hsign
  · exact isGraphic_of_isAlphanum halnum
  · have hall : "!#$%&'*+-.^_`|~".toList.all isGraphic = true := by decide
    exact List.all_eq_true.1 hall c (List.contains_iff_mem.1 hsign)

/-- Whether a field value may hold the character: no control of ASCII but the tab. -/
def isValueChar (c : Char) : Bool :=
  (0x20 ≤ c.toNat && c.toNat ≠ 0x7F) || c = '\t'

theorem all_isValueByte_utf8EncodeChar (c : Char) :
    (String.utf8EncodeChar c).all isValueByte = isValueChar c := by
  by_cases hascii : c.toNat < 0x80
  · have hall : ∀ n ∈ List.range 0x80,
        (String.utf8EncodeChar (Char.ofNat n)).all isValueByte = isValueChar (Char.ofNat n) := by
      decide +kernel
    have hc := hall c.toNat (List.mem_range.2 hascii)
    rwa [Char.ofNat_toNat] at hc
  · -- no byte of the character is ASCII
    have hchar : isValueChar c = true := by
      simp only [isValueChar, Bool.or_eq_true, Bool.and_eq_true, decide_eq_true_eq]
      exact .inl (by omega)
    rw [hchar, List.all_eq_true]
    intro b hb
    have hb : ¬ b.toNat < 0x80 := fun h => hascii (Utf8.toNat_of_mem_utf8EncodeChar hb h ▸ h)
    have hle : 0x20 ≤ b := UInt8.le_iff_toNat_le.2 (Nat.le_trans (by decide) (Nat.le_of_not_lt hb))
    have hne : b ≠ 0x7F := fun heq => hb (heq ▸ by decide)
    simp [isValueByte, hle, hne]

theorem FieldValue.exists_ofText?_iff {cs : List Char} :
    (∃ v, FieldValue.ofText? cs = some v) ↔ ∀ c ∈ cs, isValueChar c = true := by
  have hall : (Utf8.encode cs).all isValueByte = cs.all isValueChar := by
    simp only [Utf8.encode, List.all_flatMap, all_isValueByte_utf8EncodeChar]
  rw [← List.all_eq_true, ← hall]
  unfold ofText? ofBytes?
  split
  · rename_i h
    exact ⟨fun _ => h, fun _ => ⟨_, rfl⟩⟩
  · rename_i h
    constructor
    · rintro ⟨v, hv⟩
      cases hv
    · intro h'
      exact absurd h' h

theorem isValueChar_of_isGraphic {c : Char} (h : isGraphic c = true) : isValueChar c = true := by
  simp only [isGraphic, Bool.and_eq_true, decide_eq_true_eq] at h
  simp only [isValueChar, Bool.or_eq_true, Bool.and_eq_true, decide_eq_true_eq]
  exact .inl (by omega)

theorem FieldValue.ofText?_of_isGraphic {cs : List Char}
    (h : ∀ c ∈ cs, isGraphic c = true) : ∃ v, FieldValue.ofText? cs = some v :=
  exists_ofText?_iff.2 fun c hc => isValueChar_of_isGraphic (h c hc)

end OriginGate.Http
