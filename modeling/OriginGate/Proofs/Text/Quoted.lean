import Mathlib.Logic.Function.Basic
import Mathlib.Tactic.SplitIfs
import OriginGate.Proofs.Text.Graphic
import OriginGate.Proofs.Text.Hexadecimal
import OriginGate.Text.Quoted

/-!
# Quoted texts are told apart

A quoted text can be read again. No character inside is written as a bare double quote, so that
the closing quote is recognised, whatever follows it.

* `readEscaped?_escapeChar`: what is written for one character is read as it.
* `escape_append_injective`: a text up to its closing quote and what follows it are determined.
* `quote_injective`: different texts have different quotations.
* `not_isControl_of_mem_quote`: a quotation holds no control character.
-/

namespace OriginGate.Text

/-! ## Reading -/

/-- The character that a letter after a backslash stands for. -/
def shortEscape? : Char → Option Char
  | '"' => some '"'
  | '\\' => some '\\'
  | 'n' => some '\n'
  | 'r' => some '\r'
  | 't' => some '\t'
  | '0' => some '\x00'
  | _ => none

/-- Reads one character of a quoted text; there is none at the closing quote. -/
def readEscaped? : List Char → Option (Char × List Char)
  | [] | '"' :: _ => none
  | '\\' :: 'u' :: cs =>
    let digits := (cs.drop 1).takeWhile (· ≠ '\x7d')
    some (Char.ofNat (hexNumber digits), cs.drop (digits.length + 2))
  | '\\' :: c :: cs => (shortEscape? c).map (·, cs)
  | c :: cs => some (c, cs)

theorem readEscaped?_self {c : Char} (hquote : c ≠ '"') (hbackslash : c ≠ '\\')
    (rest : List Char) : readEscaped? (c :: rest) = some (c, rest) := by
  unfold readEscaped?
  split <;> simp_all

theorem takeWhile_hexText (n : Nat) (rest : List Char) :
    (hexText n ++ '\x7d' :: rest).takeWhile (· ≠ '\x7d') = hexText n := by
  have hdigits : ∀ c ∈ hexText n, c ≠ '\x7d' := by
    rintro c hc rfl
    exact absurd (isHexDigit_of_mem_toDigits hc) (by decide)
  rw [List.takeWhile_append_of_pos (by simpa using hdigits)]
  simp

theorem readEscaped?_number (c : Char) (rest : List Char) :
    readEscaped? (['\\', 'u', '\x7b'] ++ hexText c.toNat ++ ['\x7d'] ++ rest) = some (c, rest) := by
  have hchars : ['\\', 'u', '\x7b'] ++ hexText c.toNat ++ ['\x7d'] ++ rest =
      '\\' :: 'u' :: '\x7b' :: (hexText c.toNat ++ '\x7d' :: rest) := by simp
  have hvalue : Char.ofNat (hexNumber (hexText c.toNat)) = c := by
    rw [hexText, hexNumber_toDigits, Char.ofNat_toNat]
  have hdrop : (hexText c.toNat ++ '\x7d' :: rest).drop ((hexText c.toNat).length + 1) = rest := by
    rw [List.drop_append, List.drop_eq_nil_of_le (by omega)]
    simp
  rw [hchars, readEscaped?, List.drop_one, List.tail_cons, takeWhile_hexText, hvalue,
    List.drop_succ_cons, hdrop]

theorem readEscaped?_escapeChar (c : Char) (rest : List Char) :
    readEscaped? (escapeChar c ++ rest) = some (c, rest) := by
  unfold escapeChar
  split_ifs with hquote hbackslash hnewline hreturn htab hnull hvisible
  · rw [hquote]; rfl
  · rw [hbackslash]; rfl
  · rw [hnewline]; rfl
  · rw [hreturn]; rfl
  · rw [htab]; rfl
  · rw [hnull]; rfl
  · exact readEscaped?_self hquote hbackslash rest
  · exact readEscaped?_number c rest

/-! ## Same quotation, same text -/

/-- Reading goes on until the closing quote. -/
theorem escape_append_injective {a b x y : List Char}
    (h : escape a ++ '"' :: x = escape b ++ '"' :: y) : a = b ∧ x = y := by
  have hstep (c : Char) (cs rest : List Char) :
      readEscaped? (escape (c :: cs) ++ rest) = some (c, escape cs ++ rest) := by
    rw [escape_cons, List.append_assoc, readEscaped?_escapeChar]
  induction a generalizing b with
  | nil =>
    cases b with
    | nil => exact ⟨rfl, (List.cons.inj h).2⟩
    | cons d ds =>
      have hread := congrArg readEscaped? h
      rw [hstep] at hread
      cases hread
  | cons c cs ih =>
    have hread := congrArg readEscaped? h
    cases b with
    | nil =>
      rw [hstep] at hread
      cases hread
    | cons d ds =>
      rw [hstep, hstep, Option.some.injEq, Prod.mk.injEq] at hread
      obtain ⟨hcs, hrest⟩ := ih hread.2
      exact ⟨by rw [hread.1, hcs], hrest⟩

theorem toList_quote_append (s t : String) :
    (quote s ++ t).toList = '"' :: (escape s.toList ++ '"' :: t.toList) := by
  simp [quote]

/-- The closing quote is recognised, whatever follows. -/
theorem quote_append_injective {s s' t t' : String} (h : quote s ++ t = quote s' ++ t') :
    s = s' ∧ t = t' := by
  have hchars := congrArg String.toList h
  rw [toList_quote_append, toList_quote_append] at hchars
  obtain ⟨hs, ht⟩ := escape_append_injective (List.cons.inj hchars).2
  exact ⟨String.toList_inj.1 hs, String.toList_inj.1 ht⟩

theorem quote_injective : Function.Injective quote := by
  intro s s' h
  have happend : quote s ++ "" = quote s' ++ "" := congrArg (· ++ "") h
  exact (quote_append_injective happend).1

/-! ## No control characters -/

theorem not_isControl_of_isGraphic {c : Char} (h : isGraphic c = true) : isControl c = false := by
  simp only [isGraphic, Bool.and_eq_true, decide_eq_true_eq] at h
  simp only [isControl, Bool.or_eq_false_iff, Bool.and_eq_false_iff, decide_eq_false_iff_not]
  omega

theorem not_isControl_of_mem_escapeChar {c d : Char} (h : d ∈ escapeChar c) :
    isControl d = false := by
  have hplain (cs : List Char) (hcs : cs.all (! isControl ·) = true) (hd : d ∈ cs) :
      isControl d = false := by simpa using List.all_eq_true.1 hcs d hd
  unfold escapeChar at h
  split_ifs at h with hquote hbackslash hnewline hreturn htab hnull hvisible
  iterate 6 exact hplain _ (by decide) h
  · cases hcontrol : isControl d with
    | false => rfl
    | true =>
      rw [← List.mem_singleton.1 h, not_isVisible_of_control hcontrol] at hvisible
      cases hvisible
  · rcases List.mem_append.1 h with h | h
    · rcases List.mem_append.1 h with h | h
      · exact hplain _ (by decide) h
      · exact not_isControl_of_isGraphic
          (isGraphic_of_isHexDigit (isHexDigit_of_mem_toDigits h))
    · exact hplain _ (by decide) h

theorem not_isControl_of_mem_quote {s : String} {c : Char} (h : c ∈ (quote s).toList) :
    isControl c = false := by
  simp only [quote, String.toList_ofList, List.cons_append, List.mem_cons, List.mem_append,
    List.not_mem_nil, or_false] at h
  rcases h with rfl | h | rfl
  · decide
  · obtain ⟨d, -, hd⟩ := List.mem_flatMap.1 h
    exact not_isControl_of_mem_escapeChar hd
  · decide

end OriginGate.Text
