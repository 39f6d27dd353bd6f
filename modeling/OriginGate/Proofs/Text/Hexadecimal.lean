import OriginGate.Text.SpanTable

/-!
# Digits of numbers

Numbers are written in decimal and in hexadecimal, always in lower case and without leading zeros.
Readers of numbers in any base up to sixteen share the values of the hexadecimal digits.

* `foldl_toDigits`: the digits of a number give the number again in their base.
* `hexNumber_toDigits`: so do hexadecimal digits for the reader of hexadecimal numbers.
* `isHexDigit_of_mem_toDigits`: what is written consists of digits.
* `hexNumber_lt`: how great a number is that is written with so many digits.
-/

namespace OriginGate.Text

theorem hexDigit?_digitChar {n : Nat} (h : n < 16) : hexDigit? n.digitChar = some n := by
  have hall : ∀ k ∈ List.range 16, hexDigit? k.digitChar = some k := by decide
  exact hall n (List.mem_range.2 h)

theorem exists_digitChar_of_mem_toDigits {n : Nat} {c : Char} (h : c ∈ Nat.toDigits 16 n) :
    ∃ k < 16, c = k.digitChar := by
  induction n using Nat.strongRecOn with
  | ind n ih =>
    rw [Nat.toDigits_eq_if (by decide)] at h
    split at h
    · rename_i hn
      exact ⟨n, hn, List.mem_singleton.1 h⟩
    · rcases List.mem_append.1 h with h | h
      · exact ih (n / 16) (by omega) h
      · exact ⟨n % 16, Nat.mod_lt n (by decide), List.mem_singleton.1 h⟩

theorem isHexDigit_of_mem_toDigits {n : Nat} {c : Char} (h : c ∈ Nat.toDigits 16 n) :
    (hexDigit? c).isSome = true := by
  obtain ⟨k, hk, rfl⟩ := exists_digitChar_of_mem_toDigits h
  rw [hexDigit?_digitChar hk]
  rfl

theorem not_isUpper_of_mem_toDigits {n : Nat} {c : Char} (h : c ∈ Nat.toDigits 16 n) :
    c.isUpper = false := by
  have hall : ∀ k ∈ List.range 16, k.digitChar.isUpper = false := by decide
  obtain ⟨k, hk, rfl⟩ := exists_digitChar_of_mem_toDigits h
  exact hall k (List.mem_range.2 hk)

/-- The digits of a number in some base, read in that base. -/
theorem foldl_toDigits {base : Nat} (hlow : 1 < base) (hhigh : base ≤ 16) (n : Nat) :
    (Nat.toDigits base n).foldl (fun m c => base * m + (hexDigit? c).getD 0) 0 = n := by
  induction n using Nat.strongRecOn with
  | ind n ih =>
    rw [Nat.toDigits_eq_if hlow]
    split
    · rename_i hn
      simp [hexDigit?_digitChar (Nat.lt_of_lt_of_le hn hhigh)]
    · rename_i hn
      have hmod : n % base < base := Nat.mod_lt n (by omega)
      rw [List.foldl_append, ih (n / base) (Nat.div_lt_self (by omega) hlow)]
      simp only [List.foldl_cons, List.foldl_nil,
        hexDigit?_digitChar (Nat.lt_of_lt_of_le hmod hhigh), Option.getD_some]
      exact Nat.div_add_mod n base

theorem hexNumber_toDigits (n : Nat) : hexNumber (Nat.toDigits 16 n) = n :=
  foldl_toDigits (by decide) (by decide) n

theorem hexDigit?_getD_lt (c : Char) : (hexDigit? c).getD 0 < 16 := by
  have hle {high : Char} (h : c ≤ high) : c.toNat ≤ high.toNat := h
  unfold hexDigit?
  split
  · rename_i h
    have hnine := hle h.2
    simp at hnine ⊢
    omega
  · split
    · rename_i h
      have hf := hle h.2
      simp at hf ⊢
      omega
    · split
      · rename_i h
        have hf := hle h.2
        simp at hf ⊢
        omega
      · decide

theorem hexNumber_lt (t : List Char) : hexNumber t < Nat.pow 16 t.length := by
  have hfrom : ∀ n, t.foldl (fun n c => 16 * n + (hexDigit? c).getD 0) n
      < (n + 1) * 16 ^ t.length := by
    induction t with
    | nil => simp
    | cons c t ih =>
      intro n
      have hc := hexDigit?_getD_lt c
      calc t.foldl _ (16 * n + (hexDigit? c).getD 0)
          < (16 * n + (hexDigit? c).getD 0 + 1) * 16 ^ t.length := ih _
        _ ≤ (n + 1) * 16 * 16 ^ t.length := Nat.mul_le_mul_right _ (by omega)
        _ = (n + 1) * 16 ^ (c :: t).length := by
          rw [List.length_cons, Nat.pow_succ', Nat.mul_assoc]
  simpa [hexNumber] using hfrom 0

end OriginGate.Text
