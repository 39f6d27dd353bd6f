/-!
# Decimal numerals with a limit

Settings and options write numbers in decimal, with leading zeros and a leading `+` allowed.
`natural? limit` reads a number up to `limit`; `integer? low high` also reads a leading `-`.
Of two faults the one further left is reported.

* `natural?_le`: numbers that are read are within the limit.
* `natural?_eq_ok_iff`: the texts that are read as a number.
* `natural?_decimal`: the decimal text of a number within the limit is read as it.
* `isDigit_of_mem_decimal`: decimal texts hold digits only.
* `decimal_injective`: different numbers have different decimal texts.
* `decimal_eq_zero_of_head?`: decimal texts have no leading zeros.
-/

namespace OriginGate.Text

/-- Why a text is no number. -/
inductive NumeralError where
  /-- There is no digit and no sign. -/
  | empty
  /-- Some character is no digit, or a sign stands alone. -/
  | invalidDigit
  | tooLarge
  /-- The number is below the limit. -/
  | tooSmall
  deriving DecidableEq, Repr

def NumeralError.message : NumeralError → String
  | .empty => "cannot parse integer from empty string"
  | .invalidDigit => "invalid digit found in string"
  | .tooLarge => "number too large to fit in target type"
  | .tooSmall => "number too small to fit in target type"

/-- The value of a decimal digit. -/
def digit? (c : Char) : Option Nat :=
  if c.isDigit then some (c.toNat - '0'.toNat) else none

/-- Reads digits after the number `n`, which may not grow beyond the limit. -/
def digitsFrom (limit : Nat) (excess : NumeralError) : Nat → List Char → Except NumeralError Nat
  | n, [] => .ok n
  | n, c :: cs =>
    match digit? c with
    | none => .error .invalidDigit
    | some d =>
      if limit < 10 * n + d then .error excess else digitsFrom limit excess (10 * n + d) cs

/-- Reads a number from 0 to `limit`. -/
def natural? (limit : Nat) : List Char → Except NumeralError Nat
  | [] => .error .empty
  | ['+'] | ['-'] => .error .invalidDigit
  | '+' :: cs => digitsFrom limit .tooLarge 0 cs
  | cs => digitsFrom limit .tooLarge 0 cs

/-- Reads a number from `-low` to `high`. -/
def integer? (low high : Nat) : List Char → Except NumeralError Int
  | '-' :: c :: cs => (digitsFrom low .tooSmall 0 (c :: cs)).map fun n => -(n : Int)
  | cs => (natural? high cs).map fun n => (n : Int)

/-- The decimal text of a number. -/
def decimal (n : Nat) : List Char :=
  Nat.toDigits 10 n

/-- The decimal text of a number, as a string. -/
def decimalString (n : Nat) : String :=
  String.ofList (decimal n)

/-! ## Decimal texts -/

theorem isDigit_of_mem_decimal {n : Nat} {c : Char} (h : c ∈ decimal n) : c.isDigit = true :=
  Nat.isDigit_of_mem_toDigits (by decide) (by decide) h

theorem decimal_ne_nil {n : Nat} : decimal n ≠ [] :=
  Nat.toDigits_ne_nil

theorem head?_decimal_ne {n : Nat} (hn : 0 < n) : (decimal n).head? ≠ some '0' := by
  induction n using Nat.strongRecOn with
  | ind n ih =>
    rw [decimal, Nat.toDigits_eq_if (by decide)]
    split
    · rename_i hlt
      have hall : ∀ d ∈ List.range 10, 0 < d → d.digitChar ≠ '0' := by decide
      simpa using hall n (List.mem_range.2 hlt) hn
    · have hfront := ih (n / 10) (by omega) (by omega)
      obtain ⟨c, cs, hcs⟩ := List.exists_cons_of_ne_nil (decimal_ne_nil (n := n / 10))
      rw [hcs] at hfront
      rw [decimal] at hcs
      rw [hcs]
      exact hfront

/-- A decimal text has no leading zeros: it starts with one only if it is the text of zero. -/
theorem decimal_eq_zero_of_head? {n : Nat} (h : (decimal n).head? = some '0') :
    decimal n = ['0'] := by
  cases n with
  | zero => rfl
  | succ n => exact absurd h (head?_decimal_ne (Nat.succ_pos n))

theorem decimal_injective {m n : Nat} (h : decimal m = decimal n) : m = n := by
  have hm : Nat.ofDigitChars 10 (decimal m) 0 = m := Nat.ofDigitChars_ten_toDigits
  rw [h] at hm
  exact hm.symm.trans Nat.ofDigitChars_ten_toDigits

theorem digit?_eq_some {c : Char} (h : c.isDigit = true) :
    digit? c = some (c.toNat - '0'.toNat) := by
  simp [digit?, h]

theorem le_ofDigitChars (n : Nat) (cs : List Char) : n ≤ Nat.ofDigitChars 10 cs n := by
  induction cs generalizing n with
  | nil => exact Nat.le_refl n
  | cons c cs ih =>
    rw [Nat.ofDigitChars_cons]
    exact Nat.le_trans (by omega) (ih _)

theorem digitsFrom_eq {limit : Nat} {excess : NumeralError} {n : Nat} {cs : List Char}
    (hd : ∀ c ∈ cs, c.isDigit = true) (h : Nat.ofDigitChars 10 cs n ≤ limit) :
    digitsFrom limit excess n cs = .ok (Nat.ofDigitChars 10 cs n) := by
  induction cs generalizing n with
  | nil => rfl
  | cons c cs ih =>
    rw [Nat.ofDigitChars_cons] at h ⊢
    have hle := Nat.le_trans (le_ofDigitChars _ cs) h
    rw [digitsFrom, digit?_eq_some (hd c (by simp))]
    simp only [Nat.not_lt.2 hle, if_false]
    exact ih (fun d hd' => hd d (by simp [hd'])) h

theorem natural?_eq {limit : Nat} {cs : List Char} (hne : cs ≠ [])
    (hd : ∀ c ∈ cs, c.isDigit = true) :
    natural? limit cs = digitsFrom limit .tooLarge 0 cs := by
  unfold natural?
  split
  · exact absurd rfl hne
  · exact absurd (hd '+' (by simp)) (by decide)
  · exact absurd (hd '-' (by simp)) (by decide)
  · exact absurd (hd '+' (by simp)) (by decide)
  · rfl

theorem digitsFrom_le {limit n m : Nat} {excess : NumeralError} {cs : List Char} (hn : n ≤ limit)
    (h : digitsFrom limit excess n cs = .ok m) : m ≤ limit := by
  induction cs generalizing n with
  | nil =>
    cases h
    exact hn
  | cons c cs ih =>
    rw [digitsFrom] at h
    split at h
    · cases h
    · split at h
      · cases h
      · exact ih (by omega) h

/-- A number that was read is within the limit. -/
theorem natural?_le {limit n : Nat} {cs : List Char} (h : natural? limit cs = .ok n) :
    n ≤ limit := by
  unfold natural? at h
  split at h
  · cases h
  · cases h
  · cases h
  · exact digitsFrom_le (Nat.zero_le _) h
  · exact digitsFrom_le (Nat.zero_le _) h

theorem eq_of_digitsFrom {limit n m : Nat} {excess : NumeralError} {cs : List Char}
    (h : digitsFrom limit excess n cs = .ok m) :
    (∀ c ∈ cs, c.isDigit = true) ∧ Nat.ofDigitChars 10 cs n = m := by
  induction cs generalizing n with
  | nil =>
    cases h
    exact ⟨nofun, rfl⟩
  | cons c cs ih =>
    rw [digitsFrom] at h
    split at h
    · cases h
    · rename_i d hd
      split at h
      · cases h
      · obtain ⟨hall, hvalue⟩ := ih h
        by_cases hc : c.isDigit = true
        · rw [digit?_eq_some hc, Option.some.injEq] at hd
          rw [Nat.ofDigitChars_cons, hd]
          exact ⟨List.forall_mem_cons.2 ⟨hc, hall⟩, hvalue⟩
        · rw [digit?, if_neg hc] at hd
          cases hd

/-- Numbers are read from one or more digits, with or without a plus sign before them. -/
theorem natural?_eq_ok_iff {limit n : Nat} {cs : List Char} :
    natural? limit cs = .ok n ↔
      ∃ digits, (cs = digits ∨ cs = '+' :: digits) ∧ digits ≠ [] ∧
        (∀ c ∈ digits, c.isDigit = true) ∧ Nat.ofDigitChars 10 digits 0 = n ∧ n ≤ limit := by
  constructor
  · intro h
    have hle := natural?_le h
    unfold natural? at h
    split at h
    · cases h
    · cases h
    · cases h
    · rename_i digits hplus
      obtain ⟨hall, hvalue⟩ := eq_of_digitsFrom h
      exact ⟨digits, .inr rfl, fun hnil => hplus hnil, hall, hvalue, hle⟩
    · rename_i hnil _ _ _
      obtain ⟨hall, hvalue⟩ := eq_of_digitsFrom h
      exact ⟨cs, .inl rfl, hnil, hall, hvalue, hle⟩
  · rintro ⟨digits, rfl | rfl, hne, hall, rfl, hle⟩
    · rw [natural?_eq hne hall, digitsFrom_eq hall hle]
    · obtain ⟨d, ds, rfl⟩ := List.exists_cons_of_ne_nil hne
      exact digitsFrom_eq hall hle

theorem natural?_decimal {limit n : Nat} (h : n ≤ limit) : natural? limit (decimal n) = .ok n := by
  have hn : Nat.ofDigitChars 10 (decimal n) 0 = n :=
    Nat.ofDigitChars_toDigits (by decide) (by decide)
  have hd : ∀ c ∈ decimal n, c.isDigit = true := fun c hc => isDigit_of_mem_decimal hc
  rw [natural?_eq decimal_ne_nil hd, digitsFrom_eq hd (by rwa [hn]), hn]

end OriginGate.Text
