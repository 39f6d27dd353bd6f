import OriginGate.Text.Numeral

/-!
# Binary numbers of double precision

A finite number is `m · 2 ^ q` with a sign, where `m < 2 ^ 53` and `-1074 ≤ q`, and `q` is as
small as these bounds allow. Other numbers are rounded to the nearest of these; of two that are
as near the one with an even `m` is taken.
-/

namespace OriginGate.Number

open Text

inductive Binary64 where
  /-- The number `m · 2 ^ q` with its sign; zero has a sign too. -/
  | finite (negative : Bool) (m : Nat) (q : Int)
  | infinite (negative : Bool)
  | nan
  deriving DecidableEq, Repr

/-! ## Rounding -/

/-- The whole number nearest to a quotient; a half goes to the even neighbour. -/
def roundQuotient (num den : Nat) : Nat :=
  if 2 * (num % den) < den then num / den
  else if den < 2 * (num % den) then num / den + 1
  else num / den + num / den % 2

/-- The quotient of `num / den` and `2 ^ q`, as a pair. -/
def scaleDown (num den : Nat) (q : Int) : Nat × Nat :=
  (num * Nat.pow 2 (-q).toNat, den * Nat.pow 2 q.toNat)

/-- The least exponent for which `num / den` is below `2 ^ 53` units. -/
def exponentOf (num den : Nat) : Int :=
  let q := max (-1074) ((num.log2 : Int) - den.log2 - 53)
  let (n, d) := scaleDown num den q
  if n / d < Nat.pow 2 53 then q else q + 1

namespace Binary64

/-- The number nearest to `num / den`, with a sign; a number beyond the greatest is infinite. -/
def ofRatio (negative : Bool) (num den : Nat) : Binary64 :=
  if num = 0 then .finite negative 0 (-1074)
  else
    let q := exponentOf num den
    let (n, d) := scaleDown num den q
    let m := roundQuotient n d
    let (m, q) := if m < Nat.pow 2 53 then (m, q) else (Nat.pow 2 52, q + 1)
    if 971 < q then .infinite negative else .finite negative m q

/-- The number nearest to `digits · 10 ^ exponent`, with a sign. -/
def ofDecimal (negative : Bool) (digits : Nat) (exponent : Int) : Binary64 :=
  let size : Int := (decimal digits).length + exponent
  if digits = 0 ∨ size < -400 then .finite negative 0 (-1074)
  else if 400 < size then .infinite negative
  else ofRatio negative (digits * Nat.pow 10 exponent.toNat) (Nat.pow 10 (-exponent).toNat)

/-! ## Order -/

/-- Compares the sizes of two finite numbers. -/
def compareSize (m : Nat) (q : Int) (m' : Nat) (q' : Int) : Ordering :=
  (compare q q').then (compare m m')

/-- Compares two numbers; the two zeros are alike, and `nan` is greater than all numbers. -/
def compare : Binary64 → Binary64 → Ordering
  | nan, nan => .eq
  | nan, _ => .gt
  | _, nan => .lt
  | infinite n, infinite n' => if n = n' then .eq else if n then .lt else .gt
  | infinite n, _ => if n then .lt else .gt
  | _, infinite n => if n then .gt else .lt
  | finite n m q, finite n' m' q' =>
    if m = 0 ∧ m' = 0 then .eq
    else
      match n, n' with
      | false, false => compareSize m q m' q'
      | true, true => compareSize m' q' m q
      | true, false => .lt
      | false, true => .gt

end Binary64

end OriginGate.Number
