import OriginGate.Number.Binary64

/-!
# The shortest decimal text of a number

A finite number is written with the fewest digits that read back as it; of two texts with so few
digits the nearer one is taken. The text is positional, however large or small the number is, and
a whole number has no point.
-/

namespace OriginGate.Number

open Text

/-! ## Digits -/

/-- The two sides of a comparison of `d · 10 ^ k` with `x · 2 ^ u`, as whole numbers. -/
def crossed (d : Nat) (k : Int) (x : Nat) (u : Int) : Nat × Nat :=
  (d * Nat.pow 10 k.toNat * Nat.pow 2 (-u).toNat,
    x * Nat.pow 2 u.toNat * Nat.pow 10 (-k).toNat)

/-- The greatest `d` for which `d · 10 ^ k` is at most `x · 2 ^ u`. -/
def wholeUnits (x : Nat) (u k : Int) : Nat :=
  let (unit, value) := crossed 1 k x u
  value / unit

/-- The `e` for which a positive `x · 2 ^ u` lies between `10 ^ e` and `10 ^ (e + 1)`. -/
def decimalExponent (x : Nat) (u : Int) : Int :=
  ((decimal (wholeUnits x u (-400))).length : Int) - 401

/-- Whether `d · 10 ^ k` is rounded to `m · 2 ^ q`. -/
def readsBack (m : Nat) (q : Int) (d : Nat) (k : Int) : Bool :=
  let below := if m = Nat.pow 2 52 ∧ -1074 < q then 4 * m - 1 else 4 * m - 2
  let (low, value) := (crossed d k below (q - 2)).swap
  let (value', high) := crossed d k (4 * m + 2) (q - 2)
  if m % 2 = 0 then low ≤ value && value' ≤ high else low < value && value' < high

/-- The number with `n` digits next to `m · 2 ^ q` that reads back as it, if there is one. -/
def digitsOfLength? (m : Nat) (q : Int) (n : Nat) : Option (Nat × Int) :=
  let k := decimalExponent m q - n + 1
  let d := wholeUnits m q k
  match readsBack m q d k, readsBack m q (d + 1) k with
  | true, true =>
    let (middle, value) := crossed (2 * d + 1) k (2 * m) q
    some (if value ≤ middle then d else d + 1, k)
  | true, false => some (d, k)
  | false, true => some (d + 1, k)
  | false, false => none

/-- The fewest digits that read back as `m · 2 ^ q`, with the exponent of the last one. -/
def shortestDigits (m : Nat) (q : Int) : Nat × Int :=
  ((List.range' 1 17).findSome? (digitsOfLength? m q)).getD (0, 0)

/-! ## Text -/

/-- The positional text of `d · 10 ^ k`. -/
def positional (d : Nat) (k : Int) : List Char :=
  if 0 ≤ k then decimal d ++ List.replicate k.toNat '0'
  else
    let places := (-k).toNat
    let digits := decimal d
    let padded := List.replicate (places + 1 - digits.length) '0' ++ digits
    let whole := padded.take (padded.length - places)
    let fraction := (padded.drop (padded.length - places)).reverse.dropWhile (· = '0')
    if fraction.isEmpty then whole else whole ++ '.' :: fraction.reverse

def Binary64.text : Binary64 → List Char
  | .nan => "NaN".toList
  | .infinite negative => (if negative then ['-'] else []) ++ "inf".toList
  | .finite negative m q =>
    let (d, k) := if m = 0 then (0, 0) else shortestDigits m q
    (if negative then ['-'] else []) ++ positional d k

end OriginGate.Number
