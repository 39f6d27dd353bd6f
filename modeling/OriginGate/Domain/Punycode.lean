/-!
# Writing a label in ASCII

A label that holds characters outside ASCII is written with its ASCII characters first and then,
as numbers in base 36 of variable length, the places and codes of the others in increasing order
of code (Punycode). `encode` writes that form and `decode?` reads it.

* `threshold_pos`: the bound that makes the numbers end.
-/

namespace OriginGate.Domain.Punycode

/-! ## Digits and thresholds -/

/-- The digit for a value below 36: letters first, then digits. -/
def digit (v : Nat) : Char :=
  if v < 26 then Char.ofNat ('a'.toNat + v) else Char.ofNat ('0'.toNat + (v - 26))

/-- The value of a digit. -/
def value? (c : Char) : Option Nat :=
  if 'a' ≤ c ∧ c ≤ 'z' then some (c.toNat - 'a'.toNat)
  else if 'A' ≤ c ∧ c ≤ 'Z' then some (c.toNat - 'A'.toNat)
  else if '0' ≤ c ∧ c ≤ '9' then some (c.toNat - '0'.toNat + 26)
  else none

/-- A digit below the threshold of its place ends a number. -/
def threshold (place bias : Nat) : Nat :=
  if place ≤ bias then 1 else if bias + 26 ≤ place then 26 else place - bias

theorem threshold_pos (place bias : Nat) : 1 ≤ threshold place bias := by
  unfold threshold
  split
  · exact Nat.le_refl 1
  · split <;> omega

/-- Divides by 35 until the rest is small, counting 36 for each division. -/
def reduce (delta count : Nat) : Nat × Nat :=
  if 455 < delta then reduce (delta / 35) (count + 36) else (delta, count)
termination_by delta
decreasing_by exact Nat.div_lt_self (by omega) (by omega)

/-- The bias after a number, from the number and the count of characters written so far. -/
def adapt (delta size : Nat) (isFirst : Bool) : Nat :=
  let scaled := if isFirst then delta / 700 else delta / 2
  let (rest, count) := reduce (scaled + scaled / size) 0
  count + 36 * rest / (rest + 38)

/-! ## Writing -/

/-- The digits of a number, from the given place on. -/
def numberDigits (bias place n : Nat) : List Char :=
  if n < threshold place bias then [digit n]
  else
    digit (threshold place bias + (n - threshold place bias) % (36 - threshold place bias)) ::
      numberDigits bias (place + 36)
        ((n - threshold place bias) / (36 - threshold place bias))
termination_by n
decreasing_by
  have h := threshold_pos place bias
  exact Nat.lt_of_le_of_lt (Nat.div_le_self _ _) (by omega)

/-- What is known between two numbers while writing. -/
structure Writer where
  /-- The digits so far, latest first. -/
  output : List Char
  /-- The distance to the next place. -/
  delta : Nat
  bias : Nat
  /-- How many characters are written. -/
  handled : Nat

/-- Passes one character of the label while those of code `code` are being written. -/
def Writer.pass (basicCount code : Nat) (w : Writer) (c : Char) : Writer :=
  if c.toNat < code then { w with delta := w.delta + 1 }
  else if c.toNat = code then
    { output := (numberDigits w.bias 36 w.delta).reverse ++ w.output
      delta := 0
      bias := adapt w.delta (w.handled + 1) (w.handled = basicCount)
      handled := w.handled + 1 }
  else w

/-- Writes the characters of each code in turn; `next` is the least code not yet passed. -/
def writeCodes (label : List Char) (basicCount : Nat) : List Nat → Nat → Writer → Writer
  | [], _, w => w
  | code :: codes, next, w =>
    let start := { w with delta := w.delta + (code - next) * (w.handled + 1) }
    let passed := label.foldl (Writer.pass basicCount code) start
    writeCodes label basicCount codes (code + 1) { passed with delta := passed.delta + 1 }

/-- Whether a character is ASCII. -/
def isBasic (c : Char) : Bool :=
  c.toNat < 0x80

/-- The ASCII form of a label, without the mark that it is one. -/
def encode (label : List Char) : List Char :=
  let basic := label.filter isBasic
  let codes := ((label.filter (! isBasic ·)).map Char.toNat).mergeSort.eraseDups
  let start : Writer := { output := [], delta := 0, bias := 72, handled := basic.length }
  let written := (writeCodes label basic.length codes 0x80 start).output.reverse
  if basic.isEmpty then written else basic ++ '-' :: written

/-! ## Reading -/

/-- What is known while reading. -/
structure Reader where
  /-- The characters so far. -/
  output : List Char
  /-- The code of the latest character. -/
  code : Nat
  /-- The place so far, counted through all codes passed. -/
  index : Nat
  /-- The place when the current number began. -/
  start : Nat
  bias : Nat
  /-- The weight of the next digit. -/
  weight : Nat
  /-- The place of the next digit, in steps of 36. -/
  place : Nat

/-- The start of a number after a character. -/
def Reader.begin (output : List Char) (code index bias : Nat) : Reader :=
  { output, code, index, start := index, bias, weight := 1, place := 36 }

/-- Reads one digit; a digit below the threshold ends the number and inserts a character. -/
def Reader.step? (r : Reader) (c : Char) : Option Reader := do
  let v ← value? c
  let index := r.index + v * r.weight
  if v < threshold r.place r.bias then
    let size := r.output.length + 1
    let code := r.code + index / size
    if code.isValidChar then
      return .begin (r.output.insertIdx (index % size) (Char.ofNat code)) code (index % size + 1)
        (adapt (index - r.start) size (r.start = 0))
    else none
  else
    return { r with
      index
      weight := r.weight * (36 - threshold r.place r.bias)
      place := r.place + 36 }

/-- Reads digits; a number may not be left open at the end. -/
def Reader.run? (r : Reader) : List Char → Option (List Char)
  | [] => if r.place = 36 then some r.output else none
  | c :: cs => (r.step? c).bind fun r' => r'.run? cs

/-- The ASCII characters before the last hyphen, and the digits after it. A hyphen in the first
place belongs to the digits. -/
def parts (text : List Char) : List Char × List Char :=
  let digits := (text.reverse.takeWhile (· ≠ '-')).reverse
  let basic := (text.reverse.dropWhile (· ≠ '-')).reverse.dropLast
  if basic.isEmpty then ([], text) else (basic, digits)

/-- The label whose ASCII form this is. -/
def decode? (text : List Char) : Option (List Char) :=
  let (basic, digits) := parts text
  if basic.all isBasic then (Reader.begin basic 0x80 0 72).run? digits else none

end OriginGate.Domain.Punycode
