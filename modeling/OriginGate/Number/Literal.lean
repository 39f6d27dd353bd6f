import OriginGate.Number.Binary64

/-!
# Numbers as they are written

A number is written with decimal digits, at most one point among or beside them and an optional
exponent; `inf`, `infinity` and `nan` are written in any case. All may have a sign.
-/

namespace OriginGate.Number

open Text

/-- The value of a text of digits. -/
def digitsValue (cs : List Char) : Nat :=
  Nat.ofDigitChars 10 cs 0

/-- Splits a text into the digits that it starts with and the rest. -/
def takeDigits (cs : List Char) : List Char × List Char :=
  (cs.takeWhile Char.isDigit, cs.dropWhile Char.isDigit)

/-- Takes the sign that a text starts with: whether it is negative, and the rest. -/
def takeSign : List Char → Bool × List Char
  | '-' :: cs => (true, cs)
  | '+' :: cs => (false, cs)
  | cs => (false, cs)

/-- Reads an exponent, which may be absent. -/
def readExponent : List Char → Option Int
  | [] => some 0
  | c :: cs =>
    if c = 'e' ∨ c = 'E' then
      let (negative, digits) := takeSign cs
      if digits.isEmpty || !digits.all Char.isDigit then none
      else some (if negative then -(digitsValue digits : Int) else digitsValue digits)
    else none

/-- Reads a number without a sign. -/
def readUnsigned (negative : Bool) (cs : List Char) : Option Binary64 := do
  let (whole, rest) := takeDigits cs
  let (fraction, rest) := match rest with
    | '.' :: rest => takeDigits rest
    | _ => ([], rest)
  if whole.isEmpty && fraction.isEmpty then none
  else
    let exponent ← readExponent rest
    return .ofDecimal negative (digitsValue (whole ++ fraction)) (exponent - fraction.length)

def readBinary64 (cs : List Char) : Option Binary64 :=
  let (negative, rest) := takeSign cs
  let word := String.ofList (rest.map Char.toLower)
  if word = "inf" ∨ word = "infinity" then some (.infinite negative)
  else if word = "nan" then some .nan
  else readUnsigned negative rest

end OriginGate.Number
