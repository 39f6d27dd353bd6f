import OriginGate.Domain.Ascii
import OriginGate.Text.Utf8
import OriginGate.Url.Basic

/-!
# Reading the host of an address

A host is an IPv6 address in brackets, an IPv4 address in any of its numeric forms or a domain
name, which may be percent-encoded and international.

* `percentDecode?_of_not_mem`: a text without percent signs stands for itself.
-/

namespace OriginGate.Url

open Address Text

/-! ## Percent-encoding -/

/-- The value of a byte that is a hexadecimal digit. -/
def hexByte? (b : UInt8) : Option Nat :=
  if b < 0x80 then hexDigit? (Char.ofNat b.toNat) else none

/-- The bytes with every `%` and two hexadecimal digits replaced by the byte they stand for. -/
def percentDecodeBytes : List UInt8 → List UInt8
  | 0x25 :: a :: b :: rest =>
    match hexByte? a, hexByte? b with
    | some m, some n => (16 * m + n).toUInt8 :: percentDecodeBytes rest
    | _, _ => 0x25 :: percentDecodeBytes (a :: b :: rest)
  | b :: rest => b :: percentDecodeBytes rest
  | [] => []

/-- The text that a percent-encoded text stands for, if it is one. -/
def percentDecode? (cs : List Char) : Option (List Char) :=
  if '%' ∈ cs then Utf8.decode? (percentDecodeBytes (Utf8.encode cs)) else some cs

theorem percentDecode?_of_not_mem {cs : List Char} (h : '%' ∉ cs) :
    percentDecode? cs = some cs :=
  if_neg h

/-! ## IPv4 addresses in numeric forms -/

/-- Whether the character is an octal digit. -/
def isOctalDigit (c : Char) : Bool :=
  '0' ≤ c && c ≤ '7'

/-- The number that digits of the base write. -/
def numberInBase (base : Nat) (digits : List Char) : Nat :=
  digits.foldl (fun n c => base * n + (hexDigit? c).getD 0) 0

/-- The number that a part of a numeric address writes: hexadecimal after `0x`, octal after `0`,
else decimal. -/
def v4Number? (cs : List Char) : Option Nat :=
  match cs with
  | [] => none
  | '0' :: 'x' :: digits | '0' :: 'X' :: digits =>
    if digits.all (hexDigit? · |>.isSome) then some (numberInBase 16 digits) else none
  | '0' :: d :: digits =>
    if (d :: digits).all isOctalDigit then some (numberInBase 8 (d :: digits)) else none
  | digits => if digits.all Char.isDigit then some (numberInBase 10 digits) else none

/-- The parts between dots; a dot at the end is passed over. -/
def dotParts (cs : List Char) : List (List Char) :=
  let parts := split '.' cs
  if 1 < parts.length ∧ parts.getLast? = some [] then parts.dropLast else parts

/-- Whether the last part is meant as a number. -/
def endsInNumber (cs : List Char) : Bool :=
  match (dotParts cs).getLast? with
  | some last => (!last.isEmpty && last.all Char.isDigit) || (v4Number? last).isSome
  | none => false

/-- The address that up to four numbers write: the last fills all octets not yet given. -/
def v4OfNumbers? (numbers : List Nat) : Option V4 :=
  let leading := numbers.dropLast
  match numbers.getLast? with
  | some last =>
    let range := Nat.pow 256 (4 - leading.length)
    if leading.length ≤ 3 ∧ leading.all (· ≤ 255) ∧ last < range then
      some (.ofNat (leading.foldl (fun n m => 256 * n + m) 0 * range + last))
    else none
  | none => none

/-- The IPv4 address that a text in numeric form writes. -/
def v4OfText? (cs : List Char) : Option V4 :=
  match (dotParts cs).mapM v4Number? with
  | some numbers => v4OfNumbers? numbers
  | none => none

/-! ## Hosts -/

/-- The IPv6 address between brackets, of a text that starts with one. -/
def bracketed (cs : List Char) : Except Fault Host :=
  if cs.getLast? = some ']' then
    match V6.ofText? cs.tail.dropLast with
    | some x => .ok (.v6 x)
    | none => .error .invalidV6
  else .error .invalidV6

/-- The host that a domain name in ASCII names: one that ends in a number is an IPv4 address. -/
def hostOfAscii (name : List Char) : Except Fault Host :=
  if name.isEmpty then .error .emptyHost
  else if endsInNumber name then
    match v4OfText? name with
    | some x => .ok (.v4 x)
    | none => .error .invalidV4
  else .ok (.domain name)

/-- The host of an address whose scheme is known. -/
def readHost (cs : List Char) : Except Fault Host :=
  if cs.head? = some '[' then bracketed cs
  else
    match (percentDecode? cs).bind Domain.toAscii? with
    | some name => hostOfAscii name
    | none => .error .invalidDomain

/-- Whether the host of an unknown scheme may not hold the character. -/
def isForbiddenInOpaque (c : Char) : Bool :=
  "\x00\t\n\r #/:<>?@[\\]^|".toList.contains c

/-- The host of an address whose scheme is not known. -/
def readOpaqueHost (cs : List Char) : Except Fault Host :=
  if cs.head? = some '[' then bracketed cs
  else if cs.any isForbiddenInOpaque then .error .invalidHostCharacter
  else .ok (.domain cs)

end OriginGate.Url
