import OriginGate.Address.V4
import OriginGate.Text.SpanTable

/-!
# IPv6 addresses

An address of eight pieces of 16 bits. A text gives the pieces in hexadecimal with colons
between them; `::` stands for one or more zero pieces, and the last two pieces may be written as
an IPv4 address. The canonical text replaces the first of the longest runs of at least two zero
pieces.
-/

namespace OriginGate.Address

open Text

structure V6 where
  pieces : List UInt16
  length_eq : pieces.length = 8
  deriving DecidableEq, Repr

namespace V6

/-! ## Reading -/

/-- A piece of one to four hexadecimal digits. -/
def piece? (cs : List Char) : Option UInt16 :=
  if !cs.isEmpty && cs.length ≤ 4 && cs.all (hexDigit? · |>.isSome) then
    some (hexNumber cs).toUInt16
  else none

/-- The two pieces that hold an IPv4 address. -/
def piecesOfV4 (x : V4) : List UInt16 :=
  [(x.a.toNat * 256 + x.b.toNat).toUInt16, (x.c.toNat * 256 + x.d.toNat).toUInt16]

/-- The pieces that the texts between colons write; the last text may be an IPv4 address. -/
def pieces? : List (List Char) → Option (List UInt16)
  | [] => some []
  | [t] =>
    match piece? t with
    | some p => some [p]
    | none => (V4.ofText? t).map piecesOfV4
  | t :: ts => do return (← piece? t) :: (← pieces? ts)

/-- The pieces that the texts between colons write, none of them an IPv4 address. -/
def plainPieces? (ts : List (List Char)) : Option (List UInt16) :=
  ts.mapM piece?

/-- The texts before and after the first `::`, if there is one. -/
def cutGap : List Char → Option (List Char × List Char)
  | [] => none
  | ':' :: ':' :: cs => some ([], cs)
  | c :: cs => (cutGap cs).map fun (l, r) => (c :: l, r)

/-- The texts between colons; the empty text has none. -/
def colonTexts (cs : List Char) : List (List Char) :=
  if cs.isEmpty then [] else split ':' cs

/-- The address with these pieces, if they are eight. -/
def ofPieces? (ps : List UInt16) : Option V6 :=
  if h : ps.length = 8 then some ⟨ps, h⟩ else none

/-- The address that a text writes. -/
def ofText? (cs : List Char) : Option V6 :=
  match cutGap cs with
  | none => (pieces? (split ':' cs)).bind ofPieces?
  | some (l, r) => do
    let front ← plainPieces? (colonTexts l)
    let back ← pieces? (colonTexts r)
    if front.length + back.length ≤ 7 then
      ofPieces? (front ++ List.replicate (8 - front.length - back.length) 0 ++ back)
    else none

/-! ## Writing -/

/-- A piece in hexadecimal without leading zeros. -/
def pieceText (p : UInt16) : List Char :=
  Nat.toDigits 16 p.toNat

/-- How many zero pieces come first. -/
def zeroRun (ps : List UInt16) : Nat :=
  (ps.takeWhile (· = 0)).length

/-- The start and the length of the first of the longest runs of zero pieces; `i` pieces come
before these. -/
def longestZeroRun (i : Nat) : List UInt16 → Nat × Nat
  | [] => (i, 0)
  | p :: ps =>
    let here := zeroRun (p :: ps)
    let later := longestZeroRun (i + 1) ps
    if later.2 ≤ here then (i, here) else later

/-- Pieces with colons between them. -/
def renderPieces (ps : List UInt16) : List Char :=
  join [':'] (ps.map pieceText)

/-- The canonical text. -/
def render (x : V6) : List Char :=
  let (start, length) := longestZeroRun 0 x.pieces
  if 2 ≤ length then
    renderPieces (x.pieces.take start) ++ [':', ':'] ++
      renderPieces (x.pieces.drop (start + length))
  else renderPieces x.pieces

/-- The IPv4 address that the address maps, if it is of that kind. -/
def mappedV4? (x : V6) : Option V4 :=
  match x.pieces with
  | [0, 0, 0, 0, 0, 0xFFFF, g, h] => some (.ofNat (g.toNat * 65536 + h.toNat))
  | _ => none

/-- The text of the address where a mapped IPv4 address is shown as such. -/
def display (x : V6) : List Char :=
  match x.mappedV4? with
  | some v4 => "::ffff:".toList ++ v4.render
  | none => x.render

end V6

end OriginGate.Address
