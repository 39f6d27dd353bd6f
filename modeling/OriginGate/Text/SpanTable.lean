import OriginGate.Text.Split

/-!
# Tables over ranges of characters

Properties of characters are constant on long ranges. A `SpanTable` holds disjoint ranges in
increasing order, each with a value; `SpanTable.find?` finds the range of a character by
halving. A table is written as text: words separated by blanks, each a hexadecimal number or
two with a hyphen, and a colon before the value where there is one.
-/

namespace OriginGate.Text

/-- The characters from `first` to `last`, with a value. -/
structure Span (α : Type) where
  first : Nat
  last : Nat
  value : α

/-- Disjoint spans in increasing order. -/
structure SpanTable (α : Type) where
  spans : Array (Span α)

namespace SpanTable

variable {α : Type}

/-- Among the spans from `lo` up to but without `hi`, the index after the last that starts at or
before `n`. -/
def upperIndex (spans : Array (Span α)) (n lo hi : Nat) : Nat :=
  if lo < hi then
    match spans[(lo + hi) / 2]? with
    | some s =>
      if s.first ≤ n then upperIndex spans n ((lo + hi) / 2 + 1) hi
      else upperIndex spans n lo ((lo + hi) / 2)
    | none => lo
  else lo
termination_by hi - lo

/-- The span that holds a code point. -/
def find? (t : SpanTable α) (n : Nat) : Option (Span α) :=
  match upperIndex t.spans n 0 t.spans.size with
  | 0 => none
  | i + 1 => t.spans[i]?.filter fun s => s.first ≤ n && n ≤ s.last

/-- Whether some span holds the character. -/
def contains (t : SpanTable α) (c : Char) : Bool :=
  (t.find? c.toNat).isSome

end SpanTable

/-! ## Tables written as text -/

/-- The value of a hexadecimal digit of either case. -/
def hexDigit? (c : Char) : Option Nat :=
  if '0' ≤ c ∧ c ≤ '9' then some (c.toNat - '0'.toNat)
  else if 'a' ≤ c ∧ c ≤ 'f' then some (c.toNat - 'a'.toNat + 10)
  else if 'A' ≤ c ∧ c ≤ 'F' then some (c.toNat - 'A'.toNat + 10)
  else none

/-- The number that hexadecimal digits write; other characters count as zero. -/
def hexNumber (cs : List Char) : Nat :=
  cs.foldl (fun n c => 16 * n + (hexDigit? c).getD 0) 0

/-- The words of a text. -/
def words (text : String) : List (List Char) :=
  (split ' ' (text.toList.map fun c => if c = '\n' then ' ' else c)).filter (! ·.isEmpty)

/-- The part before the first separator and the part after it. -/
def cut (sep : Char) (cs : List Char) : List Char × List Char :=
  (cs.takeWhile (· ≠ sep), (cs.dropWhile (· ≠ sep)).drop 1)

/-- The first and the last number of a range; one number is a range by itself. -/
def rangeBounds (word : List Char) : Nat × Nat :=
  match cut '-' word with
  | (a, []) => (hexNumber a, hexNumber a)
  | (a, b) => (hexNumber a, hexNumber b)

namespace SpanTable

/-- The table that a text writes, its values read by `value`. -/
def ofText {α : Type} (value : List Char → α) (text : String) : SpanTable α :=
  ⟨((words text).map fun word =>
    let (key, rest) := cut ':' word
    let (first, last) := rangeBounds key
    { first, last, value := value rest }).toArray⟩

/-- A set of characters: the table without values. -/
def setOfText (text : String) : SpanTable Unit :=
  ofText (fun _ => ()) text

end SpanTable

end OriginGate.Text
