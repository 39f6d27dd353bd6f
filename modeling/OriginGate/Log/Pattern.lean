import OriginGate.Text.Alphanumeric
import OriginGate.Text.Blank

/-!
# Patterns in log directives

A directive may compare a field with a regular expression. Whether a text is one is decided by
reading it once from left to right. Classes that need tables of all scripts, caseless matching of
all scripts, and whatever could match a part of a character only are no patterns. A closing brace
ends the field of a directive, so that no pattern holds one: a repetition count is never complete.
-/

namespace OriginGate.Log

open Text

namespace Pattern

/-- What the flags of a group set. -/
structure Flags where
  /-- Letters match in both cases. -/
  caseless : Bool := false
  /-- Characters count, not bytes. -/
  unicode : Bool := true
  /-- Blanks and comments between items do not count. -/
  spaced : Bool := false
  deriving DecidableEq, Repr

/-- Where an escaped item stands. -/
inductive Place where
  | text
  /-- In brackets. -/
  | bracket
  /-- In brackets, as the end of a range with the given start. -/
  | rangeEnd (low : Option Nat)
  deriving DecidableEq, Repr

/-- What is being read. -/
inductive Mode where
  /-- Items outside brackets; `repeatable` tells whether the latest may be repeated. -/
  | text (repeatable : Bool)
  /-- What follows a backslash. -/
  | escape (place : Place)
  /-- The number of a character, `left` digits of which are missing. -/
  | hex (left value : Nat) (place : Place) (byte : Bool)
  /-- The name of a group, latest character first. -/
  | name (reversed : List Char)
  /-- The flags of a group. -/
  | flags (seen : List Char) (negative : Bool) (inner : Flags)
  /-- What follows an opening bracket. -/
  | opening
  /-- The hyphens that brackets start with; `any` tells whether there was one. -/
  | hyphens (any : Bool)
  /-- Items in brackets. -/
  | bracket
  /-- What follows an item in brackets: a range if it starts with a character. -/
  | afterItem (low : Option Nat)
  /-- The end of a range. -/
  | rangeEnd (low : Option Nat)
  /-- Characters whose meaning is known already. -/
  | skip (more : Nat) (next : Mode)
  /-- A comment. -/
  | comment (next : Mode)
  deriving DecidableEq, Repr

/-- What is known of the text read. -/
structure State where
  flags : Flags := {}
  /-- The flags outside each open group, innermost first. -/
  groups : List Flags := []
  /-- The names of groups. -/
  names : List (List Char) := []
  /-- The number of open brackets. -/
  depth : Nat := 0
  mode : Mode := .text false
  deriving DecidableEq, Repr

/-! ## Items -/

/-- The state after an item outside brackets. -/
def State.item (s : State) : Option State :=
  some { s with mode := .text true }

/-- The state after a character that stands for itself. -/
def State.literal (s : State) (place : Place) (code : Nat) : Option State :=
  match place with
  | .text => if s.flags.caseless && s.flags.unicode then none else s.item
  | .bracket =>
    if !s.flags.unicode && 128 ≤ code then none
    else some { s with mode := .afterItem (some code) }
  | .rangeEnd none => none
  | .rangeEnd (some low) =>
    if code < low || (!s.flags.unicode && 128 ≤ code) then none
    else some { s with mode := .bracket }

/-- The state after an item of the given place that stands for several characters. -/
def State.several (s : State) : Place → Option State
  | .text => s.item
  | .bracket => some { s with mode := .afterItem none }
  | .rangeEnd _ => none

/-- The state after an item that stands for a position between characters. -/
def State.position (s : State) : Place → Option State
  | .text => s.item
  | _ => none

/-- Reads what follows a backslash. -/
def State.readEscape (s : State) (place : Place) (c : Char) : Option State :=
  if c = 'x' then some { s with mode := .hex 2 0 place true }
  else if c = 'u' then some { s with mode := .hex 4 0 place false }
  else if c = 'U' then some { s with mode := .hex 8 0 place false }
  else if c ∈ ['d', 's', 'w'] then if s.flags.unicode then none else s.several place
  else if c ∈ ['b', 'B', '<', '>'] then if s.flags.unicode then none else s.position place
  else if c ∈ ['A', 'z'] then s.position place
  else if c ∈ ['a', 'f', 't', 'n', 'r', 'v'] then s.literal place c.toNat
  else if c.isAlphanum || 128 ≤ c.toNat then none
  else s.literal place c.toNat

/-- The value of a hexadecimal digit. -/
def hexDigit? (c : Char) : Option Nat :=
  if c.isDigit then some (c.toNat - '0'.toNat)
  else if c.toLower.isLower && c.toLower ≤ 'f' then some (c.toLower.toNat - 'a'.toNat + 10)
  else none

/-- Reads a digit of the number of a character. -/
def State.readHex (s : State) (left value : Nat) (place : Place) (byte : Bool) (c : Char) :
    Option State := do
  let value := 16 * value + (← hexDigit? c)
  if 1 < left then some { s with mode := .hex (left - 1) value place byte }
  else if !value.isValidChar || (byte && !s.flags.unicode && 128 ≤ value) then none
  else s.literal place value

/-! ## Groups -/

/-- Opens a group with its flags. -/
def State.openGroup (s : State) (inner : Flags) : State :=
  { s with flags := inner, groups := s.flags :: s.groups, mode := .text false }

/-- Reads what follows an opening parenthesis. -/
def State.readGroup (s : State) (rest : List Char) : State :=
  if "?P<".toList.isPrefixOf rest then { s with mode := .skip 3 (.name []) }
  else if "?<".toList.isPrefixOf rest then { s with mode := .skip 2 (.name []) }
  else if "?".toList.isPrefixOf rest then { s with mode := .skip 1 (.flags [] false s.flags) }
  else s.openGroup s.flags

/-- Reads a character of the name of a group. -/
def State.readName (s : State) (reversed : List Char) (c : Char) : Option State :=
  if c = '>' then
    if reversed = [] || s.names.contains reversed then none
    else some { s.openGroup s.flags with names := reversed :: s.names }
  else if c = '_' || (isAlphanumeric c && !(reversed = [] && c.isDigit)) ||
      (reversed ≠ [] && c ∈ ['.', '[', ']']) then
    some { s with mode := .name (c :: reversed) }
  else none

/-- The flags with one set, if there is such a flag. -/
def Flags.set? (f : Flags) (c : Char) (on : Bool) : Option Flags :=
  if c = 'i' then some { f with caseless := on }
  else if c = 'u' then some { f with unicode := on }
  else if c = 'x' then some { f with spaced := on }
  else if c ∈ ['m', 's', 'U', 'R'] then some f
  else none

/-- Reads a character of the flags of a group. -/
def State.readFlag (s : State) (seen : List Char) (negative : Bool) (inner : Flags) (c : Char) :
    Option State :=
  if c = ':' ∨ c = ')' then
    if seen.head? = some '-' then none
    else if c = ':' then some (s.openGroup inner)
    else if seen = [] then none
    else some { s with flags := inner, mode := .text false }
  else if seen.contains c then none
  else if c = '-' then some { s with mode := .flags (c :: seen) true inner }
  else (inner.set? c (!negative)).map fun f => { s with mode := .flags (c :: seen) negative f }

/-! ## Brackets -/

/-- The names of the classes of ASCII characters. -/
def asciiClasses : List (List Char) :=
  ["alnum", "alpha", "ascii", "blank", "cntrl", "digit", "graph", "lower", "print", "punct",
    "space", "upper", "word", "xdigit"].map String.toList

/-- The length of the rest of a class of ASCII characters after its opening bracket. -/
def asciiClassLength? : List Char → Option Nat
  | ':' :: rest =>
    let named (cs : List Char) : Option Nat :=
      let name := cs.takeWhile (· ≠ ':')
      if asciiClasses.contains name && ":]".toList.isPrefixOf (cs.drop name.length) then
        some (name.length + 2)
      else none
    match rest with
    | '^' :: rest => (named rest).map (· + 2)
    | _ => (named rest).map (· + 1)
  | _ => none

/-- Opens a bracket. -/
def State.openBracket (s : State) : Option State :=
  if s.flags.caseless && s.flags.unicode then none
  else some { s with depth := s.depth + 1, mode := .opening }

/-- Reads an item in brackets. -/
def State.readItem (s : State) (c : Char) (rest : List Char) : Option State :=
  if c = '[' then
    match asciiClassLength? rest with
    | some n =>
      if !s.flags.unicode && rest[1]? = some '^' then none
      else some { s with mode := .skip n .bracket }
    | none => s.openBracket
  else if c = ']' then
    if s.depth ≤ 1 then { s with depth := 0 }.item
    else some { s with depth := s.depth - 1, mode := .bracket }
  else if (c = '&' ∨ c = '-' ∨ c = '~') ∧ rest.head? = some c then
    some { s with mode := .skip 1 .bracket }
  else if c = '\\' then some { s with mode := .escape .bracket }
  else s.literal .bracket c.toNat

/-- Reads a hyphen or the first item in brackets. -/
def State.readHyphen (s : State) (any : Bool) (c : Char) (rest : List Char) : Option State :=
  if c = '-' then some { s with mode := .hyphens true }
  else if c = ']' ∧ any = false then some { s with mode := .bracket }
  else s.readItem c rest

/-- Reads what follows an opening bracket. -/
def State.readOpening (s : State) (c : Char) (rest : List Char) : Option State :=
  if c = '^' then if s.flags.unicode then some { s with mode := .hyphens false } else none
  else s.readHyphen false c rest

/-- Reads what follows an item in brackets. -/
def State.readAfterItem (s : State) (low : Option Nat) (c : Char) (rest : List Char) :
    Option State :=
  if c = '-' ∧ rest.head? ≠ some ']' ∧ rest.head? ≠ some '-' then
    some { s with mode := .rangeEnd low }
  else s.readItem c rest

/-- Reads the end of a range. -/
def State.readRangeEnd (s : State) (low : Option Nat) (c : Char) : Option State :=
  if c = '\\' then some { s with mode := .escape (.rangeEnd low) }
  else s.literal (.rangeEnd low) c.toNat

/-! ## Texts -/

/-- Reads an item outside brackets. -/
def State.readText (s : State) (repeatable : Bool) (c : Char) (rest : List Char) :
    Option State :=
  if c = '(' then some (s.readGroup rest)
  else if c = ')' then
    match s.groups with
    | [] => none
    | outer :: groups => { s with flags := outer, groups }.item
  else if c = '|' then some { s with mode := .text false }
  else if c = '[' then s.openBracket
  else if c ∈ ['?', '*', '+'] then if repeatable then s.item else none
  else if c = '\x7b' then none
  else if c = '\\' then some { s with mode := .escape .text }
  else if c = '.' then if s.flags.unicode then s.item else none
  else if c ∈ ['^', '$'] then s.item
  else s.literal .text c.toNat

/-- Whether blanks and comments may stand before what is read. -/
def Mode.allowsBlanks : Mode → Bool
  | text _ | opening | hyphens _ | bracket | afterItem _ | rangeEnd _ => true
  | _ => false

/-- Reads a character before the rest of a text. -/
def State.step (s : State) (c : Char) (rest : List Char) : Option State :=
  if s.flags.spaced && s.mode.allowsBlanks && isBlank c then some s
  else if s.flags.spaced && s.mode.allowsBlanks && c = '#' then
    some { s with mode := .comment s.mode }
  else
    match s.mode with
    | .text repeatable => s.readText repeatable c rest
    | .escape place => s.readEscape place c
    | .hex left value place byte => s.readHex left value place byte c
    | .name reversed => s.readName reversed c
    | .flags seen negative inner => s.readFlag seen negative inner c
    | .opening => s.readOpening c rest
    | .hyphens any => s.readHyphen any c rest
    | .bracket => s.readItem c rest
    | .afterItem low => s.readAfterItem low c rest
    | .rangeEnd low => s.readRangeEnd low c
    | .skip more next => some { s with mode := if more ≤ 1 then next else .skip (more - 1) next }
    | .comment next => some { s with mode := if c = '\n' then next else .comment next }

/-- Whether a pattern may end here. -/
def State.complete (s : State) : Bool :=
  s.groups.isEmpty &&
    match s.mode with
    | .text _ | .comment (.text _) => true
    | _ => false

/-- Reads the rest of a text. -/
def State.accepts (s : State) : List Char → Bool
  | [] => s.complete
  | c :: rest =>
    match s.step c rest with
    | some s' => s'.accepts rest
    | none => false

end Pattern

/-- Whether a text is a pattern. -/
def isPattern (cs : List Char) : Bool :=
  Pattern.State.accepts {} cs

end OriginGate.Log
