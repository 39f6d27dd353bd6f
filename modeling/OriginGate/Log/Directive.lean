import OriginGate.Log.Level
import OriginGate.Log.Pattern
import OriginGate.Number.Literal
import OriginGate.Number.Shortest
import OriginGate.Text.Quoted
import OriginGate.Text.Split
import OriginGate.Text.Utf8

/-!
# Log directives

A directive sets a threshold for the records of a target, in a span, with some fields:
`target[span\x7bfield=value\x7d]=level`, where all parts are optional. It is scanned without the
blanks around it, but its parts are cut at the offsets found from the text with these blanks.
-/

namespace OriginGate.Log

open Text Number

/-! ## Fields -/

/-- What a field is compared with. -/
inductive Expected where
  | truth (b : Bool)
  | number (x : Binary64)
  | natural (n : Nat)
  | integer (n : Int)
  | pattern (cs : List Char)
  deriving DecidableEq, Repr

namespace Expected

/-- Reads what a field is compared with: the first kind that the text fits. -/
def read? (cs : List Char) : Option Expected :=
  if cs = "true".toList then some (truth true)
  else if cs = "false".toList then some (truth false)
  else
    match natural? 18446744073709551615 cs, integer? 9223372036854775808 9223372036854775807 cs,
      readBinary64 cs with
    | .ok n, _, _ => some (natural n)
    | _, .ok n, _ => some (integer n)
    | _, _, some x => some (number x)
    | _, _, none => if isPattern cs then some (pattern cs) else none

/-- The text of what a field is compared with. -/
def text : Expected → List Char
  | truth true => "true".toList
  | truth false => "false".toList
  | number x => x.text
  | natural n => decimal n
  | integer n => if n < 0 then '-' :: decimal n.natAbs else decimal n.natAbs
  | pattern cs => cs

/-- The place of the kind in the order of kinds. -/
def rank : Expected → Nat
  | truth _ => 0
  | number _ => 1
  | natural _ => 2
  | integer _ => 3
  | pattern _ => 4

/-- Compares by kind, and then by value. -/
def compare : Expected → Expected → Ordering
  | truth a, truth b => Ord.compare a b
  | number x, number y => x.compare y
  | natural m, natural n => Ord.compare m n
  | integer m, integer n => Ord.compare m n
  | pattern a, pattern b => Ord.compare a b
  | a, b => Ord.compare a.rank b.rank

end Expected

/-- A condition on a field: that it is there, or that it has a value. -/
structure FieldTest where
  name : List Char
  value : Option Expected
  deriving DecidableEq, Repr

/-- Compares two optional things, of which an absent one comes first. -/
def compareOptional {α : Type} (cmp : α → α → Ordering) : Option α → Option α → Ordering
  | none, none => .eq
  | none, some _ => .lt
  | some _, none => .gt
  | some a, some b => cmp a b

namespace FieldTest

/-- Reads a condition: a name, and a value after an equals sign. -/
def read? (cs : List Char) : Option FieldTest :=
  match split '=' cs with
  | name :: value :: _ => (Expected.read? value).map fun v => ⟨name, some v⟩
  | name :: [] => some ⟨name, none⟩
  | [] => none

def text (t : FieldTest) : List Char :=
  match t.value with
  | some v => t.name ++ '=' :: v.text
  | none => t.name

/-- Compares two conditions; those with a value are greater. -/
def compare (s t : FieldTest) : Ordering :=
  ((Ord.compare s.value.isSome t.value.isSome).then (Ord.compare s.name t.name)).then
    (compareOptional Expected.compare s.value t.value)

end FieldTest

/-! ## Directives -/

structure Directive where
  /-- What the targets of the records start with. -/
  target : Option (List Char) := none
  /-- The name of a span around the records. -/
  span : Option (List Char) := none
  fields : List FieldTest := []
  threshold : Threshold := .level .trace
  deriving DecidableEq, Repr

/-- Why a text is no directive. -/
inductive DirectiveFault where
  | malformed
  /-- The start or the end of a part, at a byte offset, is inside a character. -/
  | insideCharacter (edge : String) (offset : Nat) (c : Char) (start : Nat)
  deriving DecidableEq, Repr

def DirectiveFault.message : DirectiveFault → String
  | malformed => "invalid filter directive"
  | insideCharacter edge offset c start =>
    edge ++ " byte index " ++ decimalString offset ++ " is not a char boundary; it is inside '" ++
      String.ofList (escapeChar c) ++ "' (bytes " ++ decimalString start ++ ".." ++
      decimalString (start + c.utf8Size) ++ " of string)"

/-- Cuts a text at a byte offset: what is before and what is after, or the character that the
offset is inside of with its own offset. -/
def cut (offset : Nat) (done : Nat) : List Char → Except (Char × Nat) (List Char × List Char)
  | [] => .ok ([], [])
  | c :: cs =>
    if offset ≤ done then .ok ([], c :: cs)
    else if offset < done + c.utf8Size then .error (c, done)
    else (cut offset (done + c.utf8Size) cs).map fun (before, after) => (c :: before, after)

/-- The part of a text between two byte offsets. -/
def part (text : List Char) (start stop : Nat) : Except DirectiveFault (List Char) := do
  let edge (name : String) (offset : Nat) : Except DirectiveFault (List Char × List Char) :=
    (cut offset 0 text).mapError fun (c, at') => .insideCharacter name offset c at'
  let (before, _) ← edge "start" start
  let (within, _) ← edge "end" stop
  return within.drop before.length

/-- What is being scanned, with the offset where it starts. -/
inductive Scan where
  | beginning
  | levelOrTarget (start : Nat)
  | span (start : Nat)
  | field (start : Nat)
  /-- What follows the fields. -/
  | closing
  /-- What follows the spans. -/
  | afterTarget
  | level (start : Nat)
  deriving DecidableEq, Repr

/-- Whether a directive may start with the character, if not with a span. -/
def startsDirective (c : Char) : Bool :=
  c = '-' || c = ':' || c = '_' || isAlphanumeric c

/-- Scans a character at an offset. -/
def Scan.step (text : List Char) (d : Directive) (offset : Nat) (c : Char) :
    Scan → Except DirectiveFault (Directive × Scan)
  | beginning =>
    if c = '[' then .ok (d, span (offset + 1))
    else if startsDirective c then .ok (d, levelOrTarget offset)
    else .error .malformed
  | levelOrTarget start =>
    if c = '=' then do
      return ({ d with target := some (← part text start offset) }, level (offset + 1))
    else if c = '[' then do
      return ({ d with target := some (← part text start offset) }, span (offset + 1))
    else .ok (d, levelOrTarget start)
  | span start =>
    if c = ']' then do
      return ({ d with span := some (← part text start offset) }, afterTarget)
    else if c = '\x7b' then do
      let name ← part text start offset
      return ({ d with span := if name.isEmpty then none else some name }, field (offset + 1))
    else .ok (d, span start)
  | field start =>
    if c = '\x7d' then do
      let cs ← part text start offset
      if cs.isEmpty then throw .malformed
      match FieldTest.read? cs with
      | some t => return ({ d with fields := d.fields ++ [t] }, closing)
      | none => throw .malformed
    else .ok (d, field start)
  | closing => if c = ']' then .ok (d, afterTarget) else .error .malformed
  | afterTarget => if c = '=' then .ok (d, level (offset + 1)) else .error .malformed
  | level start => .ok (d, level start)

/-- Ends the scan of a directive. -/
def Scan.finish (text : List Char) (d : Directive) : Scan → Except DirectiveFault Directive
  | levelOrTarget start => do
    let cs ← part text start (Utf8.size text)
    match Threshold.read? cs with
    | some t => return { d with threshold := t }
    | none => return { d with target := if cs.isEmpty then none else some cs }
  | level start => do
    let cs ← part text start (Utf8.size text)
    if cs.isEmpty then return d
    match Threshold.read? cs with
    | some t => return { d with threshold := t }
    | none => throw .malformed
  | afterTarget => .ok d
  | _ => .error .malformed

/-- Scans the rest of a directive. -/
def Scan.run (text : List Char) (d : Directive) (s : Scan) (offset : Nat) :
    List Char → Except DirectiveFault Directive
  | [] => s.finish text d
  | c :: cs => do
    let (d, s) ← s.step text d offset c
    s.run text d (offset + c.utf8Size) cs

namespace Directive

def read (text : List Char) : Except DirectiveFault Directive :=
  Scan.beginning.run text {} 0 (trim text)

/-- The text of the span and the fields. -/
def scopeText (span : Option (List Char)) (fields : List (List Char)) : List Char :=
  if span.isNone && fields.isEmpty then []
  else
    '[' :: span.getD [] ++
      (if fields.isEmpty then [] else '\x7b' :: join [','] fields ++ ['\x7d']) ++ [']']

/-- The text of a threshold for a target and a scope; `any` tells whether there are any. -/
def compose (any : Bool) (target scope : List Char) (t : Threshold) : List Char :=
  target ++ scope ++ (if any then ['='] else []) ++ t.name.toList

def text (d : Directive) : List Char :=
  let scope := scopeText d.span (d.fields.map FieldTest.text)
  compose (d.target.isSome || !scope.isEmpty) (d.target.getD []) scope d.threshold

/-- Compares how specific two directives are; the more specific one comes first. -/
def compare (a b : Directive) : Ordering :=
  let order :=
    (compareOptional Ord.compare (a.target.map Utf8.size) (b.target.map Utf8.size)).then <|
    (Ord.compare a.span.isSome b.span.isSome).then <|
    (Ord.compare a.fields.length b.fields.length).then <|
    (compareOptional Ord.compare a.target b.target).then <|
    (compareOptional Ord.compare a.span b.span).then <|
    List.compareLex FieldTest.compare a.fields b.fields
  order.swap

end Directive

end OriginGate.Log
