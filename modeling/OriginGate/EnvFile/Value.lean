import OriginGate.Text.Alphanumeric
import OriginGate.Text.Blank

/-!
# The lines of an environment file as assignments

A logical line assigns a value to a name, `NAME=value`, with an optional `export` before it. The
value may be quoted in part or in whole. Outside single quotes a backslash escapes a few
characters and `$NAME` or a name in braces after the dollar sign stands for the value of another
variable. Outside quotes a blank ends the value and only a comment may follow.
-/

namespace OriginGate.EnvFile

open Text

/-! ## Values -/

/-- What is being read of a value. -/
inductive Mode where
  | text
  /-- The character after a backslash. -/
  | escape
  /-- Single quotes. -/
  | strong
  /-- The name after a dollar sign, latest character first. -/
  | name (reversed : List Char)
  /-- The name in braces after a dollar sign, latest character first. -/
  | braced (reversed : List Char)
  /-- What may follow the value. -/
  | ended
  deriving DecidableEq, Repr

/-- What an escaped character stands for. -/
def unescape? (c : Char) : Option Char :=
  if c = 'n' then some '\n'
  else if c = '\\' ∨ c = '\'' ∨ c = '"' ∨ c = '$' ∨ c = ' ' then some c
  else none

/-- Reads a value; `weak` tells whether double quotes are open, and `lookUp` gives the values of
names. -/
def readValue (lookUp : List Char → List Char) : Bool → Mode → List Char → Option (List Char)
  | weak, .text, [] => if weak then none else some []
  | weak, .escape, [] => if weak then none else some []
  | _, .strong, [] => none
  | weak, .name n, [] => if weak then none else some (lookUp n.reverse)
  | _, .braced _, [] => none
  | _, .ended, [] => some []
  | weak, .ended, c :: cs =>
    if c = ' ' ∨ c = '\t' then readValue lookUp weak .ended cs
    else if c = '#' then some []
    else none
  | weak, .escape, c :: cs =>
    match unescape? c with
    | some d => (readValue lookUp weak .text cs).map (d :: ·)
    | none => none
  | weak, .strong, c :: cs =>
    if c = '\'' then readValue lookUp weak .text cs
    else (readValue lookUp weak .strong cs).map (c :: ·)
  | weak, .name n, c :: cs =>
    if isAlphanumeric c then readValue lookUp weak (.name (c :: n)) cs
    else if c = '\x7b' ∧ n = [] then readValue lookUp weak (.braced []) cs
    else if c = '$' then (readValue lookUp weak (.name []) cs).map (lookUp n.reverse ++ ·)
    else (readValue lookUp weak .text cs).map (lookUp n.reverse ++ c :: ·)
  | weak, .braced n, c :: cs =>
    if c = '\x7d' then (readValue lookUp weak .text cs).map (lookUp n.reverse ++ ·)
    else readValue lookUp weak (.braced (c :: n)) cs
  | weak, .text, c :: cs =>
    if c = '$' then readValue lookUp weak (.name []) cs
    else if c = '\\' then readValue lookUp weak .escape cs
    else if c = '"' then readValue lookUp (!weak) .text cs
    else if weak then (readValue lookUp weak .text cs).map (c :: ·)
    else if c = '\'' then readValue lookUp weak .strong cs
    else if c = ' ' ∨ c = '\t' then readValue lookUp weak .ended cs
    else (readValue lookUp weak .text cs).map (c :: ·)

/-! ## Assignments -/

/-- Whether a name may start with the character. -/
def startsName (c : Char) : Bool :=
  c.isAlpha || c = '_'

/-- Whether a name may hold the character. -/
def isNameChar (c : Char) : Bool :=
  c.isAlphanum || c = '_' || c = '.'

/-- The name that a text starts with, and what follows it and blanks. -/
def readName (cs : List Char) : Option (List Char × List Char) :=
  if cs.head?.any startsName then
    some (cs.takeWhile isNameChar, trimStart (cs.dropWhile isNameChar))
  else none

/-- What follows an equals sign and blanks. -/
def afterEquals : List Char → Option (List Char)
  | '=' :: cs => some (trimStart cs)
  | _ => none

/-- The name of an assignment and the text of its value. -/
def readKey (cs : List Char) : Option (List Char × List Char) := do
  let (name, rest) ← readName cs
  match afterEquals rest with
  | some value => return (name, value)
  | none =>
    if name = "export".toList then
      let (name, rest) ← readName rest
      return (name, ← afterEquals rest)
    else none

inductive Statement where
  /-- Nothing. -/
  | blank
  | assignment (name value : String)
  | malformed
  deriving DecidableEq, Repr

/-- Whether nothing or a comment follows. -/
def isBlankOrComment (cs : List Char) : Bool :=
  cs.isEmpty || cs.head? = some '#'

def readLine (lookUp : List Char → List Char) (line : List Char) : Statement :=
  let cs := trimStart (trimEnd line)
  if isBlankOrComment cs then .blank
  else
    match readKey cs with
    | none => .malformed
    | some (name, rest) =>
      if isBlankOrComment rest then .assignment (String.ofList name) ""
      else
        match readValue lookUp false .text rest with
        | some value => .assignment (String.ofList name) (String.ofList value)
        | none => .malformed

end OriginGate.EnvFile
