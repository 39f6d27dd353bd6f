import OriginGate.Text.Blank
import OriginGate.Text.Utf8

/-!
# The lines of an environment file

A logical line of an environment file goes on to the next line of the file while a quote is open.
`logicalLines` cuts a file into its logical lines, each without its line end or up to its comment;
it ends where the bytes are no text or where the file ends inside a quote, after a blank or after a
backslash.
-/

namespace OriginGate.EnvFile

open Text

/-! ## Lines of the file -/

/-- The lines of a file with their ends; the last may have none. -/
def physicalLines : List UInt8 → List (List UInt8)
  | [] => []
  | b :: bs =>
    if b = 0x0A then [b] :: physicalLines bs
    else
      match physicalLines bs with
      | [] => [[b]]
      | l :: ls => (b :: l) :: ls

/-- The content of a file without the mark of its encoding. -/
def withoutMark (bs : List UInt8) : List UInt8 :=
  if bs.take 3 = [0xEF, 0xBB, 0xBF] then bs.drop 3 else bs

/-! ## Where a logical line ends -/

/-- What is open after a part of a logical line. -/
inductive Scan where
  /-- Nothing: the line may end here. -/
  | complete
  /-- A blank, after which a comment may start. -/
  | blank
  /-- A backslash outside quotes. -/
  | escape
  /-- Double quotes. -/
  | weak
  /-- A backslash in double quotes. -/
  | weakEscape
  /-- Single quotes. -/
  | strong
  /-- A backslash in single quotes. -/
  | strongEscape
  deriving DecidableEq, Repr

/-- What is open after a character outside quotes. -/
def Scan.open (c : Char) (otherwise : Scan) : Scan :=
  if c = '\\' then escape
  else if c = '"' then weak
  else if c = '\'' then strong
  else otherwise

/-- What is open after one more character, `none` where a comment starts. -/
def Scan.step? (s : Scan) (c : Char) : Option Scan :=
  match s with
  | complete =>
    if isBlank c && c ≠ '\n' && c ≠ '\r' then some blank else some (Scan.open c complete)
  | blank => if c = '#' then none else some (Scan.open c complete)
  | escape => some complete
  | weak => some (if c = '\\' then weakEscape else if c = '"' then complete else weak)
  | weakEscape => some weak
  | strong => some (if c = '\\' then strongEscape else if c = '\'' then complete else strong)
  | strongEscape => some strong

/-- What is open after a line of the file; or the text before a comment. -/
def Scan.run (s : Scan) : List Char → Except (List Char) Scan
  | [] => .ok s
  | c :: cs =>
    match s.step? c with
    | none => .error []
    | some s' =>
      match s'.run cs with
      | .ok t => .ok t
      | .error before => .error (c :: before)

/-! ## Logical lines -/

/-- The text without the line end that it may have. -/
def dropLineEnd (cs : List Char) : List Char :=
  if cs.getLast? = some '\n' then
    if cs.dropLast.getLast? = some '\r' then cs.dropLast.dropLast else cs.dropLast
  else cs

/-- The logical lines of the lines of a file, after the text `start` that leaves `s` open. -/
def joinLines (s : Scan) (start : List Char) : List (List UInt8) → List (List Char)
  | [] => []
  | l :: ls =>
    match Utf8.decode? l with
    | none => []
    | some cs =>
      let whole := start ++ cs
      if (trimStart whole).head? = some '#' then [] :: joinLines .complete [] ls
      else
        match s.run cs with
        | .error before => (start ++ before) :: joinLines .complete [] ls
        | .ok .complete => dropLineEnd whole :: joinLines .complete [] ls
        | .ok t => joinLines t whole ls

/-- The logical lines of a file. -/
def logicalLines (bs : List UInt8) : List (List Char) :=
  joinLines .complete [] (physicalLines (withoutMark bs))

end OriginGate.EnvFile
