import OriginGate.Text.Quoted

/-!
# JSON documents

The values that the service sends, with the members of objects in order, and their two texts:
`compact` without blanks, for answers, and `pretty` with two blanks for each level, for readers.
-/

namespace OriginGate.Json

open Text

/-- A JSON value without numbers and constants. -/
inductive Value where
  | string (text : String)
  | array (items : List Value)
  | object (members : List (String × Value))

/-- How a character is written in a JSON string. -/
def escapeChar (c : Char) : List Char :=
  if c = '"' then ['\\', '"']
  else if c = '\\' then ['\\', '\\']
  else if c = '\x08' then ['\\', 'b']
  else if c = '\x0c' then ['\\', 'f']
  else if c = '\n' then ['\\', 'n']
  else if c = '\r' then ['\\', 'r']
  else if c = '\t' then ['\\', 't']
  else if c.toNat < 0x10 then "\\u000".toList ++ hexText c.toNat
  else if c.toNat < 0x20 then "\\u00".toList ++ hexText c.toNat
  else [c]

def stringText (s : String) : List Char :=
  '"' :: s.toList.flatMap escapeChar ++ ['"']

/-! ## Without blanks -/

mutual

/-- The text of a value without blanks. -/
def Value.compact : Value → List Char
  | .string s => stringText s
  | .array items => '[' :: compactItems items ++ [']']
  | .object members => '\x7b' :: compactMembers members ++ ['\x7d']

/-- The items of an array with commas between them. -/
def compactItems : List Value → List Char
  | [] => []
  | [v] => v.compact
  | v :: vs => v.compact ++ ',' :: compactItems vs

/-- The members of an object with commas between them. -/
def compactMembers : List (String × Value) → List Char
  | [] => []
  | [(k, v)] => stringText k ++ ':' :: v.compact
  | (k, v) :: ms => stringText k ++ ':' :: v.compact ++ ',' :: compactMembers ms

end

/-! ## With line breaks -/

/-- The start of a line at a depth. -/
def newline (depth : Nat) : List Char :=
  '\n' :: List.replicate (2 * depth) ' '

mutual

/-- The text of a value at a depth, each item and member on a line of its own. -/
def Value.prettyAt (depth : Nat) : Value → List Char
  | .string s => stringText s
  | .array [] => ['[', ']']
  | .array items => '[' :: prettyItems (depth + 1) items ++ newline depth ++ [']']
  | .object [] => ['\x7b', '\x7d']
  | .object members => '\x7b' :: prettyMembers (depth + 1) members ++ newline depth ++ ['\x7d']

/-- The lines of the items of an array. -/
def prettyItems (depth : Nat) : List Value → List Char
  | [] => []
  | [v] => newline depth ++ v.prettyAt depth
  | v :: vs => newline depth ++ v.prettyAt depth ++ ',' :: prettyItems depth vs

/-- The lines of the members of an object. -/
def prettyMembers (depth : Nat) : List (String × Value) → List Char
  | [] => []
  | [(k, v)] => newline depth ++ stringText k ++ [':', ' '] ++ v.prettyAt depth
  | (k, v) :: ms =>
    newline depth ++ stringText k ++ [':', ' '] ++ v.prettyAt depth ++ ',' :: prettyMembers depth ms

end

/-- The text of a value with line breaks. -/
def Value.pretty (v : Value) : List Char :=
  v.prettyAt 0

end OriginGate.Json
