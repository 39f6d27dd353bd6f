import OriginGate.Text.Utf8
import OriginGate.Text.Visible

/-!
# Quoted texts

Messages quote the texts they speak of: double quotes around them, a backslash before quotes and
backslashes, short escapes for the common controls, and `\u` with the number in braces for every
other character that is not visible. What the system gives as bytes is quoted more strictly, with a
backslash before apostrophes too, and may hold bytes that are no text.

* `escapeBytes_encode`: the bytes of a text are written like the text.
-/

namespace OriginGate.Text

/-- The hexadecimal digits of a number, lower case, without leading zeros. -/
def hexText (n : Nat) : List Char :=
  Nat.toDigits 16 n

/-- How a character is written between quotes. -/
def escapeChar (c : Char) : List Char :=
  if c = '"' then ['\\', '"']
  else if c = '\\' then ['\\', '\\']
  else if c = '\n' then ['\\', 'n']
  else if c = '\r' then ['\\', 'r']
  else if c = '\t' then ['\\', 't']
  else if c = '\x00' then ['\\', '0']
  else if isVisible c then [c]
  else ['\\', 'u', '\x7b'] ++ hexText c.toNat ++ ['\x7d']

/-- A text as it is written between quotes. -/
def escape (cs : List Char) : List Char :=
  cs.flatMap escapeChar

def quote (s : String) : String :=
  String.ofList ('"' :: escape s.toList ++ ['"'])

/-- How a character is written where apostrophes are escaped, too. -/
def escapeStrictly (c : Char) : List Char :=
  if c = '\'' then ['\\', c] else escapeChar c

def quoteStrictly (s : String) : String :=
  String.ofList ('"' :: s.toList.flatMap escapeStrictly ++ ['"'])

/-- How bytes are written between quotes, after so many that belong to the character before: those
of a character like the character, and others, which are never ASCII, by their number. -/
def escapeBytes : Nat → List UInt8 → List Char
  | _, [] => []
  | n + 1, _ :: bs => escapeBytes n bs
  | 0, b :: bs =>
    match Utf8.first? (b :: bs) with
    | some c => escapeStrictly c ++ escapeBytes ((String.utf8EncodeChar c).length - 1) bs
    | none => ['\\', 'x'] ++ (hexText b.toNat).map Char.toUpper ++ escapeBytes 0 bs

def quoteBytes (bs : List UInt8) : String :=
  String.ofList ('"' :: escapeBytes 0 bs ++ ['"'])

@[simp] theorem escape_cons (c : Char) (cs : List Char) :
    escape (c :: cs) = escapeChar c ++ escape cs := rfl

theorem escapeBytes_append (skipped bs : List UInt8) :
    escapeBytes skipped.length (skipped ++ bs) = escapeBytes 0 bs := by
  induction skipped with
  | nil => rfl
  | cons b skipped ih => exact ih

theorem escapeBytes_encode (cs : List Char) :
    escapeBytes 0 (Utf8.encode cs) = cs.flatMap escapeStrictly := by
  induction cs with
  | nil => rfl
  | cons c cs ih =>
    have hfirst := Utf8.first?_append c (Utf8.encode cs)
    rw [Utf8.encode, List.flatMap_cons, List.flatMap_cons, ← ih]
    change escapeBytes 0 (String.utf8EncodeChar c ++ Utf8.encode cs) = _
    cases hbytes : String.utf8EncodeChar c with
    | nil => exact absurd hbytes (Utf8.utf8EncodeChar_ne_nil c)
    | cons b bs =>
      rw [hbytes, List.cons_append] at hfirst
      rw [List.cons_append, escapeBytes, hfirst]
      simp only [hbytes, List.length_cons, Nat.add_sub_cancel, escapeBytes_append]

end OriginGate.Text
