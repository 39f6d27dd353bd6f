import OriginGate.Json.Basic
import OriginGate.Proofs.Text.Hexadecimal

/-!
# The words of a JSON text

A JSON text is a sequence of marks and strings with blanks between them. It is read one character
at a time. In a string every character may be escaped, those outside the first plane in two halves,
and quotes, backslashes and controls must be. Numbers and the constants, which no document of the
service holds, are refused.

* `Scan.step`: what one character does; `words?`: the words of a text.
* `run_escapeChar`: the written form of a character, whatever it is, is read as that character.
* `spells_stringText`: a written string is one word.
* `Value.spells_compact`, `Value.spells_prettyAt`: the two texts of a value have the same words.
-/

namespace OriginGate.Json

open Text

inductive Word where
  /-- A bracket, a brace, a colon or a comma. -/
  | mark (c : Char)
  | text (s : String)
  deriving DecidableEq

def isMark (c : Char) : Bool :=
  "[]\x7b\x7d:,".toList.contains c

def isSpace (c : Char) : Bool :=
  " \t\n\r".toList.contains c

/-! ## Strings -/

/-- What is known of a string while it is read: its characters so far and, where one is written in
two halves, the first half. -/
structure Draft where
  chars : List Char
  half : Option Nat

namespace Draft

/-- Adds a character, unless a second half is due. -/
def add? (d : Draft) (c : Char) : Option Draft :=
  match d.half with
  | none => some ⟨d.chars ++ [c], none⟩
  | some _ => none

def isFirstHalf (n : Nat) : Bool :=
  0xD800 ≤ n && n < 0xDC00

def isSecondHalf (n : Nat) : Bool :=
  0xDC00 ≤ n && n < 0xE000

/-- Adds what a number of 16 bits stands for: a character, or half of one. -/
def addCode? (d : Draft) (n : Nat) : Option Draft :=
  match d.half with
  | none =>
    if isFirstHalf n then some ⟨d.chars, some n⟩
    else if isSecondHalf n then none
    else some ⟨d.chars ++ [Char.ofNat n], none⟩
  | some first =>
    if isSecondHalf n then
      some ⟨d.chars ++ [Char.ofNat (0x10000 + 0x400 * (first - 0xD800) + (n - 0xDC00))], none⟩
    else none

def close? (d : Draft) : Option String :=
  match d.half with
  | none => some (String.ofList d.chars)
  | some _ => none

end Draft

/-- What a letter or a sign after a backslash stands for. -/
def shortEscape? (c : Char) : Option Char :=
  if c = '"' ∨ c = '\\' ∨ c = '/' then some c
  else if c = 'b' then some '\x08'
  else if c = 'f' then some '\x0c'
  else if c = 'n' then some '\n'
  else if c = 'r' then some '\r'
  else if c = 't' then some '\t'
  else none

/-! ## One character after the other -/

/-- Where the next character stands. -/
inductive Place where
  | between
  | inside (d : Draft)
  /-- After a backslash. -/
  | escaped (d : Draft)
  /-- Among the four digits of a code. -/
  | code (d : Draft) (digits : List Char)

structure Scan where
  words : List Word
  place : Place

namespace Scan

def step (s : Scan) (c : Char) : Option Scan :=
  match s.place with
  | .between =>
    if c = '"' then some { s with place := .inside ⟨[], none⟩ }
    else if isMark c then some { s with words := s.words ++ [.mark c] }
    else if isSpace c then some s
    else none
  | .inside d =>
    if c = '"' then d.close?.map fun t => ⟨s.words ++ [.text t], .between⟩
    else if c = '\\' then some { s with place := .escaped d }
    else if c.toNat < 0x20 then none
    else (d.add? c).map fun d => { s with place := .inside d }
  | .escaped d =>
    if c = 'u' then some { s with place := .code d [] }
    else ((shortEscape? c).bind d.add?).map fun d => { s with place := .inside d }
  | .code d digits =>
    if (hexDigit? c).isNone then none
    else if digits.length < 3 then some { s with place := .code d (digits ++ [c]) }
    else (d.addCode? (hexNumber (digits ++ [c]))).map fun d => { s with place := .inside d }

def run (s : Scan) (cs : List Char) : Option Scan :=
  cs.foldlM step s

@[simp] theorem run_nil (s : Scan) : s.run [] = some s := rfl

@[simp] theorem run_cons (s : Scan) (c : Char) (cs : List Char) :
    s.run (c :: cs) = (s.step c).bind (·.run cs) := rfl

theorem run_append (s : Scan) (a b : List Char) : s.run (a ++ b) = (s.run a).bind (·.run b) :=
  List.foldlM_append

end Scan

/-- The words of a text in which every string is closed. -/
def words? (cs : List Char) : Option (List Word) :=
  match Scan.run ⟨[], .between⟩ cs with
  | some ⟨words, .between⟩ => some words
  | _ => none

/-! ## Escaped characters -/

theorem run_code (words : List Word) (d : Draft) {digits : List Char} (hlen : digits.length = 4)
    (hdigits : ∀ c ∈ digits, (hexDigit? c).isSome = true) :
    Scan.run ⟨words, .code d []⟩ digits =
      (d.addCode? (hexNumber digits)).map fun d => ⟨words, .inside d⟩ := by
  obtain ⟨a, b, c, e, rfl⟩ : ∃ a b c e, digits = [a, b, c, e] := by
    match digits, hlen with
    | [a, b, c, e], _ => exact ⟨a, b, c, e, rfl⟩
  have hnone : ∀ x ∈ [a, b, c, e], (hexDigit? x).isNone = false := fun x hx => by
    simpa using hdigits x hx
  simp only [List.mem_cons, List.not_mem_nil, or_false, forall_eq_or_imp, forall_eq] at hnone
  simp [Scan.step, hnone]

theorem run_control (words : List Word) (chars zeros : List Char) {c : Char} (hc : c.toNat < 0x20)
    (hzeros : hexNumber zeros = 0 ∧ zeros.all (fun z => (hexDigit? z).isSome) = true)
    (hlen : (zeros ++ hexText c.toNat).length = 4) :
    Scan.run ⟨words, .inside ⟨chars, none⟩⟩ ('\\' :: 'u' :: (zeros ++ hexText c.toNat)) =
      some ⟨words, .inside ⟨chars ++ [c], none⟩⟩ := by
  have hdigits : ∀ x ∈ zeros ++ hexText c.toNat, (hexDigit? x).isSome = true := by
    intro x hx
    rcases List.mem_append.1 hx with hx | hx
    · exact List.all_eq_true.1 hzeros.2 x hx
    · exact isHexDigit_of_mem_toDigits hx
  have hvalue : hexNumber (zeros ++ hexText c.toNat) = c.toNat := by
    have hfold : hexNumber (zeros ++ hexText c.toNat) =
        (hexText c.toNat).foldl (fun n c => 16 * n + (hexDigit? c).getD 0) (hexNumber zeros) :=
      List.foldl_append
    rw [hfold, hzeros.1]
    exact hexNumber_toDigits c.toNat
  have hfirst : Draft.isFirstHalf c.toNat = false := by
    simp only [Draft.isFirstHalf, Bool.and_eq_false_iff, decide_eq_false_iff_not]
    omega
  have hsecond : Draft.isSecondHalf c.toNat = false := by
    simp only [Draft.isSecondHalf, Bool.and_eq_false_iff, decide_eq_false_iff_not]
    omega
  have hcode := run_code words ⟨chars, none⟩ hlen hdigits
  rw [hvalue, Draft.addCode?] at hcode
  simp only [hfirst, hsecond, Char.ofNat_toNat, Bool.false_eq_true, if_false,
    Option.map_some] at hcode
  exact hcode

theorem length_hexText_of_lt {n : Nat} (h : n < 0x10) : (hexText n).length = 1 := by
  rw [hexText, Nat.toDigits_eq_if (by decide), if_pos h]
  rfl

theorem length_hexText_of_le {n : Nat} (hlow : 0x10 ≤ n) (hhigh : n < 0x20) :
    (hexText n).length = 2 := by
  rw [hexText, Nat.toDigits_eq_if (by decide), if_neg (by omega), List.length_append]
  exact congrArg (· + 1) (length_hexText_of_lt (n := n / 16) (by omega))

theorem run_escapeChar (words : List Word) (chars : List Char) (c : Char) :
    Scan.run ⟨words, .inside ⟨chars, none⟩⟩ (escapeChar c) =
      some ⟨words, .inside ⟨chars ++ [c], none⟩⟩ := by
  unfold escapeChar
  split
  · rename_i h
    rw [h]
    rfl
  rename_i hquote
  split
  · rename_i h
    rw [h]
    rfl
  rename_i hbackslash
  -- the five controls that have a letter
  iterate 5 (split; (rename_i h; rw [h]; rfl))
  split
  · rename_i h
    exact run_control words chars "000".toList (by omega) (by decide)
      (by rw [List.length_append, length_hexText_of_lt h]; rfl)
  rename_i hlow
  split
  · rename_i h
    exact run_control words chars "00".toList h (by decide)
      (by rw [List.length_append, length_hexText_of_le (by omega) h]; rfl)
  · rename_i hhigh
    simp [Scan.step, hquote, hbackslash, hhigh, Draft.add?]

/-! ## What a text spells -/

/-- The text consists of these words, whatever was read before it. -/
def Spells (cs : List Char) (words : List Word) : Prop :=
  ∀ before, Scan.run ⟨before, .between⟩ cs = some ⟨before ++ words, .between⟩

theorem Spells.append {a b : List Char} {v w : List Word} (ha : Spells a v) (hb : Spells b w) :
    Spells (a ++ b) (v ++ w) := by
  intro before
  rw [Scan.run_append, ha before, Option.bind_some, hb (before ++ v), List.append_assoc]

theorem spells_mark {c : Char} (h : isMark c = true) : Spells [c] [.mark c] := by
  have hquote : c ≠ '"' := by
    rintro rfl
    exact absurd h (by decide)
  intro before
  simp [Scan.step, hquote, h]

theorem Spells.cons_mark {c : Char} {cs : List Char} {words : List Word} (hc : isMark c = true)
    (h : Spells cs words) : Spells (c :: cs) (.mark c :: words) :=
  (spells_mark hc).append h

theorem spells_space {c : Char} (h : isSpace c = true) : Spells [c] [] := by
  have hall : " \t\n\r".toList.all (fun d => d ≠ '"' && !isMark d) = true := by decide
  have hc := List.all_eq_true.1 hall c (List.contains_iff_mem.1 h)
  obtain ⟨hquote, hmark⟩ : c ≠ '"' ∧ isMark c = false := by simpa using hc
  intro before
  simp [Scan.step, hquote, hmark, h]

theorem spells_newline (depth : Nat) : Spells (newline depth) [] := by
  have hblanks : ∀ n, Spells (List.replicate n ' ') [] := by
    intro n
    induction n with
    | zero => exact fun before => by simp
    | succ n ih => exact (spells_space (by decide)).append ih
  exact (spells_space (by decide)).append (hblanks _)

theorem run_escaped (words : List Word) (chars cs : List Char) :
    Scan.run ⟨words, .inside ⟨chars, none⟩⟩ (cs.flatMap escapeChar) =
      some ⟨words, .inside ⟨chars ++ cs, none⟩⟩ := by
  induction cs generalizing chars with
  | nil => simp
  | cons c cs ih =>
    rw [List.flatMap_cons, Scan.run_append, run_escapeChar, Option.bind_some, ih,
      List.append_assoc, List.singleton_append]

theorem spells_stringText (s : String) : Spells (stringText s) [.text s] := by
  intro before
  have hopen : Scan.step ⟨before, .between⟩ '"' = some ⟨before, .inside ⟨[], none⟩⟩ := rfl
  rw [stringText, List.cons_append, Scan.run_cons, hopen, Option.bind_some, Scan.run_append,
    run_escaped, Option.bind_some]
  simp [Scan.step, Draft.close?]

/-! ## The words of a value -/

mutual

def Value.words : Value → List Word
  | .string s => [.text s]
  | .array items => .mark '[' :: (itemWords items ++ [.mark ']'])
  | .object members => .mark '\x7b' :: (memberWords members ++ [.mark '\x7d'])

def itemWords : List Value → List Word
  | [] => []
  | [v] => v.words
  | v :: vs => v.words ++ .mark ',' :: itemWords vs

def memberWords : List (String × Value) → List Word
  | [] => []
  | [(k, v)] => .text k :: .mark ':' :: v.words
  | (k, v) :: ms => .text k :: .mark ':' :: (v.words ++ .mark ',' :: memberWords ms)

end

theorem itemWords_cons (v w : Value) (vs : List Value) :
    itemWords (v :: w :: vs) = v.words ++ .mark ',' :: itemWords (w :: vs) := rfl

theorem memberWords_cons (m n : String × Value) (ms : List (String × Value)) :
    memberWords (m :: n :: ms) =
      .text m.1 :: .mark ':' :: m.2.words ++ .mark ',' :: memberWords (n :: ms) := rfl

mutual

theorem Value.spells_compact : ∀ v : Value, Spells v.compact v.words
  | .string s => spells_stringText s
  | .array items =>
    ((spells_compactItems items).append (spells_mark (by decide))).cons_mark (by decide)
  | .object members =>
    ((spells_compactMembers members).append (spells_mark (by decide))).cons_mark (by decide)

theorem spells_compactItems : ∀ items, Spells (compactItems items) (itemWords items)
  | [] => fun before => by simp [compactItems, itemWords]
  | [v] => v.spells_compact
  | v :: w :: vs => v.spells_compact.append ((spells_compactItems (w :: vs)).cons_mark (by decide))

theorem spells_compactMembers : ∀ members, Spells (compactMembers members) (memberWords members)
  | [] => fun before => by simp [compactMembers, memberWords]
  | [(k, v)] => (spells_stringText k).append (v.spells_compact.cons_mark (by decide))
  | (k, v) :: m :: ms => by
    have hmember := (spells_stringText k).append (v.spells_compact.cons_mark (c := ':') (by decide))
    have hrest := (spells_compactMembers (m :: ms)).cons_mark (c := ',') (by decide)
    have h := hmember.append hrest
    simpa [compactMembers, memberWords] using h

end

mutual

theorem Value.spells_prettyAt (depth : Nat) : ∀ v : Value, Spells (v.prettyAt depth) v.words
  | .string s => spells_stringText s
  | .array [] => (spells_mark (by decide)).cons_mark (by decide)
  | .object [] => (spells_mark (by decide)).cons_mark (by decide)
  | .array (v :: vs) => by
    have hitems := (spells_prettyItems (depth + 1) (v :: vs)).cons_mark (c := '[') (by decide)
    have hclose := (spells_newline depth).append (spells_mark (c := ']') (by decide))
    simpa [Value.prettyAt, Value.words] using hitems.append hclose
  | .object (m :: ms) => by
    have hmembers :=
      (spells_prettyMembers (depth + 1) (m :: ms)).cons_mark (c := '\x7b') (by decide)
    have hclose := (spells_newline depth).append (spells_mark (c := '\x7d') (by decide))
    simpa [Value.prettyAt, Value.words] using hmembers.append hclose

theorem spells_prettyItems (depth : Nat) :
    ∀ items, Spells (prettyItems depth items) (itemWords items)
  | [] => fun before => by simp [prettyItems, itemWords]
  | [v] => (spells_newline depth).append (v.spells_prettyAt depth)
  | v :: w :: vs => by
    have hitem := (spells_newline depth).append (v.spells_prettyAt depth)
    have hrest := (spells_prettyItems depth (w :: vs)).cons_mark (c := ',') (by decide)
    simpa [prettyItems, itemWords] using hitem.append hrest

theorem spells_prettyMembers (depth : Nat) :
    ∀ members, Spells (prettyMembers depth members) (memberWords members)
  | [] => fun before => by simp [prettyMembers, memberWords]
  | [m] => by
    simpa [prettyMembers, memberWords] using spells_prettyMember depth m
  | m :: n :: ms => by
    have hrest := (spells_prettyMembers depth (n :: ms)).cons_mark (c := ',') (by decide)
    simpa [prettyMembers, memberWords] using (spells_prettyMember depth m).append hrest

theorem spells_prettyMember (depth : Nat) :
    ∀ m : String × Value, Spells (newline depth ++ (stringText m.1 ++ ([':', ' '] ++
      m.2.prettyAt depth))) (.text m.1 :: .mark ':' :: m.2.words)
  | (k, v) => by
    have hcolon := (spells_mark (c := ':') (by decide)).append (spells_space (c := ' ') (by decide))
    exact (spells_newline depth).append
      ((spells_stringText k).append (hcolon.append (v.spells_prettyAt depth)))

end

theorem words?_of_spells {cs : List Char} {words : List Word} (h : Spells cs words) :
    words? cs = some words := by
  rw [words?, h []]
  rfl

end OriginGate.Json
