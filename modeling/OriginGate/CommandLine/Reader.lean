import OriginGate.CommandLine.Fault
import OriginGate.CommandLine.Similarity
import OriginGate.Text.Numeral

/-!
# Reading a command line

Arguments are read from left to right, first those of the program, then those of its command. The
value of an option that stands in an argument of its own counts only when the next option or the
end is reached: mistakes before that are reported first.

* `Given.settle_none`: without an open option nothing happens.
-/

namespace OriginGate.CommandLine

open Text

structure Options where
  verbose : Bool := false
  jsonLogs : Bool := false
  host : Option String := none
  port : Option UInt16 := none
  deriving DecidableEq, Repr

/-- Why reading stops before the program runs. -/
inductive Stop where
  /-- A page of help is wanted. -/
  | help (page : Page)
  | version
  | fault (page : Page) (f : UsageFault)
  deriving DecidableEq, Repr

inductive Shape where
  | terminator
  /-- An option by its long name, with a value after an equals sign. -/
  | long (name : List Char) (value : Option (List Char))
  /-- Options by their letters. -/
  | letters (cs : List Char)
  | word
  deriving DecidableEq, Repr

def Shape.of : List Char → Shape
  | ['-', '-'] => .terminator
  | '-' :: '-' :: cs =>
    let name := cs.takeWhile (· ≠ '=')
    .long name (if '=' ∈ cs then some (cs.drop (name.length + 1)) else none)
  | '-' :: c :: cs => .letters (c :: cs)
  | _ => .word

/-! ## Options -/

/-- What the options read so far say. -/
structure Given where
  options : Options := {}
  /-- The options read, in order. -/
  seen : List Parameter := []
  /-- The option whose value does not yet count, with this value unless it is still awaited. -/
  pending : Option (Parameter × Option String) := none
  deriving DecidableEq, Repr

def readPort (value : String) : Except String UInt16 :=
  match integer? 9223372036854775808 9223372036854775807 value.toList with
  | .error e => .error e.message
  | .ok n =>
    if 0 ≤ n ∧ n ≤ 65535 then .ok n.toNat.toUInt16
    else
      let digits := decimalString n.natAbs
      .error ((if n < 0 then "-" ++ digits else digits) ++ " is not in 0..=65535")

namespace Given

/-- The option whose value is awaited. -/
def awaited? (g : Given) : Option Parameter :=
  match g.pending with
  | some (p, none) => some p
  | _ => none

/-- Notes that an option was given, which is a mistake the second time. -/
def note (g : Given) (p : Parameter) : Given × Option UsageFault :=
  if g.seen.contains p then ({ g with seen := g.seen.erase p }, some (.repeated p))
  else ({ g with seen := g.seen ++ [p] }, none)

def assign (g : Given) (p : Parameter) (value : String) : Given × Option UsageFault :=
  match g.note p with
  | (g, some fault) => (g, some fault)
  | (g, none) =>
    if p = .host then ({ g with options.host := some value }, none)
    else
      match readPort value with
      | .ok n => ({ g with options.port := some n }, none)
      | .error reason => (g, some (.invalidValue p value reason))

/-- Makes the value of the open option count. -/
def settle (g : Given) : Given × Option UsageFault :=
  match g.pending with
  | none => (g, none)
  | some (p, none) => ({ g with pending := none }, some (.missingValue p))
  | some (p, some value) => { g with pending := none }.assign p value

theorem settle_none {g : Given} (h : g.pending = none) : g.settle = (g, none) := by
  simp [settle, h]

/-- Turns a mistake into a reason to stop. -/
def orStop (page : Page) : Given × Option UsageFault → Except Stop Given
  | (g, none) => .ok g
  | (_, some f) => .error (.fault page f)

/-- Reads an option without a value. -/
def switch (page : Page) (g : Given) (p : Parameter) : Except Stop Given := do
  let g ← orStop page g.settle
  match p with
  | .help => throw (.help page)
  | .version => throw .version
  | .verbose => orStop page ({ g with options.verbose := true }.note p)
  | _ => orStop page ({ g with options.jsonLogs := true }.note p)

/-- Reads an option with a value, which follows if it is not here. -/
def valued (page : Page) (g : Given) (p : Parameter) (value : Option (List Char)) :
    Except Stop Given := do
  let g ← orStop page g.settle
  match value with
  | some cs => orStop page (g.assign p (String.ofList cs))
  | none => return { g with pending := some (p, none) }

/-- Reads an option by its long name. -/
def readLong (page : Page) (g : Given) (name : List Char) (value : Option (List Char)) :
    Except Stop Given :=
  match page.parameters.find? (·.long.toList = name) with
  | some p =>
    if p.takesValue then g.valued page p value
    else
      match value with
      | some cs => .error (.fault page (.unneededValue p (String.ofList cs) g.seen))
      | none => g.switch page p
  | none =>
    let name := String.ofList name
    let hint := (similarWords name (page.parameters.map Parameter.long)).getLast?.bind fun w =>
      page.parameters.find? (·.long = w)
    .error (.fault page (.unexpected ("--" ++ name) hint g.settle.1.seen))

/-- Reads options by their letters; what follows the letter of an option with a value is the
value, with or without an equals sign before it. -/
def readLetters (page : Page) (g : Given) : List Char → Except Stop Given
  | [] => .ok g
  | c :: cs =>
    match page.parameters.find? (·.letter? = some c) with
    | none => .error (.fault page (.unexpected (String.ofList ['-', c]) none []))
    | some p =>
      if p.takesValue then
        match cs with
        | [] => g.valued page p none
        | '=' :: cs => g.valued page p (some cs)
        | cs => g.valued page p (some cs)
      else do
        let g ← g.switch page p
        g.readLetters page cs

end Given

/-! ## Commands -/

/-- The reason to stop at a word that has no place; `ended` tells whether the options ended. -/
def strayWord (page : Page) (ended : Bool) (word : String) : Stop :=
  match page with
  | .program =>
    let names := Command.all.map Command.name ++ [helpName]
    if ended && names.contains word then .fault page (.hiddenCommand word)
    else .fault page (.unknownCommand word (similarWords word names))
  | _ => .fault page (.unexpected word none [])

/-- What `help` shows for the words after it. -/
def helpFor : Page → List String → Stop
  | page, [] => .help page
  | .program, w :: ws =>
    if w = helpName then helpFor .help ws
    else
      match Command.ofName? w with
      | some c => helpFor (.command c) ws
      | none => .fault .program (.unknownCommand w [])
  | page, w :: _ => .fault page (.unknownCommand w [])

/-- Reads arguments in the scope of a page, up to a command and with what follows it. -/
def readArguments (page : Page) (g : Given) :
    List String → Except Stop (Given × Option (Command × List String))
  | [] => .ok (g, none)
  | arg :: rest =>
    match g.awaited?, page, Command.ofName? arg with
    | none, .program, some c => .ok (g, some (c, rest))
    | awaited, page, _ =>
      if awaited = none ∧ page = .program ∧ arg = helpName then .error (helpFor .program rest)
      else
        match Shape.of arg.toList with
        | .terminator =>
          match rest with
          | [] => .ok (g, none)
          | word :: _ => .error (strayWord page true word)
        | .long name value => do
          let g ← g.readLong page name value
          readArguments page g rest
        | .letters cs => do
          let g ← g.readLetters page cs
          readArguments page g rest
        | .word =>
          match awaited with
          | some p => readArguments page { g with pending := some (p, some arg) } rest
          | none => .error (strayWord page false arg)

/-- The options of the program with those of its command, which prevail. -/
def Options.merge (outer inner : Options) : Options :=
  { verbose := outer.verbose || inner.verbose
    jsonLogs := outer.jsonLogs || inner.jsonLogs
    host := inner.host.or outer.host
    port := inner.port.or outer.port }

/-- What the program is asked to do. -/
structure Invocation where
  options : Options := {}
  command : Command := .serve
  deriving DecidableEq, Repr

def Invocation.read (args : List String) : Except Stop Invocation := do
  let (outer, called) ← readArguments .program {} args
  match called with
  | none =>
    let outer ← Given.orStop .program outer.settle
    return { options := outer.options }
  | some (c, rest) =>
    let (inner, _) ← readArguments (.command c) {} rest
    let inner ← Given.orStop (.command c) inner.settle
    let outer ← Given.orStop .program outer.settle
    return { options := outer.options.merge inner.options, command := c }

end OriginGate.CommandLine
