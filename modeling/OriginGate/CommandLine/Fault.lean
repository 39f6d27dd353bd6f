import OriginGate.CommandLine.Grammar

/-!
# What can be wrong with a command line

`UsageFault` lists the mistakes; `UsageFault.message` words them for the page of help in whose
scope they were made.
-/

namespace OriginGate.CommandLine

/-- A mistake on the command line. -/
inductive UsageFault where
  /-- An argument has no place; `hint` is an option that resembles it, and `given` holds the
  options before it. -/
  | unexpected (argument : String) (hint : Option Parameter) (given : List Parameter)
  /-- A command stands after the end of the options. -/
  | hiddenCommand (name : String)
  /-- There is no such command; `hints` resemble it. -/
  | unknownCommand (name : String) (hints : List String)
  /-- The value of an option is missing. -/
  | missingValue (p : Parameter)
  /-- The value of an option is of the wrong type. -/
  | invalidValue (p : Parameter) (value reason : String)
  /-- An option that has no value is given one; `given` holds the options before it. -/
  | unneededValue (p : Parameter) (value : String) (given : List Parameter)
  /-- An option is given twice. -/
  | repeated (p : Parameter)
  deriving DecidableEq, Repr

/-- Texts between apostrophes, with commas. -/
def apostrophized (words : List String) : String :=
  ", ".intercalate (words.map fun w => "'" ++ w ++ "'")

/-- The hint at words that resemble what was written. -/
def hintText (noun : String) (words : List String) : String :=
  match words with
  | [] => ""
  | [w] => "\n\n  tip: a similar " ++ noun ++ " exists: '" ++ w ++ "'"
  | _ => "\n\n  tip: some similar " ++ noun ++ "s exist: " ++ apostrophized words

/-- How to call what a page speaks of with some options. -/
def Page.usageWith (page : Page) (given : List Parameter) : String :=
  if given.isEmpty then page.usage
  else page.words ++ String.join (given.eraseDups.map fun p => " " ++ p.text)

/-- The line that shows how to call what a page speaks of. -/
def usageLine (usage : String) : String :=
  "\n\nUsage: " ++ usage

namespace UsageFault

def reason : UsageFault → String
  | unexpected argument hint _ =>
    "unexpected argument '" ++ argument ++ "' found" ++
      hintText "argument" (hint.toList.map Parameter.dashed)
  | hiddenCommand name =>
    "unexpected argument '" ++ name ++ "' found\n\n  tip: subcommand '" ++ name ++
      "' exists; to use it, remove the '--' before it"
  | unknownCommand name hints =>
    "unrecognized subcommand '" ++ name ++ "'" ++ hintText "subcommand" hints
  | missingValue p => "a value is required for '" ++ p.text ++ "' but none was supplied"
  | invalidValue p value reason =>
    "invalid value '" ++ value ++ "' for '" ++ p.text ++ "': " ++ reason
  | unneededValue p value _ =>
    "unexpected value '" ++ value ++ "' for '" ++ p.text ++ "' found; no more were expected"
  | repeated p => "the argument '" ++ p.text ++ "' cannot be used multiple times"

/-- The line that shows how to do better; mistakes in values have none. -/
def usage (page : Page) : UsageFault → String
  | unexpected _ hint given => usageLine (page.usageWith (given ++ hint.toList))
  | unneededValue p _ given => usageLine (page.usageWith (given ++ [p]))
  | hiddenCommand _ | unknownCommand _ _ | repeated _ => usageLine page.usage
  | missingValue _ | invalidValue _ _ _ => ""

/-- The message of a mistake made in the scope of a page. -/
def message (page : Page) (f : UsageFault) : String :=
  "error: " ++ f.reason ++ f.usage page ++
    (if page = .help then "\n" else "\n\nFor more information, try '--help'.\n")

end UsageFault

end OriginGate.CommandLine
