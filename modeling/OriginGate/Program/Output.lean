import OriginGate.Log.Record
import OriginGate.Text.Split

/-!
# What the program writes

The program writes texts and log records to its standard output and the reasons why it ends to its
standard error. A failure is reported with the chain of its causes, indented and numbered if there
are several.
-/

namespace OriginGate

open Text

/-- A piece of what the program writes. -/
inductive Output where
  | text (s : String)
  /-- A log record, written in a style. -/
  | record (r : Log.Record) (style : Log.Style)
  /-- A text for the standard error. -/
  | complaint (s : String)
  deriving DecidableEq, Repr

namespace Output

/-- What is written to the standard output; `time` is the time of log records. -/
def shown (time : String) : Output → String
  | text s => s
  | record r style => r.line style time
  | complaint _ => ""

/-- What is written to the standard error. -/
def complained : Output → String
  | complaint s => s
  | _ => ""

end Output

/-! ## Failures -/

inductive Failure where
  /-- A reason with its causes, each the cause of the one before. -/
  | reason (summary : String) (causes : List String)
  /-- The program breaks off. -/
  | abort (message : String)
  deriving DecidableEq, Repr

/-- The lines of a text with an indentation; the first one starts with `label` instead. -/
def indented (label indentation : String) (s : String) : String :=
  label ++ ("\n" ++ indentation).intercalate ((split '\n' s.toList).map String.ofList)

namespace Failure

/-- The causes in words, numbered from `n` on. -/
def numbered : Nat → List String → String
  | _, [] => ""
  | n, c :: cs =>
    let label := decimalString n
    let label := String.ofList (List.replicate (5 - label.length) ' ') ++ label ++ ": "
    "\n" ++ indented label "       " c ++ numbered (n + 1) cs

def report : Failure → String
  | reason summary [] => "Error: " ++ summary ++ "\n"
  | reason summary [c] =>
    "Error: " ++ summary ++ "\n\nCaused by:\n" ++ indented "    " "    " c ++ "\n"
  | reason summary causes => "Error: " ++ summary ++ "\n\nCaused by:" ++ numbered 0 causes ++ "\n"
  | abort message => message ++ "\n"

/-- The exit status after a failure. -/
def status : Failure → Nat
  | reason .. => 1
  | abort _ => 101

end Failure

end OriginGate
