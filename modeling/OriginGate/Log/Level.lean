import OriginGate.Text.Numeral

/-!
# Levels of log records

A record has a level. A threshold is `off` or a level, and admits the records whose level is at
most as verbose. Thresholds are written by name, in any case, or by number from 0 to 5.
-/

namespace OriginGate.Log

open Text

/-- The level of a record, from the most urgent to the most verbose. -/
inductive Level where
  | error
  | warn
  | info
  | debug
  | trace
  deriving DecidableEq, Repr

namespace Level

/-- How verbose a level is. -/
def rank : Level → Nat
  | error => 1
  | warn => 2
  | info => 3
  | debug => 4
  | trace => 5

/-- The name of a level in upper case. -/
def title : Level → String
  | error => "ERROR"
  | warn => "WARN"
  | info => "INFO"
  | debug => "DEBUG"
  | trace => "TRACE"

end Level

/-- The greatest verbosity that passes. -/
inductive Threshold where
  | off
  | level (l : Level)
  deriving DecidableEq, Repr

namespace Threshold

/-- How much passes a threshold. -/
def rank : Threshold → Nat
  | off => 0
  | level l => l.rank

/-- Whether records of a level pass. -/
def admits (t : Threshold) (l : Level) : Bool :=
  l.rank ≤ t.rank

/-- The more verbose of two thresholds. -/
def max (s t : Threshold) : Threshold :=
  if s.rank < t.rank then t else s

/-- All thresholds, from the least to the most verbose. -/
def all : List Threshold :=
  [off, level .error, level .warn, level .info, level .debug, level .trace]

def name : Threshold → String
  | off => "off"
  | level .error => "error"
  | level .warn => "warn"
  | level .info => "info"
  | level .debug => "debug"
  | level .trace => "trace"

/-- Reads a threshold by number or by name. -/
def read? (cs : List Char) : Option Threshold :=
  match natural? 18446744073709551615 cs with
  | .ok n => all[n]?
  | .error _ => all.find? fun t => t.name.toList = cs.map Char.toLower

end Threshold

end OriginGate.Log
