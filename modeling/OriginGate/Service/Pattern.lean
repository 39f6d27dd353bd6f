/-!
# Path patterns

A route is given by a pattern: literal text in which `:name` stands for a piece of a path without
slashes and, at the end, `*name` for all the rest.

* `captures?_literal`: a literal pattern matches its own text alone.
-/

namespace OriginGate.Service

/-- A part of a pattern. -/
inductive Piece where
  | literal (c : Char)
  /-- Some characters up to the next slash. -/
  | segment
  /-- All the rest. -/
  | tail
  deriving DecidableEq, Repr

/-- Why a text is no pattern. -/
inductive PatternFault where
  | empty
  | noSlash
  /-- A piece of a path would have two names. -/
  | twoNames
  | noName
  /-- Too many pieces have a name. -/
  | tooManyNames
  /-- The rest of a path is not a whole last piece. -/
  | misplacedTail
  deriving DecidableEq, Repr

/-- The reason in words, for the pattern with this quoted text. -/
def PatternFault.message (quoted : String) : PatternFault → String
  | empty => "Paths must start with a \x60/\x60. Use \"/\" for root routes"
  | noSlash => "Paths must start with a \x60/\x60"
  | twoNames => invalid "only one parameter is allowed per path segment"
  | noName => invalid "parameters must be registered with a name"
  | tooManyNames => "too many route parameters"
  | misplacedTail => invalid "catch-all parameters are only allowed at the end of a route"
where
  invalid (reason : String) : String := "Invalid route " ++ quoted ++ ": " ++ reason

/-- Whether the character starts a name. -/
def startsName (c : Char) : Bool :=
  c = ':' || c = '*'

/-- How many pieces of a path may have a name. -/
def maxNames : Nat := 25

/-- Checks a name of this length after `count` named pieces, and counts it if it names a piece. -/
def checkName (count : Nat) (start : Char) (length : Nat) : Except PatternFault Nat :=
  if length = 0 then .error .noName
  else if start ≠ ':' then .ok count
  else if count < maxNames then .ok (count + 1)
  else .error .tooManyNames

/-- Checks the names in a pattern from left to right. The first argument counts the named pieces
so far; the second holds what started the name that is being read and its length so far. -/
def checkNames : Nat → Option (Char × Nat) → List Char → Except PatternFault Unit
  | _, none, [] => .ok ()
  | count, some (start, length), [] => (checkName count start length).map fun _ => ()
  | count, none, c :: cs => checkNames count (if startsName c then some (c, 0) else none) cs
  | count, some (start, length), c :: cs =>
    if startsName c then .error .twoNames
    else if c = '/' then do checkNames (← checkName count start length) none cs
    else checkNames count (some (start, length + 1)) cs

/-- The pieces of a pattern whose names are sound; the first argument tells whether a name is
being passed over, the second whether the character before was a slash. -/
def pieces : Bool → Bool → List Char → Except PatternFault (List Piece)
  | _, _, [] => .ok []
  | false, afterSlash, c :: cs =>
    if c = ':' then (pieces true false cs).map (.segment :: ·)
    else if c = '*' then
      if afterSlash && !cs.contains '/' then .ok [.tail] else .error .misplacedTail
    else (pieces false (c = '/') cs).map (.literal c :: ·)
  | true, _, c :: cs =>
    if c = '/' then (pieces false true cs).map (.literal c :: ·) else pieces true false cs

/-- The pieces of a pattern. -/
def readPattern (cs : List Char) : Except PatternFault (List Piece) :=
  match cs with
  | [] => .error .empty
  | c :: _ =>
    if c ≠ '/' then .error .noSlash
    else do
      checkNames 0 none cs
      pieces false false cs

/-- What the names stand for in a path that matches the pieces. -/
def captures? : List Piece → List Char → Option (List (List Char))
  | [], [] => some []
  | [], _ :: _ => none
  | .literal _ :: _, [] => none
  | .literal c :: ps, d :: cs => if c = d then captures? ps cs else none
  | .segment :: ps, cs =>
    let text := cs.takeWhile (· ≠ '/')
    if text.isEmpty then none
    else (captures? ps (cs.dropWhile (· ≠ '/'))).map (text :: ·)
  | .tail :: _, cs => if cs.isEmpty then none else some [cs]

theorem captures?_literal (ps cs : List Char) :
    captures? (ps.map .literal) cs = if cs = ps then some [] else none := by
  induction ps generalizing cs with
  | nil => cases cs <;> simp [captures?]
  | cons p ps ih =>
    cases cs with
    | nil => simp [captures?]
    | cons c cs =>
      by_cases h : p = c
      · subst h
        simp [captures?, ih]
      · simp [captures?, h, Ne.symm h]

end OriginGate.Service
