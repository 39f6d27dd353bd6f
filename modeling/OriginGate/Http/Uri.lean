import OriginGate.Text.Utf8

/-!
# Request targets

The target of a request names a path, with an optional query, either alone or after a scheme and
an authority; an authority alone and the asterisk are targets too. `Uri.read` decides which
texts are a target and which path each names.
-/

namespace OriginGate.Http

open Text

/-- The path and the query that a request asks for. -/
structure Uri where
  path : List Char
  query : Option (List Char)
  deriving DecidableEq, Repr

/-- Why a text is no request target. -/
inductive UriFault where
  | empty
  /-- Some character may not stand where it does. -/
  | invalidCharacter
  /-- The parts do not make a target. -/
  | invalidFormat
  | invalidAuthority
  /-- The text is longer than a target may be. -/
  | tooLong
  /-- The scheme is longer than a scheme may be. -/
  | schemeTooLong
  deriving DecidableEq, Repr

def UriFault.message : UriFault → String
  | .empty => "empty string"
  | .invalidCharacter => "invalid uri character"
  | .invalidFormat => "invalid format"
  | .invalidAuthority => "invalid authority"
  | .tooLong => "uri too long"
  | .schemeTooLong => "scheme too long"

namespace Uri

/-! ## Paths and queries -/

/-- Whether a path may hold the character; characters outside ASCII may stand in it. -/
def isPathChar (c : Char) : Bool :=
  0x80 ≤ c.toNat || (0x21 ≤ c.toNat && c.toNat ≤ 0x7E && !"#<>?\x60".toList.contains c)

/-- Whether a query may hold the character. -/
def isQueryChar (c : Char) : Bool :=
  0x80 ≤ c.toNat || (0x21 ≤ c.toNat && c.toNat ≤ 0x7E && !"\"#<>".toList.contains c)

/-- Whether the character ends a path. -/
def endsPath (c : Char) : Bool :=
  c = '?' || c = '#'

/-- Reads a path and a query; a fragment is dropped, and `empty` is the path where none is
written. -/
def readPath (empty : List Char) (cs : List Char) : Except UriFault Uri :=
  let path := cs.takeWhile (! endsPath ·)
  let rest := cs.dropWhile (! endsPath ·)
  let query := match rest with
    | '?' :: rest => some (rest.takeWhile (· ≠ '#'))
    | _ => none
  if !path.all isPathChar || !(query.getD []).all isQueryChar then .error .invalidCharacter
  else .ok { path := if path.isEmpty then empty else path, query }

/-! ## Schemes -/

/-- Whether a scheme may hold the character. -/
def isSchemeChar (c : Char) : Bool :=
  c.isAlphanum || "+-.".toList.contains c

/-- The longest scheme. -/
def maxSchemeLength : Nat := 64

/-- The scheme and the text after its colon and two slashes, if the target starts that way. -/
def cutScheme? (cs : List Char) : Option (List Char × List Char) :=
  match cs.dropWhile isSchemeChar with
  | ':' :: '/' :: '/' :: rest =>
    if cs.length ≤ 3 then none else some (cs.takeWhile isSchemeChar, rest)
  | _ => none

/-! ## Authorities -/

/-- Whether an authority may hold the character; percent signs are treated on their own. -/
def isAuthorityChar (c : Char) : Bool :=
  c.isAlphanum || "!$&'()*+,-.:;=@[]_~".toList.contains c

/-- Whether the character ends an authority. -/
def endsAuthority (c : Char) : Bool :=
  "/?#".toList.contains c

/-- What is known of an authority while it is read. -/
structure AuthorityState where
  /-- The colons since the last `@` or `]`. -/
  colons : Nat
  /-- Whether a bracket was opened. -/
  opened : Bool
  /-- Whether it was closed. -/
  closed : Bool
  /-- Whether a percent sign stands since the last `@` or `]`. -/
  percent : Bool
  /-- Whether the last character was an `@`. -/
  atEnd : Bool

/-- Reads one character of an authority. -/
def AuthorityState.step (s : AuthorityState) (c : Char) : Except UriFault AuthorityState :=
  if c = ':' then
    if 8 ≤ s.colons then .error .invalidAuthority
    else .ok { s with colons := s.colons + 1, atEnd := false }
  else if c = '[' then
    if s.percent || s.opened then .error .invalidAuthority
    else .ok { s with opened := true, atEnd := false }
  else if c = ']' then
    if !s.opened || s.closed then .error .invalidAuthority
    else .ok { s with closed := true, colons := 0, percent := false, atEnd := false }
  else if c = '@' then .ok { s with colons := 0, percent := false, atEnd := true }
  else if c = '%' then .ok { s with percent := true, atEnd := false }
  else if isAuthorityChar c then .ok { s with atEnd := false }
  else .error .invalidCharacter

/-- Checks an authority: brackets in pairs, at most one colon before the port and something after
a user name. -/
def checkAuthority (cs : List Char) : Except UriFault Unit := do
  let s ← cs.foldlM AuthorityState.step
    { colons := 0, opened := false, closed := false, percent := false, atEnd := false }
  if s.opened != s.closed || 1 < s.colons || s.atEnd || s.percent then throw .invalidAuthority

/-! ## Targets -/

/-- The greatest length of a target in bytes. -/
def maxLength : Nat := 65534

/-- Reads a target that starts with no slash. -/
def readAbsolute (cs : List Char) : Except UriFault Uri :=
  match cutScheme? cs with
  | some (scheme, rest) => do
    if maxSchemeLength < scheme.length then throw .schemeTooLong
    if rest.isEmpty then throw .empty
    let authority := rest.takeWhile (! endsAuthority ·)
    checkAuthority authority
    if authority.isEmpty then throw .invalidFormat
    readPath ['/'] (rest.dropWhile (! endsAuthority ·))
  | none => do
    checkAuthority (cs.takeWhile (! endsAuthority ·))
    if cs.any endsAuthority then
      throw (if cs.length = 1 then .invalidCharacter else .invalidFormat)
    return { path := [], query := none }

def read (cs : List Char) : Except UriFault Uri :=
  if maxLength < (Utf8.encode cs).length then .error .tooLong
  else
    match cs with
    | [] => .error .empty
    | ['*'] => .ok { path := ['*'], query := none }
    | '/' :: _ => readPath ['/'] cs
    | _ => readAbsolute cs

end Uri

end OriginGate.Http
