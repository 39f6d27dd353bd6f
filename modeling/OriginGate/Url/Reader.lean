import OriginGate.Url.Host

/-!
# Reading an address

`Url.read` reads the parts of an address that decide its origin, as browsers do: blanks and
controls around the text and tabs and line ends inside it are passed over, known schemes take
any number of slashes of either kind before the host, and user names before the host are
dropped.
-/

namespace OriginGate.Url

open Text

/-! ## Characters -/

/-- Whether a character around an address is passed over. -/
def isControlOrSpace (c : Char) : Bool :=
  c.toNat ≤ 0x20

/-- Whether a character inside an address is passed over. -/
def isTabOrNewline (c : Char) : Bool :=
  c = '\t' || c = '\n' || c = '\r'

/-- The characters of an address that count. -/
def significant (cs : List Char) : List Char :=
  let front := cs.dropWhile isControlOrSpace
  (front.reverse.dropWhile isControlOrSpace).reverse.filter (! isTabOrNewline ·)

/-- Whether the character is a slash of either kind. -/
def isSlash (c : Char) : Bool :=
  c = '/' || c = '\\'

/-- Whether the character ends the authority of an address with an unknown scheme. -/
def endsAuthority (c : Char) : Bool :=
  c = '/' || c = '?' || c = '#'

/-- Whether the character ends the authority of an address with a known scheme. -/
def endsKnownAuthority (c : Char) : Bool :=
  endsAuthority c || c = '\\'

/-! ## Schemes -/

/-- Whether a scheme may hold the character after its first letter. -/
def isSchemeChar (c : Char) : Bool :=
  c.isAlphanum || c = '+' || c = '-' || c = '.'

/-- The scheme in lower case and what follows its colon. -/
def scheme? (cs : List Char) : Option (List Char × List Char) :=
  match cs with
  | [] => none
  | c :: _ =>
    if c.isAlpha then
      match cs.dropWhile isSchemeChar with
      | ':' :: rest => some ((cs.takeWhile isSchemeChar).map Char.toLower, rest)
      | _ => none
    else none

/-- The usual port of a scheme that names a host, `file` apart. -/
def usualPort? (scheme : List Char) : Option UInt16 :=
  if scheme = "http".toList then some 80
  else if scheme = "https".toList then some 443
  else if scheme = "ws".toList then some 80
  else if scheme = "wss".toList then some 443
  else if scheme = "ftp".toList then some 21
  else none

/-! ## Authorities -/

/-- The text before and after the last `@`, if there is one. -/
def cutUser (cs : List Char) : Option (List Char) × List Char :=
  if '@' ∈ cs then
    (some (cs.reverse.dropWhile (· ≠ '@')).tail.reverse, (cs.reverse.takeWhile (· ≠ '@')).reverse)
  else (none, cs)

/-- The host text and what follows it, from the first colon outside brackets on. -/
def cutHost (inBrackets : Bool) : List Char → List Char × List Char
  | [] => ([], [])
  | c :: cs =>
    if c = ':' && !inBrackets then ([], c :: cs)
    else
      let (host, rest) :=
        cutHost (if c = '[' then true else if c = ']' then false else inBrackets) cs
      (c :: host, rest)

/-- The port after a host: `none` where there is none or it is the usual one. -/
def readPort (usual : Option UInt16) (cs : List Char) : Except Fault (Option UInt16) :=
  match cs with
  | ':' :: digits =>
    let n := numberInBase 10 digits
    if !digits.all Char.isDigit || 65535 < n then .error .invalidPort
    else if digits.isEmpty || usual = some n.toUInt16 then .ok none
    else .ok (some n.toUInt16)
  | _ => .ok none

/-- The address of a known scheme, from the text after its slashes. -/
def readKnown (scheme : List Char) (usual : UInt16) (cs : List Char) : Except Fault Url := do
  let (hostText, rest) := cutHost false (cutUser (cs.takeWhile (! endsKnownAuthority ·))).2
  if hostText.isEmpty then throw .emptyHost
  let host ← readHost hostText
  let port ← readPort (some usual) rest
  return { scheme, host := some host, port }

/-- The address of an unknown scheme, from the text after its two slashes. -/
def readUnknown (scheme : List Char) (cs : List Char) : Except Fault Url := do
  let (user, place) := cutUser (cs.takeWhile (! endsAuthority ·))
  let goesOn := !(cs.dropWhile (! endsAuthority ·)).isEmpty
  if user = some [] ∧ place = [] ∧ goesOn then throw .emptyHost
  let (hostText, rest) := cutHost false place
  let host ← readOpaqueHost hostText
  if hostText.isEmpty ∧ !rest.isEmpty then throw .emptyHost
  let port ← readPort none (rest.takeWhile (· ≠ '\\'))
  let named := user ≠ none ∧ user ≠ some [] ∧ user ≠ some [':']
  if hostText.isEmpty ∧ named then throw .emptyHost
  return { scheme, host := some host, port }

/-- Whether the text is the letter of a drive with its colon or bar. -/
def isDriveLetter : List Char → Bool
  | [c, d] => c.isAlpha && (d = ':' || d = '|')
  | _ => false

/-- The address of a file, from the text after the colon. -/
def readFile (scheme : List Char) (cs : List Char) : Except Fault Url := do
  match cs with
  | a :: b :: rest =>
    let hostText := rest.takeWhile (! endsKnownAuthority ·)
    if isSlash a && isSlash b && !hostText.isEmpty && !isDriveLetter hostText then
      return { scheme, host := some (← readHost hostText), port := none }
    else return { scheme, host := none, port := none }
  | _ => return { scheme, host := none, port := none }

def read (text : List Char) : Except Fault Url :=
  match scheme? (significant text) with
  | none => .error .noScheme
  | some (scheme, rest) =>
    match usualPort? scheme with
    | some usual => readKnown scheme usual (rest.dropWhile isSlash)
    | none =>
      if scheme = "file".toList then readFile scheme rest
      else
        match rest with
        | '/' :: '/' :: rest => readUnknown scheme rest
        | _ => .ok { scheme, host := none, port := none }

end OriginGate.Url
