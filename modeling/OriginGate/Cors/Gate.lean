import OriginGate.Cors.Policy

/-!
# Cross-origin requests

`Policy.answer` adds the policy's header fields to the answer of a request and answers every
`OPTIONS` request by itself. `Policy.gate` does so for cross-origin requests only; all others go
straight to the service behind it.
-/

namespace OriginGate

open Http Text

/-- Whether a browser marked the request as cross-origin. Pre-flights are `OPTIONS` requests that
name both an origin and the method to come; other `OPTIONS` requests are ordinary ones. -/
def isCrossOrigin (r : Request) : Bool :=
  r.fields.has .origin && (r.method ≠ .options || r.fields.has .requestMethod)

/-- Whether a request is a pre-flight. -/
def isPreflight (r : Request) : Bool :=
  r.method = .options && isCrossOrigin r

namespace Policy

/-! ## What is advertised -/

/-- The methods advertised where every method is allowed: with credentials, browsers do not take
a wildcard. -/
def allMethods : List Method :=
  [.delete, .get, .head, .options, .patch, .post, .put]

/-- Tokens with commas between them, as a field value; without tokens there is none. -/
def joinTokens (tokens : List (List Char)) : Option FieldValue :=
  if tokens.isEmpty then none else FieldValue.ofText? (join [','] tokens)

/-- The wildcard as a field value. -/
def wildcard : FieldValue := .ofString "*"

/-- The methods that a pre-flight is told. -/
def advertisedMethods (p : Policy) : Option FieldValue :=
  match p.methods, p.credentials with
  | .any, true => joinTokens (allMethods.map (·.chars))
  | .any, false => some wildcard
  | .list methods, _ => joinTokens (methods.map (·.chars))

/-- The headers that a pre-flight is told. Where all are allowed with credentials, they are those
that the request asks for. -/
def advertisedHeaders (p : Policy) (r : Request) : Option FieldValue :=
  match p.headers, p.credentials with
  | .any, true => r.fields.get? .requestHeaders
  | .any, false => some wildcard
  | .list headers, _ => joinTokens (headers.map (·.chars))

/-- What the answer depends on. -/
def varyValue : FieldValue :=
  .ofString "origin, access-control-request-method, access-control-request-headers"

/-- The fields that credentials bring. -/
def credentialFields (p : Policy) : Fields :=
  if p.credentials then [(.allowCredentials, .ofString "true")] else []

/-- The fields that grant the origin of a request. -/
def grantFields (p : Policy) (r : Request) : Fields :=
  match r.fields.get? .origin with
  | some origin => if p.allowsOrigin origin then [(.allowOrigin, origin)] else []
  | none => []

/-- A field for a value, if there is one. -/
def optionalField (n : FieldName) : Option FieldValue → Fields
  | some v => [(n, v)]
  | none => []

/-- The fields that only the answer to an `OPTIONS` request has. -/
def preflightFields (p : Policy) (r : Request) : Fields :=
  optionalField .allowMethods p.advertisedMethods ++
    optionalField .allowHeaders (p.advertisedHeaders r) ++
    [(.maxAge, .ofNat p.maxAge.toNat)]

/-! ## Policies that cannot be enforced -/

/-- What credentials cannot be combined with: a list that reads as the wildcard. -/
inductive Conflict where
  | headers
  | methods
  deriving DecidableEq, Repr

/-- The conflict in words. -/
def Conflict.message : Conflict → String
  | headers =>
    "Invalid CORS configuration: Cannot combine \x60Access-Control-Allow-Credentials: true\x60 with \x60Access-Control-Allow-Headers: *\x60"
  | methods =>
    "Invalid CORS configuration: Cannot combine \x60Access-Control-Allow-Credentials: true\x60 with \x60Access-Control-Allow-Methods: *\x60"

/-- Whether an explicit list reads as the wildcard. -/
def readsAsWildcard : Allowed (List Char) → Bool
  | .any => false
  | .list tokens => joinTokens tokens = some wildcard

/-- The conflict that keeps the policy from being enforced, if there is one. -/
def conflict? (p : Policy) : Option Conflict :=
  if !p.credentials then none
  else if readsAsWildcard (p.headers.map (·.chars)) then some .headers
  else if readsAsWildcard (p.methods.map (·.chars)) then some .methods
  else none

/-! ## Answers -/

/-- The answer to an `OPTIONS` request. -/
def preflightResponse (p : Policy) (r : Request) : Response :=
  { status := 200
    fields := p.credentialFields ++ [(.vary, varyValue)] ++ p.grantFields r ++
      p.preflightFields r
    body := [] }

/-- The answer of the service with the fields of the policy: one more value of `vary`, and new
values for the others. -/
def decorate (p : Policy) (r : Request) (response : Response) : Response :=
  { response with
    fields := (response.fields.append .vary varyValue).setAll
      (p.credentialFields ++ p.grantFields r) }

variable {m : Type → Type} [Monad m]

/-- Answers a request under the policy: `OPTIONS` requests from the policy alone, others by the
service. -/
def answer (p : Policy) (service : Request → m Response) (r : Request) : m Response :=
  if r.method = .options then pure (p.preflightResponse r)
  else do return p.decorate r (← service r)

/-- Answers cross-origin requests under the policy and all others by the service. -/
def gate (p : Policy) (service : Request → m Response) (r : Request) : m Response :=
  if isCrossOrigin r then p.answer service r else service r

end Policy

end OriginGate
