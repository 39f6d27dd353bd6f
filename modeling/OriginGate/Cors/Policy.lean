import OriginGate.Config.Fault
import OriginGate.Cors.Allowed
import OriginGate.Http.Message

/-!
# The cross-origin policy

The policy tells browsers which pages may read answers; it is fixed when the service starts.

* `Policy.map_bytes_of_readOrigins`: the origins of a policy are the configured ones, byte for
  byte and in order.
-/

namespace OriginGate

open Http Text

/-- Which pages may read answers, and what their requests may carry. -/
structure Policy where
  origins : List FieldValue
  credentials : Bool
  methods : Allowed Method
  headers : Allowed FieldName
  /-- For how many seconds a browser may keep the answer to a pre-flight. -/
  maxAge : UInt64

namespace Policy

/-- The reason given for an origin that no header can carry. -/
def unsendable : String := "failed to parse header value"

/-- The field values of all origins, or the first origin that is none. -/
def readOrigins : List String → Except ConfigFault (List FieldValue)
  | [] => .ok []
  | s :: ss =>
    match FieldValue.ofText? s.toList with
    | none => .error (.invalidOrigin s unsendable)
    | some v => (readOrigins ss).map (v :: ·)

def ofConfig (c : Config) : Except ConfigFault Policy := do
  let origins ← readOrigins c.allowedOrigins
  if origins.isEmpty then throw .noOrigins
  let methods ← (Allowed.parse Method.ofText? c.methods).mapError .invalidMethod
  let headers ← (Allowed.parse FieldName.ofText? c.headers).mapError .invalidHeader
  return { origins, credentials := c.credentials, methods, headers, maxAge := c.maxAge }

/-- Whether pages of the origin may read answers. -/
def allowsOrigin (p : Policy) (origin : FieldValue) : Bool :=
  p.origins.contains origin

theorem map_bytes_of_readOrigins {ss : List String} {vs : List FieldValue}
    (h : readOrigins ss = .ok vs) : vs.map (·.bytes) = ss.map Utf8.ofString := by
  induction ss generalizing vs with
  | nil =>
    cases h
    rfl
  | cons s ss ih =>
    unfold readOrigins at h
    split at h
    · simp at h
    · rename_i v hv
      cases hr : readOrigins ss with
      | error e => simp [hr, Except.map] at h
      | ok ws =>
        simp only [hr, Except.map, Except.ok.injEq] at h
        subst h
        have hb : v.bytes = Utf8.ofString s := FieldValue.bytes_of_ofText? hv
        simp [hb, ih hr]

end Policy

end OriginGate
