import OriginGate.Text.SpanTable
import OriginGate.Text.Utf8

/-!
# Methods and the names and values of header fields

Methods and field names are tokens: one or more letters, digits and signs. A field name is kept
in lower case; a field value holds any bytes but controls.

* `Method.ofText?_chars`, `FieldName.ofText?_chars`: a method and a field name read back.
-/

namespace OriginGate.Http

open Text

/-- Whether a token may hold the character. -/
def isTokenChar (c : Char) : Bool :=
  c.isAlphanum || "!#$%&'*+-.^_`|~".toList.contains c

/-- Whether the character may stand in a token in lower case. -/
def isLowerTokenChar (c : Char) : Bool :=
  isTokenChar c && !c.isUpper

theorem toLower_of_isLowerTokenChar {c : Char} (h : isLowerTokenChar c = true) :
    c.toLower = c := by
  simp only [isLowerTokenChar, Bool.and_eq_true, Bool.not_eq_true'] at h
  exact dif_neg (of_decide_eq_false h.2)

/-! ## Methods -/

/-- A request method, told apart by case. -/
structure Method where
  chars : List Char
  wellFormed : (!chars.isEmpty && chars.all isTokenChar) = true

instance : DecidableEq Method := fun a b =>
  decidable_of_iff (a.chars = b.chars) ⟨fun h => by cases a; cases b; simp_all, fun h => h ▸ rfl⟩

namespace Method

/-- The method that a text names. -/
def ofText? (cs : List Char) : Option Method :=
  if h : (!cs.isEmpty && cs.all isTokenChar) = true then some ⟨cs, h⟩ else none

theorem ofText?_chars (m : Method) : ofText? m.chars = some m :=
  dif_pos m.wellFormed

theorem chars_of_ofText? {cs : List Char} {m : Method} (h : ofText? cs = some m) :
    m.chars = cs := by
  unfold ofText? at h
  split at h
  · rw [← Option.some.inj h]
  · simp at h

def toString (m : Method) : String :=
  String.ofList m.chars

def get : Method := ⟨"GET".toList, by decide⟩
def head : Method := ⟨"HEAD".toList, by decide⟩
def options : Method := ⟨"OPTIONS".toList, by decide⟩
def post : Method := ⟨"POST".toList, by decide⟩
def put : Method := ⟨"PUT".toList, by decide⟩
def delete : Method := ⟨"DELETE".toList, by decide⟩
def patch : Method := ⟨"PATCH".toList, by decide⟩

end Method

/-! ## Field names -/

/-- The greatest length of a field name. -/
def maxNameLength : Nat := 65535

/-- Whether the characters are a field name in lower case. -/
def isFieldName (cs : List Char) : Bool :=
  !cs.isEmpty && cs.length ≤ maxNameLength && cs.all isLowerTokenChar

/-- The name of a header field, in lower case. -/
structure FieldName where
  chars : List Char
  wellFormed : isFieldName chars = true

instance : DecidableEq FieldName := fun a b =>
  decidable_of_iff (a.chars = b.chars) ⟨fun h => by cases a; cases b; simp_all, fun h => h ▸ rfl⟩

namespace FieldName

/-- The field name that a text writes in any case. -/
def ofText? (cs : List Char) : Option FieldName :=
  if h : isFieldName (cs.map Char.toLower) = true then some ⟨cs.map Char.toLower, h⟩ else none

theorem map_toLower_chars (n : FieldName) : n.chars.map Char.toLower = n.chars := by
  have h := n.wellFormed
  simp only [isFieldName, Bool.and_eq_true, List.all_eq_true] at h
  rw [List.map_congr_left fun c hc => toLower_of_isLowerTokenChar (h.2 c hc), List.map_id']

theorem ofText?_chars (n : FieldName) : ofText? n.chars = some n := by
  simp only [ofText?, map_toLower_chars]
  exact dif_pos n.wellFormed

theorem chars_of_ofText? {cs : List Char} {n : FieldName} (h : ofText? cs = some n) :
    n.chars = cs.map Char.toLower := by
  unfold ofText? at h
  split at h
  · rw [← Option.some.inj h]
  · cases h

/-- The field name as a string. -/
def toString (n : FieldName) : String :=
  String.ofList n.chars

def origin : FieldName := ⟨"origin".toList, by decide⟩
def vary : FieldName := ⟨"vary".toList, by decide⟩
def allow : FieldName := ⟨"allow".toList, by decide⟩
def location : FieldName := ⟨"location".toList, by decide⟩
def contentType : FieldName := ⟨"content-type".toList, by decide⟩
def contentLength : FieldName := ⟨"content-length".toList, by decide⟩
def requestMethod : FieldName := ⟨"access-control-request-method".toList, by decide⟩
def requestHeaders : FieldName := ⟨"access-control-request-headers".toList, by decide⟩
def allowOrigin : FieldName := ⟨"access-control-allow-origin".toList, by decide⟩
def allowCredentials : FieldName := ⟨"access-control-allow-credentials".toList, by decide⟩
def allowMethods : FieldName := ⟨"access-control-allow-methods".toList, by decide⟩
def allowHeaders : FieldName := ⟨"access-control-allow-headers".toList, by decide⟩
def maxAge : FieldName := ⟨"access-control-max-age".toList, by decide⟩

end FieldName

/-! ## Field values -/

/-- Whether a field value may hold the byte: no control but the tab. -/
def isValueByte (b : UInt8) : Bool :=
  (0x20 ≤ b && b ≠ 0x7F) || b = 0x09

/-- The value of a header field. -/
structure FieldValue where
  bytes : List UInt8
  wellFormed : bytes.all isValueByte = true

instance : DecidableEq FieldValue := fun a b =>
  decidable_of_iff (a.bytes = b.bytes) ⟨fun h => by cases a; cases b; simp_all, fun h => h ▸ rfl⟩

namespace FieldValue

theorem bytes_injective : Function.Injective bytes := by
  rintro ⟨a, ha⟩ ⟨b, hb⟩ rfl
  rfl

/-- The field value with these bytes. -/
def ofBytes? (bs : List UInt8) : Option FieldValue :=
  if h : bs.all isValueByte = true then some ⟨bs, h⟩ else none

/-- The field value with the bytes of a text. -/
def ofText? (cs : List Char) : Option FieldValue :=
  ofBytes? (Utf8.encode cs)

theorem bytes_of_ofText? {cs : List Char} {v : FieldValue} (h : ofText? cs = some v) :
    v.bytes = Utf8.encode cs := by
  unfold ofText? ofBytes? at h
  split at h
  · rw [← Option.some.inj h]
  · cases h

end FieldValue

end OriginGate.Http
