/-!
# Characters as bytes

Texts travel as bytes: header values, files, request targets. `Utf8.encode` writes characters
as UTF-8 and `Utf8.decode?` reads them back, refusing bytes that are no UTF-8.

* `Utf8.decode?_encode`, `Utf8.eq_encode_of_decode?`: what is written is read back, and nothing else
  is read.
* `Utf8.encode_injective`: different texts are written differently.
* `Utf8.encode_append`: texts are written one after the other.
* `Utf8.first?_append`, `Utf8.eq_of_utf8EncodeChar_append`: the first character is told by the first
  bytes.
* `Utf8.utf8EncodeChar_of_ascii`, `Utf8.toNat_of_mem_utf8EncodeChar`: an ASCII character is its
  own byte, and other characters have none of these bytes.
* `Utf8.toLowerByte`: ASCII letters have a lower case, other bytes stay.
-/

namespace OriginGate.Text.Utf8

/-- The UTF-8 bytes of a text. -/
def encode (cs : List Char) : List UInt8 :=
  cs.flatMap String.utf8EncodeChar

/-- The text whose UTF-8 bytes these are, if there is one. -/
def decode? (bs : List UInt8) : Option (List Char) :=
  (ByteArray.mk bs.toArray).utf8Decode?.map Array.toList

/-- The character that the bytes start with, if they start with one. -/
def first? (bs : List UInt8) : Option Char :=
  bs.toByteArray.utf8DecodeChar? 0

@[simp] theorem encode_nil : encode [] = [] := rfl

@[simp] theorem encode_append (a b : List Char) : encode (a ++ b) = encode a ++ encode b :=
  List.flatMap_append

theorem decode?_encode (cs : List Char) : decode? (encode cs) = some cs := by
  have h : ByteArray.mk (encode cs).toArray = cs.utf8Encode :=
    ByteArray.ext (by simp [encode, List.utf8Encode])
  simp [decode?, h, List.utf8Decode?_utf8Encode]

theorem encode_injective {a b : List Char} (h : encode a = encode b) : a = b := by
  have ha := decode?_encode a
  rw [h, decode?_encode b] at ha
  exact (Option.some.inj ha).symm

theorem eq_encode_of_decode? {bs : List UInt8} {cs : List Char} (h : decode? bs = some cs) :
    bs = encode cs := by
  obtain ⟨array, harray, -⟩ := Option.map_eq_some_iff.1 h
  obtain ⟨text, htext⟩ := ByteArray.isSome_utf8Decode?_iff.1 (Option.isSome_of_eq_some harray)
  have hbytes : bs = encode text := by
    have hlist := congrArg (fun array => array.data.toList) htext
    simpa [List.utf8Encode, encode] using hlist
  rw [hbytes, decode?_encode] at h
  rw [hbytes, Option.some.inj h]

/-- The first character of a text is told by its bytes, whatever follows. -/
theorem first?_append (c : Char) (bs : List UInt8) :
    first? (String.utf8EncodeChar c ++ bs) = some c := by
  rw [first?, List.toByteArray_append, ByteArray.utf8DecodeChar?_utf8EncodeChar_append]

theorem eq_of_utf8EncodeChar_append {c d : Char} {bs ds : List UInt8}
    (h : String.utf8EncodeChar c ++ bs = String.utf8EncodeChar d ++ ds) : c = d := by
  have hfirst := congrArg first? h
  rw [first?_append, first?_append] at hfirst
  exact Option.some.inj hfirst

theorem utf8EncodeChar_ne_nil (c : Char) : String.utf8EncodeChar c ≠ [] := by
  intro hnil
  have hbytes : encode [c] = encode [] := by simp [encode, hnil]
  cases encode_injective hbytes

theorem utf8EncodeChar_of_ascii {c : Char} (h : c.toNat < 0x80) :
    String.utf8EncodeChar c = [UInt8.ofNat c.toNat] :=
  if_pos (Nat.le_of_lt_succ h)

/-- An ASCII text has as many bytes as characters. -/
theorem length_encode_of_ascii {cs : List Char} (h : ∀ c ∈ cs, c.toNat < 0x80) :
    (encode cs).length = cs.length := by
  induction cs with
  | nil => rfl
  | cons c cs ih =>
    obtain ⟨hc, hcs⟩ := List.forall_mem_cons.1 h
    rw [encode, List.flatMap_cons, List.length_append, utf8EncodeChar_of_ascii hc]
    exact (Nat.add_comm _ _).trans (congrArg Nat.succ (ih hcs))

theorem toNat_of_mem_utf8EncodeChar {c : Char} {b : UInt8} (h : b ∈ String.utf8EncodeChar c)
    (hb : b.toNat < 0x80) : c.toNat = b.toNat := by
  simp only [String.utf8EncodeChar] at h
  split at h
  · rename_i hc
    have hc' : c.toNat ≤ 0x7F := hc
    rw [List.mem_singleton.1 h]
    exact (Nat.mod_eq_of_lt (by omega)).symm
  -- all bytes of the longer forms are `0x80` or more
  · split at h
    · simp only [List.mem_cons, List.not_mem_nil, or_false] at h
      rcases h with rfl | rfl <;> simp only [UInt8.toNat_ofNat'] at hb <;> omega
    · split at h
      · simp only [List.mem_cons, List.not_mem_nil, or_false] at h
        rcases h with rfl | rfl | rfl <;> simp only [UInt8.toNat_ofNat'] at hb <;> omega
      · simp only [List.mem_cons, List.not_mem_nil, or_false] at h
        rcases h with rfl | rfl | rfl | rfl <;> simp only [UInt8.toNat_ofNat'] at hb <;> omega

def ofString (s : String) : List UInt8 :=
  encode s.toList

/-- The number of bytes of a text. -/
def size (cs : List Char) : Nat :=
  cs.foldr (fun c n => c.utf8Size + n) 0

/-- The byte of an ASCII lower-case letter for an upper-case one; any other byte itself. -/
def toLowerByte (b : UInt8) : UInt8 :=
  if 0x41 ≤ b ∧ b ≤ 0x5A then b + 0x20 else b

end OriginGate.Text.Utf8
