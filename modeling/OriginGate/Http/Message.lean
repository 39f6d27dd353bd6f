import OriginGate.Http.Token
import OriginGate.Http.Uri
import OriginGate.Text.Numeral

/-!
# Requests and responses

Header fields are a list of names and values in which a name may occur more than once.

* `Fields.getAll_set_self`, `getAll_set_ne`: a field that was set has the new value, the others keep
  theirs.
-/

namespace OriginGate.Http

open Text

/-- Header fields in order. -/
abbrev Fields := List (FieldName × FieldValue)

namespace Fields

/-- The values of a name, in order. -/
def getAll (fs : Fields) (n : FieldName) : List FieldValue :=
  (fs.filter (·.1 = n)).map (·.2)

/-- The first value of a name. -/
def get? (fs : Fields) (n : FieldName) : Option FieldValue :=
  (fs.getAll n).head?

/-- Whether there is a field of the name. -/
def has (fs : Fields) (n : FieldName) : Bool :=
  (fs.get? n).isSome

/-- The fields without those of a name. -/
def erase (fs : Fields) (n : FieldName) : Fields :=
  fs.filter (·.1 ≠ n)

/-- The fields with one value for a name, in place of all it had. -/
def set (fs : Fields) (n : FieldName) (v : FieldValue) : Fields :=
  fs.erase n ++ [(n, v)]

/-- The fields with one more value for a name. -/
def append (fs : Fields) (n : FieldName) (v : FieldValue) : Fields :=
  fs ++ [(n, v)]

/-- The fields with each of `new` set in turn. -/
def setAll (fs new : Fields) : Fields :=
  new.foldl (fun fs (n, v) => fs.set n v) fs

@[simp] theorem getAll_nil (n : FieldName) : getAll [] n = [] := rfl

@[simp] theorem getAll_cons_self (n : FieldName) (v : FieldValue) (fs : Fields) :
    getAll ((n, v) :: fs) n = v :: getAll fs n := by
  simp [getAll]

theorem getAll_cons_ne {m n : FieldName} (h : m ≠ n) (v : FieldValue) (fs : Fields) :
    getAll ((m, v) :: fs) n = getAll fs n := by
  simp [getAll, h]

theorem getAll_append (a b : Fields) (n : FieldName) :
    getAll (a ++ b) n = getAll a n ++ getAll b n := by
  simp [getAll]

theorem getAll_erase_self (fs : Fields) (n : FieldName) : (fs.erase n).getAll n = [] := by
  simp only [getAll, erase, List.map_eq_nil_iff, List.filter_eq_nil_iff, List.mem_filter]
  rintro x ⟨-, hx⟩
  simpa using hx

theorem getAll_erase_ne (fs : Fields) {m n : FieldName} (h : m ≠ n) :
    (fs.erase n).getAll m = fs.getAll m := by
  simp only [getAll, erase, List.filter_filter]
  congr 1
  refine List.filter_congr fun x _ => ?_
  by_cases hx : x.1 = m
  · simp [hx, h]
  · simp [hx]

theorem getAll_set_self (fs : Fields) (n : FieldName) (v : FieldValue) :
    (fs.set n v).getAll n = [v] := by
  rw [set, getAll_append, getAll_erase_self]
  simp [getAll]

theorem getAll_set_ne (fs : Fields) {m n : FieldName} (h : m ≠ n) (v : FieldValue) :
    (fs.set n v).getAll m = fs.getAll m := by
  rw [set, getAll_append, getAll_erase_ne fs h]
  simp [getAll, Ne.symm h]

@[simp] theorem setAll_cons (fs : Fields) (n : FieldName) (v : FieldValue) (new : Fields) :
    fs.setAll ((n, v) :: new) = (fs.set n v).setAll new := rfl

theorem has_eq_true_iff {fs : Fields} {n : FieldName} : fs.has n = true ↔ fs.getAll n ≠ [] := by
  cases h : fs.getAll n <;> simp [has, get?, h]

theorem getAll_eq_nil_iff {fs : Fields} {n : FieldName} :
    fs.getAll n = [] ↔ ∀ f ∈ fs, f.1 ≠ n := by
  simp [getAll, List.filter_eq_nil_iff]

theorem getAll_setAll_ne {fs new : Fields} {n : FieldName} (h : ∀ f ∈ new, f.1 ≠ n) :
    (fs.setAll new).getAll n = fs.getAll n := by
  induction new generalizing fs with
  | nil => rfl
  | cons f new ih =>
    rw [setAll_cons, ih fun g hg => h g (List.mem_cons_of_mem f hg),
      getAll_set_ne fs (h f List.mem_cons_self).symm]

/-- Readers that pass over a name do not see that its field was set. -/
theorem filter_set (fs : Fields) {n : FieldName} (v : FieldValue) (keep : FieldName → Bool)
    (h : keep n = false) :
    (fs.set n v).filter (fun f => keep f.1) = fs.filter fun f => keep f.1 := by
  have herase : (fs.erase n).filter (fun f => keep f.1) = fs.filter fun f => keep f.1 := by
    rw [erase, List.filter_filter]
    refine List.filter_congr fun f _ => ?_
    by_cases hf : f.1 = n
    · simp [hf, h]
    · simp [hf]
  rw [set, List.filter_append, herase]
  simp [h]

theorem filter_setAll (fs : Fields) {new : Fields} (keep : FieldName → Bool)
    (h : ∀ f ∈ new, keep f.1 = false) :
    (fs.setAll new).filter (fun f => keep f.1) = fs.filter fun f => keep f.1 := by
  induction new generalizing fs with
  | nil => rfl
  | cons f new ih =>
    rw [setAll_cons, ih _ fun g hg => h g (List.mem_cons_of_mem f hg),
      filter_set fs f.2 keep (h f List.mem_cons_self)]

/-- A reader that keeps a name sees all its values. -/
theorem getAll_filter (fs : Fields) {n : FieldName} (keep : FieldName → Bool)
    (h : keep n = true) : getAll (fs.filter fun f => keep f.1) n = fs.getAll n := by
  simp only [getAll, List.filter_filter]
  congr 1
  refine List.filter_congr fun f _ => ?_
  by_cases hf : f.1 = n
  · simp [hf, h]
  · simp [hf]

/-- Fields of different names that were set have the values they were set to. -/
theorem getAll_setAll {fs new : Fields} {n : FieldName} (hn : (new.map (·.1)).Nodup)
    (hfs : fs.getAll n = []) : (fs.setAll new).getAll n = new.getAll n := by
  induction new generalizing fs with
  | nil => exact hfs
  | cons f new ih =>
    obtain ⟨m, v⟩ := f
    obtain ⟨hm, hnew⟩ := List.nodup_cons.1 hn
    rw [setAll_cons]
    by_cases h : m = n
    · subst h
      have hne : ∀ f ∈ new, f.1 ≠ m := fun f hf he => hm (List.mem_map.2 ⟨f, hf, he⟩)
      rw [getAll_setAll_ne hne, getAll_set_self, getAll_cons_self, getAll_eq_nil_iff.2 hne]
    · rw [ih hnew (by rw [getAll_set_ne fs (Ne.symm h), hfs]), getAll_cons_ne h]

end Fields

/-- A field value with ASCII text that is known to be one. -/
def FieldValue.ofString (s : String) (h : (Utf8.ofString s).all isValueByte = true := by decide) :
    FieldValue :=
  ⟨Utf8.ofString s, h⟩

/-- The field value that writes a number. -/
def FieldValue.ofNat (n : Nat) : FieldValue :=
  ⟨(Utf8.encode (decimal n)).filter isValueByte, by simp⟩

structure Request where
  method : Method
  uri : Uri
  fields : Fields
  body : List UInt8

structure Response where
  status : Nat
  fields : Fields
  body : List UInt8
  deriving DecidableEq

end OriginGate.Http
