import OriginGate.Config.Basic

/-!
# Lists with a wildcard

A list of allowed things is either everything or the things that its entries name. An entry `*`
anywhere means everything, even beside entries that name nothing.

* `Allowed.parse_wildcard`: a wildcard entry decides.
-/

namespace OriginGate

/-- Either every value or the listed ones. -/
inductive Allowed (α : Type) where
  | any
  | list (values : List α)
  deriving DecidableEq, Repr

/-- The same permission for the images of the values. -/
def Allowed.map {α β : Type} (f : α → β) : Allowed α → Allowed β
  | .any => .any
  | .list values => .list (values.map f)

/-- The values that all entries name, or the first entry that names none. -/
def readAll {α : Type} (read? : List Char → Option α) : List String → Except String (List α)
  | [] => .ok []
  | e :: es =>
    match read? e.toList with
    | none => .error e
    | some a => (readAll read? es).map (a :: ·)

/-- What a list of entries allows, or the first entry that names nothing. -/
def Allowed.parse {α : Type} (read? : List Char → Option α) (list : List String) :
    Except String (Allowed α) :=
  if (entries list).contains "*" then .ok .any
  else (readAll read? (entries list)).map .list

theorem Allowed.parse_wildcard {α : Type} (read? : List Char → Option α) {list : List String}
    (h : "*" ∈ entries list) : Allowed.parse read? list = .ok .any :=
  if_pos (List.contains_iff_mem.2 h)

end OriginGate
