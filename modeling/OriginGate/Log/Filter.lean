import OriginGate.Log.Directive

/-!
# Log filters

A filter holds directives, the most specific first; of two that differ in their threshold only the
later one counts. Directives without a span and without values decide on records by themselves
and are kept apart from those that depend on spans; one with fields but no values is kept in both.
-/

namespace OriginGate.Log

open Text

/-- The decision on the records of a target with some fields. -/
structure Rule where
  target : Option (List Char)
  fields : List (List Char)
  threshold : Threshold
  deriving DecidableEq, Repr

namespace Rule

/-- The rule of a directive that needs no span and no value. -/
def ofDirective? (d : Directive) : Option Rule :=
  if d.span.isSome || d.fields.any (·.value.isSome) then none
  else some ⟨d.target, d.fields.map FieldTest.name, d.threshold⟩

def text (r : Rule) : List Char :=
  let scope := Directive.scopeText none r.fields
  Directive.compose (r.target.isSome || !scope.isEmpty) (r.target.getD []) scope r.threshold

/-- Compares how specific two rules are; the more specific one comes first. -/
def compare (a b : Rule) : Ordering :=
  let order :=
    (compareOptional Ord.compare (a.target.map Utf8.size) (b.target.map Utf8.size)).then <|
    (Ord.compare a.fields.length b.fields.length).then <|
    (compareOptional Ord.compare a.target b.target).then <|
    List.compareLex Ord.compare a.fields b.fields
  order.swap

/-- Whether a rule speaks of the records of a target that have a message only. -/
def appliesTo (r : Rule) (target : List Char) : Bool :=
  (r.target.getD []).isPrefixOf target && r.fields.all (· = "message".toList)

end Rule

/-- Puts an item into an ordered list, in the place of one that compares as equal. -/
def insertBy {α : Type} (cmp : α → α → Ordering) (a : α) : List α → List α
  | [] => [a]
  | b :: bs =>
    match cmp a b with
    | .lt => a :: b :: bs
    | .eq => a :: bs
    | .gt => b :: insertBy cmp a bs

structure Filter where
  /-- The decisions that need no span, the most specific first. -/
  rules : List Rule
  /-- The directives that depend on spans, the most specific first. -/
  spanned : List Directive
  /-- The most verbose threshold given, whether it still counts or not. -/
  peak : Threshold
  deriving DecidableEq, Repr

namespace Filter

/-- The filter without directives. -/
def empty : Filter := ⟨[], [], .off⟩

/-- Whether a directive depends on spans. -/
def isSpanned (d : Directive) : Bool :=
  d.span.isSome || !d.fields.isEmpty

/-- The filter of a list of directives. -/
def ofDirectives (ds : List Directive) : Filter :=
  let (spanned, plain) := ds.partition isSpanned
  let rules := (plain ++ spanned).filterMap Rule.ofDirective?
  { rules := rules.foldl (flip (insertBy Rule.compare)) []
    spanned := spanned.foldl (flip (insertBy Directive.compare)) []
    peak := ds.foldl (fun t d => t.max d.threshold) .off }

/-- Reads directives with commas between them; nothing between two commas counts for nothing. -/
def read (text : List Char) : Except DirectiveFault Filter := do
  let pieces := (split ',' text).filter fun p => !p.isEmpty
  return ofDirectives (← pieces.mapM Directive.read)

/-- The directives of the verbose mode. -/
def verboseText : String := "deepblocks_api=debug,tower_http=debug,info"

/-- The filter that lets records of the level `info` pass. -/
def usual : Filter := ofDirectives [{ threshold := .level .info }]

/-- The filter for a setting: the usual one if the setting is malformed. -/
def ofSetting (setting : String) (verbose : Bool) : Except DirectiveFault Filter :=
  match read (if verbose then verboseText else setting).toList with
  | .error .malformed => .ok usual
  | result => result

def text (f : Filter) : List Char :=
  join [','] (f.rules.map Rule.text ++ f.spanned.map Directive.text)

/-- The most verbose threshold that a record may pass; where values of fields count this cannot be
told beforehand. -/
def maxThreshold (f : Filter) : Threshold :=
  if f.spanned.any (fun d => d.fields.any (·.value.isSome)) then .level .trace else f.peak

/-- Whether a record of a target passes that has a message only and is in no span: the most
specific rule for it decides. -/
def enables (f : Filter) (target : String) (l : Level) : Bool :=
  match f.rules.find? (·.appliesTo target.toList) with
  | some r => r.threshold.admits l
  | none => false

end Filter

end OriginGate.Log
