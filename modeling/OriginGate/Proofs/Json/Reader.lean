import OriginGate.Proofs.Json.Words
import OriginGate.Text.Utf8

/-!
# Reading JSON documents

The words of a text are read one after the other. Arrays and objects whose end is not in sight stand
on a stack, the innermost first, each with what it holds so far. Nothing is skipped: in every state
the words read so far are known from the state, and so a document has no other words than its own.

* `Parse.step`: what one word does; `parse?`: the value of some words.
* `Parse.written_step`: the words that a state stands for grow by each word.
* `parse?_eq_some_iff`: the words that are read as a value are those of the value.
* `read?_compact`, `read?_pretty`: both texts of a value are read as that value.
-/

namespace OriginGate.Json

open Text

/-! ## One word after the other -/

/-- An array or an object that is not closed, with the values before the one that is read. -/
inductive Frame where
  | array (items : List Value)
  | object (members : List (String × Value)) (name : String)

/-- What may come next. -/
inductive Due where
  | value
  /-- An item or the end of an array that has just been opened. -/
  | firstItem
  /-- A name or the end of an object that has just been opened. -/
  | firstName
  | name (members : List (String × Value))
  | colon (members : List (String × Value)) (name : String)
  /-- The end of what is not closed, or a comma, after this value. -/
  | rest (v : Value)

structure Parse where
  frames : List Frame
  due : Due

namespace Parse

/-- Reads the first word of a value. -/
def open? (frames : List Frame) : Word → Option Parse
  | .text s => some ⟨frames, .rest (.string s)⟩
  | .mark '[' => some ⟨frames, .firstItem⟩
  | .mark '\x7b' => some ⟨frames, .firstName⟩
  | .mark _ => none

/-- Reads the word after a value. -/
def close? (v : Value) : List Frame → Word → Option Parse
  | .array items :: frames, .mark ',' => some ⟨.array (items ++ [v]) :: frames, .value⟩
  | .array items :: frames, .mark ']' => some ⟨frames, .rest (.array (items ++ [v]))⟩
  | .object members k :: frames, .mark ',' => some ⟨frames, .name (members ++ [(k, v)])⟩
  | .object members k :: frames, .mark '\x7d' =>
    some ⟨frames, .rest (.object (members ++ [(k, v)]))⟩
  | _, _ => none

def step (s : Parse) (w : Word) : Option Parse :=
  match s.due, w with
  | .value, w => open? s.frames w
  | .firstItem, .mark ']' => some ⟨s.frames, .rest (.array [])⟩
  | .firstItem, w => open? (.array [] :: s.frames) w
  | .firstName, .mark '\x7d' => some ⟨s.frames, .rest (.object [])⟩
  | .firstName, .text k => some ⟨s.frames, .colon [] k⟩
  | .name members, .text k => some ⟨s.frames, .colon members k⟩
  | .colon members k, .mark ':' => some ⟨.object members k :: s.frames, .value⟩
  | .rest v, w => close? v s.frames w
  | _, _ => none

def run (s : Parse) (words : List Word) : Option Parse :=
  words.foldlM step s

@[simp] theorem run_nil (s : Parse) : s.run [] = some s := rfl

@[simp] theorem run_cons (s : Parse) (w : Word) (words : List Word) :
    s.run (w :: words) = (s.step w).bind (·.run words) := rfl

theorem run_append (s : Parse) (a b : List Word) : s.run (a ++ b) = (s.run a).bind (·.run b) :=
  List.foldlM_append

end Parse

def parse? (words : List Word) : Option Value :=
  match Parse.run ⟨[], .value⟩ words with
  | some ⟨[], .rest v⟩ => some v
  | _ => none

/-- The value that a text stands for. -/
def read? (cs : List Char) : Option Value :=
  (words? cs).bind parse?

def readBytes? (bs : List UInt8) : Option Value :=
  (Utf8.decode? bs).bind read?

/-! ## The words of a value are read -/

namespace Parse

/-- The first word of a value is no end of an array. -/
theorem run_firstItem (frames : List Frame) (v : Value) (rest : List Word) :
    run ⟨frames, .firstItem⟩ (v.words ++ rest) =
      run ⟨.array [] :: frames, .value⟩ (v.words ++ rest) := by
  cases v <;> rfl

theorem itemWords_head (v : Value) (vs : List Value) :
    ∃ rest, itemWords (v :: vs) = v.words ++ rest := by
  cases vs with
  | nil => exact ⟨[], (List.append_nil _).symm⟩
  | cons w vs => exact ⟨_, rfl⟩

mutual

theorem run_words (frames : List Frame) :
    ∀ v : Value, run ⟨frames, .value⟩ v.words = some ⟨frames, .rest v⟩
  | .string s => rfl
  | .array [] => rfl
  | .array (v :: vs) => by
    have hitems := run_itemWords frames (v :: vs) [] (List.cons_ne_nil v vs)
    obtain ⟨rest, hrest⟩ := itemWords_head v vs
    rw [hrest, List.append_assoc, ← run_firstItem, ← List.append_assoc, ← hrest] at hitems
    exact hitems
  | .object [] => rfl
  | .object (m :: ms) => by
    have hmembers := run_memberWords frames (m :: ms) [] (List.cons_ne_nil m ms)
    -- the first name of an object is read as the later ones are
    cases ms with
    | nil => exact hmembers
    | cons n ms => exact hmembers

theorem run_itemWords (frames : List Frame) :
    ∀ (items done : List Value), items ≠ [] →
      run ⟨.array done :: frames, .value⟩ (itemWords items ++ [.mark ']']) =
        some ⟨frames, .rest (.array (done ++ items))⟩
  | [], _, h => absurd rfl h
  | [v], done, _ => by
    rw [itemWords, run_append, run_words (.array done :: frames) v]
    rfl
  | v :: w :: vs, done, _ => by
    have hrest := run_itemWords frames (w :: vs) (done ++ [v]) (List.cons_ne_nil w vs)
    rw [itemWords_cons, List.append_assoc, run_append, run_words (.array done :: frames) v,
      List.append_cons done]
    exact hrest

theorem run_memberWords (frames : List Frame) :
    ∀ members done : List (String × Value), members ≠ [] →
      run ⟨frames, .name done⟩ (memberWords members ++ [.mark '\x7d']) =
        some ⟨frames, .rest (.object (done ++ members))⟩
  | [], _, h => absurd rfl h
  | [m], done, _ => by
    have hvalue := run_member frames done m
    rw [memberWords, run_append, hvalue]
    rfl
  | m :: n :: ms, done, _ => by
    have hvalue := run_member frames done m
    have hrest := run_memberWords frames (n :: ms) (done ++ [m]) (List.cons_ne_nil n ms)
    rw [memberWords_cons, List.append_assoc, run_append, hvalue, List.append_cons done]
    exact hrest

/-- A member is read up to the end of its value. -/
theorem run_member (frames : List Frame) (done : List (String × Value)) :
    ∀ m : String × Value, run ⟨frames, .name done⟩ (.text m.1 :: .mark ':' :: m.2.words) =
      some ⟨.object done m.1 :: frames, .rest m.2⟩
  | (k, v) => run_words (.object done k :: frames) v

end

end Parse

/-! ## Nothing else is read -/

/-- The words of some things with commas between them. -/
def separated : List (List Word) → List Word
  | [] => []
  | [w] => w
  | w :: ws => w ++ .mark ',' :: separated ws

/-- The words of some things with a comma after each. -/
def ended (ws : List (List Word)) : List Word :=
  ws.flatMap (· ++ [.mark ','])

@[simp] theorem ended_append (a b : List (List Word)) : ended (a ++ b) = ended a ++ ended b :=
  List.flatMap_append

@[simp] theorem ended_singleton (w : List Word) : ended [w] = w ++ [.mark ','] :=
  List.append_nil _

theorem separated_concat (ws : List (List Word)) (w : List Word) :
    separated (ws ++ [w]) = ended ws ++ w := by
  induction ws with
  | nil => rfl
  | cons x xs ih =>
    obtain ⟨y, ys, hy⟩ := List.exists_cons_of_ne_nil (List.append_ne_nil_of_right_ne_nil xs
      (List.cons_ne_nil w []))
    have hcons : separated (x :: y :: ys) = x ++ .mark ',' :: separated (y :: ys) := rfl
    rw [List.cons_append, hy, hcons, ← hy, ih, ended, ended, List.flatMap_cons]
    simp

/-- The words of a member: its name, a colon and its value. -/
def memberWord (m : String × Value) : List Word :=
  .text m.1 :: .mark ':' :: m.2.words

theorem itemWords_eq (items : List Value) :
    itemWords items = separated (items.map Value.words) := by
  induction items with
  | nil => rfl
  | cons v vs ih =>
    cases vs with
    | nil => rfl
    | cons w ws => exact congrArg (fun rest => v.words ++ .mark ',' :: rest) ih

theorem memberWords_eq (members : List (String × Value)) :
    memberWords members = separated (members.map memberWord) := by
  induction members with
  | nil => rfl
  | cons m ms ih =>
    cases ms with
    | nil => rfl
    | cons n ns => exact congrArg (fun rest => memberWord m ++ .mark ',' :: rest) ih

theorem words_array_concat (items : List Value) (v : Value) :
    (Value.array (items ++ [v])).words =
      .mark '[' :: (ended (items.map Value.words) ++ v.words ++ [.mark ']']) := by
  rw [Value.words, itemWords_eq, List.map_append, List.map_singleton, separated_concat]

theorem words_object_concat (members : List (String × Value)) (m : String × Value) :
    (Value.object (members ++ [m])).words =
      .mark '\x7b' :: (ended (members.map memberWord) ++ memberWord m ++ [.mark '\x7d']) := by
  rw [Value.words, memberWords_eq, List.map_append, List.map_singleton, separated_concat]

/-- The words of what is not closed. -/
def Frame.written : Frame → List Word
  | .array items => .mark '[' :: ended (items.map Value.words)
  | .object members k => .mark '\x7b' :: (ended (members.map memberWord) ++ [.text k, .mark ':'])

/-- The words after those of what is not closed. -/
def Due.written : Due → List Word
  | .value => []
  | .firstItem => [.mark '[']
  | .firstName => [.mark '\x7b']
  | .name members => .mark '\x7b' :: ended (members.map memberWord)
  | .colon members k => .mark '\x7b' :: (ended (members.map memberWord) ++ [.text k])
  | .rest v => v.words

namespace Parse

def written (s : Parse) : List Word :=
  s.frames.reverse.flatMap Frame.written ++ s.due.written

theorem written_open? {frames : List Frame} {w : Word} {s : Parse}
    (h : open? frames w = some s) : s.written = frames.reverse.flatMap Frame.written ++ [w] := by
  unfold open? at h
  split at h
  all_goals cases h
  all_goals rfl

theorem written_close? {v : Value} {frames : List Frame} {w : Word} {s : Parse}
    (h : close? v frames w = some s) :
    s.written = frames.reverse.flatMap Frame.written ++ v.words ++ [w] := by
  unfold close? at h
  split at h
  -- a comma leaves the value among those before, a bracket makes it the last one
  case h_1 =>
    cases h
    simp [written, Due.written, Frame.written]
  case h_2 =>
    cases h
    simp [written, Due.written, Frame.written, words_array_concat]
  case h_3 =>
    cases h
    simp [written, Due.written, Frame.written, memberWord]
  case h_4 =>
    cases h
    simp [written, Due.written, Frame.written, words_object_concat, memberWord]
  case h_5 => cases h

theorem written_step {s s' : Parse} {w : Word} (h : s.step w = some s') :
    s'.written = s.written ++ [w] := by
  obtain ⟨frames, due⟩ := s
  unfold step at h
  split at h
  case h_1 =>
    rename_i hdue
    obtain rfl : due = .value := hdue
    rw [written_open? h, written, Due.written, List.append_nil]
  case h_3 =>
    rename_i hdue _
    obtain rfl : due = .firstItem := hdue
    rw [written_open? h]
    simp [written, Due.written, Frame.written, ended]
  case h_8 =>
    rename_i v hdue
    obtain rfl : due = .rest v := hdue
    exact written_close? h
  case h_9 => cases h
  -- the other words neither begin a value nor end one
  all_goals
    rename_i hdue
    obtain rfl := hdue
    cases h
    simp [written, Due.written, Frame.written, Value.words, itemWords, memberWords, ended]

theorem written_run {s s' : Parse} {words : List Word} (h : s.run words = some s') :
    s'.written = s.written ++ words := by
  induction words generalizing s with
  | nil =>
    rw [run_nil] at h
    rw [Option.some.inj h, List.append_nil]
  | cons w words ih =>
    rw [run_cons] at h
    obtain ⟨t, hstep, hrun⟩ := Option.bind_eq_some_iff.1 h
    rw [ih hrun, written_step hstep, List.append_assoc]
    rfl

end Parse

/-! ## Texts and values -/

theorem parse?_words (v : Value) : parse? v.words = some v := by
  rw [parse?, Parse.run_words []]

theorem parse?_eq_some_iff {words : List Word} {v : Value} :
    parse? words = some v ↔ words = v.words := by
  constructor
  · intro h
    unfold parse? at h
    split at h
    · rename_i u hrun
      obtain rfl := Option.some.inj h
      exact (Parse.written_run hrun).symm
    · cases h
  · rintro rfl
    exact parse?_words v

theorem read?_eq_some_iff {cs : List Char} {v : Value} :
    read? cs = some v ↔ words? cs = some v.words := by
  rw [read?, Option.bind_eq_some_iff]
  constructor
  · rintro ⟨words, hwords, hparse⟩
    rw [hwords, parse?_eq_some_iff.1 hparse]
  · intro h
    exact ⟨v.words, h, parse?_words v⟩

-- a character in two halves, a half alone, and a comma with nothing after it
example : read? "[ \"\\ud83D\\uDE00\" ]".toList = some (.array [.string "😀"]) := by rfl

example : read? "\"\\uDE00\"".toList = none := by rfl

example : read? "[\"a\",]".toList = none := by rfl

theorem read?_compact (v : Value) : read? v.compact = some v :=
  read?_eq_some_iff.2 (words?_of_spells v.spells_compact)

theorem read?_pretty (v : Value) : read? v.pretty = some v :=
  read?_eq_some_iff.2 (words?_of_spells (v.spells_prettyAt 0))

theorem readBytes?_compact (v : Value) : readBytes? (Utf8.encode v.compact) = some v := by
  rw [readBytes?, Utf8.decode?_encode, Option.bind_some, read?_compact]

/-- Different values have different texts. -/
theorem Value.compact_injective : Function.Injective Value.compact := by
  intro v w h
  have hread := read?_compact v
  rw [h, read?_compact w] at hread
  exact (Option.some.inj hread).symm

end OriginGate.Json
