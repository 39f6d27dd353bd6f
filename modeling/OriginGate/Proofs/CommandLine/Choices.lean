import OriginGate.CommandLine.Reader

/-!
# Command lines as they are written

A command line is written as a list of choices, each an option by its long name, with a command
and choices of its own after it. The state of reading is known from the choices read so far
(`Given.After`); one more choice takes it to the state of the longer list, and so reading gives
what was written.

* `readArguments_choice`, `readArguments_choices`: one choice, and all of them.
* `Written.read_arguments`: what a command line says is what was written.
-/

namespace OriginGate.CommandLine

open Text

/-! ## Choices -/

/-- An option as it is written. A value is `joined` to the name by an equals sign or stands in an
argument of its own; that of a port is the number `n`. -/
inductive Choice where
  | verbose
  | jsonLogs
  | host (joined : Bool) (value : String)
  | port (joined : Bool) (text : String) (n : UInt16)
  deriving DecidableEq, Repr

namespace Choice

def parameter : Choice → Parameter
  | verbose => .verbose
  | jsonLogs => .jsonLogs
  | host .. => .host
  | port .. => .port

def value? : Choice → Option (Bool × String)
  | host joined value => some (joined, value)
  | port joined text _ => some (joined, text)
  | _ => none

def arguments (c : Choice) : List String :=
  match c.value? with
  | none => [c.parameter.dashed]
  | some (true, value) => [c.parameter.dashed ++ "=" ++ value]
  | some (false, value) => [c.parameter.dashed, value]

/-- A value in an argument of its own does not look like an option, and that of a port is one. -/
structure IsReadable (c : Choice) : Prop where
  word : ∀ value, c.value? = some (false, value) → Shape.of value.toList = .word
  number : ∀ joined text n, c = port joined text n → readPort text = .ok n

def host? : Choice → Option String
  | host _ value => some value
  | _ => none

def port? : Choice → Option UInt16
  | port _ _ n => some n
  | _ => none

end Choice

/-- What choices say. -/
def Options.ofChoices (cs : List Choice) : Options where
  verbose := cs.contains .verbose
  jsonLogs := cs.contains .jsonLogs
  host := cs.findSome? Choice.host?
  port := cs.findSome? Choice.port?

/-- The state of reading after choices, once the last value counts. -/
def Given.ofChoices (cs : List Choice) : Given where
  options := Options.ofChoices cs
  seen := cs.map Choice.parameter

namespace Options

variable {cs : List Choice}

theorem ofChoices_host (h : Parameter.host ∉ cs.map Choice.parameter) (joined : Bool)
    (value : String) :
    ofChoices (cs ++ [.host joined value]) = { ofChoices cs with host := some value } := by
  have hnone : cs.findSome? Choice.host? = none := by
    refine List.findSome?_eq_none_iff.2 fun c hc => ?_
    cases c with
    | host j v => exact absurd (List.mem_map_of_mem hc) h
    | _ => rfl
  simp [ofChoices, List.findSome?_append, hnone, Choice.host?, Choice.port?]

theorem ofChoices_port (h : Parameter.port ∉ cs.map Choice.parameter) (joined : Bool)
    (text : String) (n : UInt16) :
    ofChoices (cs ++ [.port joined text n]) = { ofChoices cs with port := some n } := by
  have hnone : cs.findSome? Choice.port? = none := by
    refine List.findSome?_eq_none_iff.2 fun c hc => ?_
    cases c with
    | port j t m => exact absurd (List.mem_map_of_mem hc) h
    | _ => rfl
  simp [ofChoices, List.findSome?_append, hnone, Choice.host?, Choice.port?]

theorem ofChoices_verbose :
    ofChoices (cs ++ [.verbose]) = { ofChoices cs with verbose := true } := by
  simp [ofChoices, Choice.host?, Choice.port?]

theorem ofChoices_jsonLogs :
    ofChoices (cs ++ [.jsonLogs]) = { ofChoices cs with jsonLogs := true } := by
  simp [ofChoices, Choice.host?, Choice.port?]

end Options

namespace Given

variable {cs : List Choice} {c : Choice}

theorem note_ofChoices (o : Options) (h : c.parameter ∉ cs.map Choice.parameter) :
    note { options := o, seen := cs.map Choice.parameter } c.parameter =
      ({ options := o, seen := (cs ++ [c]).map Choice.parameter }, none) := by
  simp [note, h]

theorem assign_ofChoices {joined : Bool} {value : String} (hc : c.IsReadable)
    (hvalue : c.value? = some (joined, value)) (hnew : c.parameter ∉ cs.map Choice.parameter) :
    (ofChoices cs).assign c.parameter value = (ofChoices (cs ++ [c]), none) := by
  rw [assign, ofChoices, note_ofChoices _ hnew]
  cases c with
  | verbose | jsonLogs => cases hvalue
  | host j v =>
    cases hvalue
    simp [Choice.parameter, ofChoices, Options.ofChoices_host hnew]
  | port j t n =>
    cases hvalue
    simp [Choice.parameter, ofChoices, Options.ofChoices_port hnew, hc.number _ _ _ rfl]

/-- The choices `cs` were read; a value may yet have to be made to count. -/
def After (g : Given) (cs : List Choice) : Prop :=
  g.settle = (ofChoices cs, none)

theorem after_ofChoices : (ofChoices cs).After cs :=
  settle_none rfl

theorem After.awaited?_eq_none {g : Given} (h : g.After cs) : g.awaited? = none := by
  obtain ⟨o, seen, pending⟩ := g
  match pending with
  | none => rfl
  | some (p, some value) => rfl
  | some (p, none) => cases congrArg Prod.snd h

end Given

/-! ## Arguments -/

theorem Shape.of_dashed (p : Parameter) : Shape.of p.dashed.toList = .long p.long.toList none := by
  cases p <;> rfl

theorem Shape.of_dashed_append (p : Parameter) (value : String) :
    Shape.of (p.dashed ++ "=" ++ value).toList = .long p.long.toList (some value.toList) := by
  cases p <;> simp [Parameter.dashed, Parameter.long, Shape.of]

theorem Command.of_ofName? {word : String} {c : Command} (h : ofName? word = some c) :
    word = c.name := by
  have hc := List.find?_some h
  exact (of_decide_eq_true hc).symm

theorem Command.shape_name (c : Command) : Shape.of c.name.toList = .word := by
  cases c <;> rfl

/-- Nothing that looks like an option names a command. -/
theorem readArguments_long {page : Page} {g : Given} {arg : String} {name : List Char}
    {value : Option (List Char)} (hg : g.awaited? = none)
    (hshape : Shape.of arg.toList = .long name value) (rest : List String) :
    readArguments page g (arg :: rest) =
      ((g.readLong page name value).bind fun g => readArguments page g rest) := by
  have hcommand : Command.ofName? arg = none := by
    cases h : Command.ofName? arg with
    | none => rfl
    | some c =>
      rw [Command.of_ofName? h, Command.shape_name] at hshape
      cases hshape
  have hhelp : arg ≠ helpName := by
    rintro rfl
    cases hshape
  rw [readArguments.eq_def]
  simp only [hg, hcommand, hshape, hhelp, and_false, if_false]
  rfl

/-- A word in the place of a value is that value. -/
theorem readArguments_word {page : Page} {g : Given} {p : Parameter} {arg : String}
    (hg : g.awaited? = some p) (hshape : Shape.of arg.toList = .word) (rest : List String) :
    readArguments page g (arg :: rest) =
      readArguments page { g with pending := some (p, some arg) } rest := by
  rw [readArguments.eq_def]
  simp [hg, hshape]

theorem readArguments_command {g : Given} (hg : g.awaited? = none) (c : Command)
    (rest : List String) :
    readArguments .program g (c.name :: rest) = .ok (g, some (c, rest)) := by
  rw [readArguments.eq_def]
  simp only [hg, Command.ofName?_name]

namespace Given

variable {page : Page} {g : Given} {cs : List Choice} {c : Choice}

theorem find?_parameter (hpage : page ≠ .help) (c : Choice) :
    page.parameters.find? (·.long.toList = c.parameter.long.toList) = some c.parameter := by
  cases page with
  | help => exact absurd rfl hpage
  | program | command => cases c <;> simp [Choice.parameter, Page.parameters, Parameter.long]

theorem readLong_switch (hpage : page ≠ .help) (hg : g.After cs) (hvalue : c.value? = none)
    (hnew : c.parameter ∉ cs.map Choice.parameter) :
    g.readLong page c.parameter.long.toList none = .ok (ofChoices (cs ++ [c])) := by
  rw [readLong, find?_parameter hpage c]
  cases c with
  | host | port => cases hvalue
  | verbose =>
    have hnote := note_ofChoices { Options.ofChoices cs with verbose := true } hnew
    rw [ofChoices, Options.ofChoices_verbose]
    change switch page g .verbose = _
    rw [switch, hg]
    exact congrArg (orStop page) hnote
  | jsonLogs =>
    have hnote := note_ofChoices { Options.ofChoices cs with jsonLogs := true } hnew
    rw [ofChoices, Options.ofChoices_jsonLogs]
    change switch page g .jsonLogs = _
    rw [switch, hg]
    exact congrArg (orStop page) hnote

theorem readLong_valued (hpage : page ≠ .help) (hg : g.After cs) {given : Bool × String}
    (hvalue : c.value? = some given) (value : Option (List Char)) :
    g.readLong page c.parameter.long.toList value =
      match value with
      | some text => orStop page ((ofChoices cs).assign c.parameter (String.ofList text))
      | none => .ok { ofChoices cs with pending := some (c.parameter, none) } := by
  have htakes : c.parameter.takesValue = true := by
    cases c with
    | verbose | jsonLogs => cases hvalue
    | host | port => rfl
  rw [readLong, find?_parameter hpage c]
  simp only [htakes, if_true]
  rw [valued, hg]
  cases value <;> rfl

end Given

/-! ## Reading -/

theorem readArguments_choice {page : Page} {g : Given} {cs : List Choice} {c : Choice}
    (hpage : page ≠ .help) (hg : g.After cs) (hc : c.IsReadable)
    (hnew : c.parameter ∉ cs.map Choice.parameter) (rest : List String) :
    ∃ g' : Given, g'.After (cs ++ [c]) ∧
      readArguments page g (c.arguments ++ rest) = readArguments page g' rest := by
  have hawaited := hg.awaited?_eq_none
  rw [Choice.arguments]
  cases hvalue : c.value? with
  | none =>
    refine ⟨.ofChoices (cs ++ [c]), Given.after_ofChoices, ?_⟩
    change readArguments page g (c.parameter.dashed :: rest) = _
    rw [readArguments_long hawaited (Shape.of_dashed _), Given.readLong_switch hpage hg hvalue hnew]
    rfl
  | some given =>
    obtain ⟨joined, value⟩ := given
    have hassign := Given.assign_ofChoices hc hvalue hnew
    cases joined with
    | true =>
      refine ⟨.ofChoices (cs ++ [c]), Given.after_ofChoices, ?_⟩
      change readArguments page g ((c.parameter.dashed ++ "=" ++ value) :: rest) = _
      rw [readArguments_long hawaited (Shape.of_dashed_append _ _),
        Given.readLong_valued hpage hg hvalue]
      simp only [String.ofList_toList, hassign]
      rfl
    | false =>
      -- the value is noted but left open: it counts once `settle` is called
      refine ⟨{ Given.ofChoices cs with pending := some (c.parameter, some value) }, hassign, ?_⟩
      change readArguments page g (c.parameter.dashed :: value :: rest) = _
      rw [readArguments_long hawaited (Shape.of_dashed _), Given.readLong_valued hpage hg hvalue]
      have hopen : Given.awaited? { Given.ofChoices cs with pending := some (c.parameter, none) } =
          some c.parameter := rfl
      exact readArguments_word hopen (hc.word value hvalue) rest

theorem readArguments_choices (page : Page) (hpage : page ≠ .help) {g : Given}
    {cs cs' : List Choice} (hg : g.After cs) (hreadable : ∀ c ∈ cs', c.IsReadable)
    (hnodup : ((cs ++ cs').map Choice.parameter).Nodup) (rest : List String) :
    ∃ g' : Given, g'.After (cs ++ cs') ∧
      readArguments page g (cs'.flatMap Choice.arguments ++ rest) = readArguments page g' rest := by
  -- `cs` grows by what is read, so that the state stays known throughout
  induction cs' generalizing g cs with
  | nil => exact ⟨g, by simpa using hg, rfl⟩
  | cons c cs' ih =>
    have hnew : c.parameter ∉ cs.map Choice.parameter := by
      intro hmem
      rw [List.map_append, List.map_cons] at hnodup
      exact (List.nodup_append.1 hnodup).2.2 _ hmem _ List.mem_cons_self rfl
    obtain ⟨g₁, hg₁, hread₁⟩ := readArguments_choice hpage hg
      (hreadable c List.mem_cons_self) hnew (cs'.flatMap Choice.arguments ++ rest)
    obtain ⟨g', hg', hread⟩ := ih hg₁ (fun d hd => hreadable d (List.mem_cons_of_mem _ hd))
      (by simpa using hnodup)
    refine ⟨g', by simpa using hg', ?_⟩
    rw [List.flatMap_cons, List.append_assoc, hread₁, hread]

/-! ## Command lines -/

/-- A command line as it is written: choices, and a command with choices of its own. -/
structure Written where
  outer : List Choice := []
  called : Option (Command × List Choice) := none
  deriving DecidableEq, Repr

namespace Written

def arguments : Written → List String
  | ⟨outer, none⟩ => outer.flatMap Choice.arguments
  | ⟨outer, some (c, inner)⟩ =>
    outer.flatMap Choice.arguments ++ c.name :: inner.flatMap Choice.arguments

/-- What a command line says. -/
def invocation : Written → Invocation
  | ⟨outer, none⟩ => { options := .ofChoices outer }
  | ⟨outer, some (c, inner)⟩ =>
    { options := (Options.ofChoices outer).merge (.ofChoices inner), command := c }

/-- Each option is given at most once on either side of the command, and with a value if it needs
one. -/
structure IsReadable (w : Written) : Prop where
  outer : ∀ c ∈ w.outer, c.IsReadable
  outer_nodup : (w.outer.map Choice.parameter).Nodup
  inner : ∀ called ∈ w.called, ∀ c ∈ called.2, c.IsReadable
  inner_nodup : ∀ called ∈ w.called, (called.2.map Choice.parameter).Nodup

theorem read_arguments {w : Written} (h : w.IsReadable) :
    Invocation.read w.arguments = .ok w.invocation := by
  obtain ⟨outer, called⟩ := w
  have hstart : Given.After {} [] := Given.settle_none rfl
  cases called with
  | none =>
    obtain ⟨g, hg, hread⟩ := readArguments_choices .program nofun hstart h.outer
      h.outer_nodup []
    rw [List.append_nil] at hread
    rw [arguments, Invocation.read, hread]
    change (Given.orStop .program g.settle).bind _ = _
    rw [hg]
    rfl
  | some call =>
    obtain ⟨c, inner⟩ := call
    obtain ⟨g, hg, hread⟩ := readArguments_choices .program nofun hstart h.outer
      h.outer_nodup (c.name :: inner.flatMap Choice.arguments)
    obtain ⟨g', hg', hread'⟩ := readArguments_choices (.command c) nofun hstart
      (h.inner _ rfl) (h.inner_nodup _ rfl) []
    rw [List.append_nil] at hread'
    rw [arguments, Invocation.read, hread, readArguments_command hg.awaited?_eq_none]
    change (readArguments (.command c) {} _).bind _ = _
    rw [hread']
    change (Given.orStop (.command c) g'.settle).bind _ = _
    rw [hg']
    change (Given.orStop .program g.settle).bind _ = _
    rw [hg]
    rfl

end Written

end OriginGate.CommandLine
