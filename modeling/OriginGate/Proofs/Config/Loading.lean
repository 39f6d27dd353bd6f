import OriginGate.Proofs.Config.Outcome
import OriginGate.Proofs.EnvFile.Prefix

/-!
# Loading with an environment file

The nearest file adds its assignments to the variables of the process, and what they are together
is decoded. A file that cannot be read to its end is read up to its first bad line, so that its
syntax never stops loading; a value with a null character does, since it cannot be stored.

* `Config.load_of_isNullFree`, `Config.exists_load_of_not_isNullFree`: loading in terms of what the
  nearest file adds.
* `Config.load_of_file`: the outcome of loading, whatever the file holds.
* `Config.load_of_parts`: loading from a file that starts with complete lines.
-/

namespace OriginGate

open Text EnvFile

namespace Config

variable {env : Environment} {files : EnvFiles}

/-! ## The variables with those of the file -/

theorem load_eq (env : Environment) (files : EnvFiles) :
    load env files = ((env.store (env.added files)).mapError LoadFault.file).bind
      fun merged => (decode merged).mapError LoadFault.decode := by
  rw [load, mergedEnvironment_eq_store]
  rfl

theorem load_of_isNullFree (h : Environment.IsNullFree (env.added files)) :
    load env files = (decode (env ++ env.added files)).mapError .decode := by
  rw [load_eq, Environment.store_of_isNullFree h]
  rfl

theorem exists_load_of_not_isNullFree (h : ¬ Environment.IsNullFree (env.added files)) :
    ∃ x ∈ env.added files, '\x00' ∈ x.2.toList ∧
      load env files = .error (.file (.unstorable x.1 x.2)) := by
  obtain ⟨x, hx, hnull, hstore⟩ := Environment.exists_store_of_not_isNullFree h env
  refine ⟨x, hx, hnull, ?_⟩
  rw [load_eq, hstore]
  rfl

/-! ## The outcome -/

/-- The syntax of a file never stops loading: there is a configuration, a first variable at fault,
or a value with a null character, which only a file that holds one can add. -/
theorem load_of_file (env : Environment) (files : EnvFiles) :
    (Environment.IsNullFree (env.added files) →
      (∃ c, load env files = .ok c) ∨
        ∃ (before : Environment) (name text : String) (after : Environment) (first : DecodeFault),
          env ++ env.added files = before ++ (name, text) :: after ∧
            before.IsSound ∧ before.IsFaultOf name text first ∧
            load env files = .error (.decode first)) ∧
      (¬ Environment.IsNullFree (env.added files) →
        ∃ x ∈ env.added files, '\x00' ∈ x.2.toList ∧
          load env files = .error (.file (.unstorable x.1 x.2))) ∧
      (env.IsNullFree → 0x00 ∉ files.nearest?.getD [] →
        Environment.IsNullFree (env.added files)) := by
  refine ⟨fun hnull => ?_, exists_load_of_not_isNullFree, Environment.addedBy_isNullFree⟩
  rw [load_of_isNullFree hnull]
  rcases Environment.isSound_or_exists_isFaultOf (env ++ env.added files) with
    hsound | ⟨before, name, text, after, first, hsplit, hsound, hfirst⟩
  · obtain ⟨c, hc⟩ := exists_decode_iff.2 hsound
    exact .inl ⟨c, by rw [hc]; rfl⟩
  · refine .inr ⟨before, name, text, after, first, hsplit, hsound, hfirst, ?_⟩
    rw [hsplit, decode_of_isFaultOf hsound hfirst]
    rfl

/-- A file that goes on with an open quote and bytes that are no text counts up to there; what stops
loading is a port in it. -/
theorem load_of_file_broken :
    let files : EnvFiles :=
      ⟨some (Utf8.ofString "PORT=x\nHOST='10.0\n" ++ [0xC3, 0x28, 0x0A] ++
        Utf8.ofString "PORT=80\n"), none⟩
    (∀ fault, load [("HOME", "/")] files ≠ .error (.file fault)) ∧
      load [("HOME", "/")] files =
        .error (.decode (.illTyped "invalid digit found in string" "x" "PORT")) := by
  intro files
  refine ⟨fun fault hfault => ?_, by rfl⟩
  obtain ⟨houtcome, -, hnullFree⟩ := load_of_file [("HOME", "/")] files
  rcases houtcome (hnullFree (by decide) (by decide)) with ⟨c, hc⟩ | ⟨_, _, _, _, _, -, -, -, hload⟩
  · rw [hfault] at hc
    cases hc
  · rw [hfault] at hload
    cases hload

/-- A null character in a value that nothing reads stops loading. -/
theorem load_of_file_null :
    let files : EnvFiles := ⟨some (Utf8.ofString "X=a\x00b"), none⟩
    load [] files = .error (.file (.unstorable "X" "a\x00b")) ∧
      ¬ ((∃ c, load [] files = .ok c) ∨ ∃ fault, load [] files = .error (.decode fault)) := by
  intro files
  have hload : load [] files = .error (.file (.unstorable "X" "a\x00b")) := by rfl
  refine ⟨hload, ?_⟩
  rintro (⟨c, hc⟩ | ⟨fault, hfault⟩)
  · rw [hload] at hc
    cases hc
  · rw [hload] at hfault
    cases hfault

/-! ## Files in parts -/

section Parts

variable {text : List Char} {lines : List (List Char)} (htext : Consists text lines)
  (hparse : ∀ line ∈ lines, Parses line) (hmark : ¬ StartsWithMark (Utf8.encode text))

include htext hmark

/-- What follows a bad line does not matter. -/
theorem addedBy_append_bad {bad : List UInt8} (hbad : IsBadLine bad)
    (hbadMark : ¬ StartsWithMark bad) (env : Environment) (rest : List UInt8) :
    env.addedBy (Utf8.encode text ++ bad ++ rest) = env.addedBy (Utf8.encode text) := by
  have hlines : logicalLines (Utf8.encode text ++ bad ++ rest) =
      lines ++ logicalLines (bad ++ rest) := by
    rw [List.append_assoc, htext.logicalLines_append hmark (hbad.not_startsWithMark hbadMark rest)]
  rw [Environment.addedBy, fileAssignments, hlines, hbad.assignments_eq hbadMark,
    Environment.addedBy, fileAssignments, htext.logicalLines_eq hmark]

include hparse

theorem addedBy_append {rest : List UInt8} (hrest : ¬ StartsWithMark rest) (env : Environment) :
    env.addedBy (Utf8.encode text ++ rest) = env.addedBy (Utf8.encode text) ++
      Environment.addedBy (env ++ env.addedBy (Utf8.encode text)) rest := by
  have hfirst := htext.logicalLines_eq hmark
  refine Environment.addedBy_of_logicalLines_eq ?_ (hfirst.symm ▸ hparse)
  rw [hfirst, htext.logicalLines_append hmark hrest]

/-- A name in a line stands for the variable that is set, or for what the first line assigned
before. -/
theorem fileAssignments_append_line {next line : List Char} (hnext : IsLogicalLine next line)
    (hnextMark : ¬ StartsWithMark (Utf8.encode next)) {env : Environment} {name value : String}
    (hline : readLine (Environment.valueOf (env ++ env.addedBy (Utf8.encode text))) line =
      .assignment name value) :
    fileAssignments env (Utf8.encode (text ++ next ++ ['\n'])) =
      fileAssignments env (Utf8.encode text) ++ [(name, value)] := by
  have hwhole : Consists (next ++ ['\n']) [line] := .cons hnext .nil
  have hwholeMark : ¬ StartsWithMark (Utf8.encode (next ++ ['\n'])) := by
    rwa [encode_append_newline, startsWithMark_append_newline_iff]
  have hfirst : fileAssignments env (Utf8.encode text) = assignments env lines := by
    rw [fileAssignments, htext.logicalLines_eq hmark]
  have hknown :=
    Environment.valueOf_congr (env.get?_append_firstAssignments (assignments env lines))
  rw [Environment.addedBy, hfirst, hknown] at hline
  rw [hfirst, fileAssignments, List.append_assoc, Utf8.encode_append,
    htext.logicalLines_append hmark hwholeMark, hwhole.logicalLines_eq hwholeMark,
    assignments_append hparse]
  refine congrArg _ ?_
  rw [assignments, hline]
  rfl

end Parts

/-- A file that starts with complete lines that can be read gives what these lines give if a bad
line follows, and else what the rest gives after their assignments. -/
theorem load_of_parts {text : List Char} {lines : List (List Char)} (htext : Consists text lines)
    (hparse : ∀ line ∈ lines, Parses line) (hmark : ¬ StartsWithMark (Utf8.encode text))
    (env : Environment) :
    (∀ bad rest files files', IsBadLine bad → ¬ StartsWithMark bad →
      files.nearest? = some (Utf8.encode text ++ bad ++ rest) →
      files'.nearest? = some (Utf8.encode text) → load env files = load env files') ∧
    (env.IsNullFree → '\x00' ∉ text → ∀ rest files files', ¬ StartsWithMark rest →
      files.nearest? = some (Utf8.encode text ++ rest) → files'.nearest? = some rest →
      load env files = load (env ++ env.addedBy (Utf8.encode text)) files') ∧
    (∀ name, Environment.get? (env ++ env.addedBy (Utf8.encode text)) name =
      (env.get? name).or (Environment.get? (fileAssignments env (Utf8.encode text)) name)) ∧
    ∀ next line name value, IsLogicalLine next line → ¬ StartsWithMark (Utf8.encode next) →
      readLine (Environment.valueOf (env ++ env.addedBy (Utf8.encode text))) line =
        .assignment name value →
      fileAssignments env (Utf8.encode (text ++ next ++ ['\n'])) =
        fileAssignments env (Utf8.encode text) ++ [(name, value)] := by
  refine ⟨fun bad rest files files' hbad hbadMark hfiles hfiles' => ?_,
    fun henv hnull rest files files' hrest hfiles hfiles' => ?_, fun name => ?_,
    fun next line name value hnext hnextMark hline => ?_⟩
  · rw [load_eq, load_eq, Environment.added, Environment.added, hfiles, hfiles', Option.getD_some,
      Option.getD_some, addedBy_append_bad htext hmark hbad hbadMark]
  · have hbytes : 0x00 ∉ Utf8.encode text := ascii_not_mem_encode (by decide) hnull
    rw [load_eq, load_eq, Environment.added, Environment.added, hfiles, hfiles', Option.getD_some,
      Option.getD_some, addedBy_append htext hparse hmark hrest,
      Environment.store_append (Environment.addedBy_isNullFree henv hbytes)]
  · rw [Environment.addedBy, Environment.get?_append_firstAssignments, Environment.get?_append]
  · exact fileAssignments_append_line htext hparse hmark hnext hnextMark hline

/-- The first value goes over two lines and has a comment after it, and the name that it is given is
assigned again before the file ends. -/
theorem load_of_parts_quoted :
    let text := "X='a\nb' # 'c\nHOST=$X\nX=c\n".toList
    let rest := Utf8.ofString "RUST_LOG=$X\n"
    load [("PORT", "9001")]
          ⟨none, some (Utf8.encode text ++ Utf8.ofString "no line\n" ++ rest)⟩ =
        .ok { host := "a\nb", port := 9001 } ∧
      load [("PORT", "9001")] ⟨some (Utf8.encode text ++ rest), none⟩ =
        load [("PORT", "9001"), ("X", "a\nb"), ("HOST", "a\nb")] ⟨some rest, none⟩ ∧
      load [("PORT", "9001")] ⟨some (Utf8.encode text ++ rest), none⟩ =
        .ok { host := "a\nb", port := 9001, logFilter := "a\nb" } := by
  intro text rest
  have hsplit : text = "X='a\nb' ".toList ++ '#' :: " 'c".toList ++ '\n' ::
      ("HOST=$X".toList ++ '\n' :: ("X=c".toList ++ ['\n'])) := by decide
  have htext : Consists text ["X='a\nb' ".toList, "HOST=$X".toList, "X=c".toList] := by
    rw [hsplit]
    exact .cons (.cut (by decide) (by decide) rfl (by decide))
      (.cons (.closed (by decide) (by decide) rfl)
        (.cons (.closed (by decide) (by decide) rfl) .nil))
  have hbadLine : IsBadLine (Utf8.ofString "no line" ++ [0x0A]) :=
    .malformed (.closed (by decide) (by decide) rfl) (by decide)
  have hadded : Environment.addedBy [("PORT", "9001")] (Utf8.encode text) =
      [("X", "a\nb"), ("HOST", "a\nb")] := by rfl
  have hload : load [("PORT", "9001")] ⟨some (Utf8.encode text), none⟩ =
      .ok { host := "a\nb", port := 9001 } := by rfl
  obtain ⟨hbad, hrest, -⟩ := load_of_parts htext (by decide) (by decide) [("PORT", "9001")]
  refine ⟨(hbad _ rest _ _ hbadLine (by decide) rfl rfl).trans hload, ?_, by rfl⟩
  have hparts := hrest (by decide) (by decide) rest ⟨some (Utf8.encode text ++ rest), none⟩
    ⟨some rest, none⟩ (by decide) rfl rfl
  rwa [hadded] at hparts

end Config

end OriginGate
