import OriginGate.Config.Load
import OriginGate.Proofs.EnvFile.Lines
import OriginGate.Proofs.Text.Graphic

/-!
# Writing an environment file

Variables are written one to a line, each with its value between double quotes and a backslash
before the characters that would end the value, the line or the text as it is. Such a file is read
back as the variables, whatever the values are: blanks, comment signs and apostrophes in them count
as characters.

* `readValue_quoted`: a value between quotes is read back.
* `logicalLines_join`: lines that leave nothing open are the logical lines of their file.
* `readLine_assignmentLine`: a written line assigns its value to its name.
* `applyFile_written`: a written file adds its variables.
-/

namespace OriginGate

open Text Http

namespace EnvFile

/-! ## Values between double quotes -/

/-- A character of a value between double quotes. -/
def quotedChar (c : Char) : List Char :=
  if c = '\n' then ['\\', 'n']
  else if c = '\\' ∨ c = '"' ∨ c = '$' then ['\\', c]
  else [c]

/-- A value between double quotes. -/
def quoted (value : List Char) : List Char :=
  '"' :: (value.flatMap quotedChar ++ ['"'])

theorem readValue_quotedChar (lookUp : List Char → List Char) (c : Char) (rest : List Char) :
    readValue lookUp true .text (quotedChar c ++ rest) =
      (readValue lookUp true .text rest).map (c :: ·) := by
  unfold quotedChar
  split
  · rename_i hnewline
    subst hnewline
    simp [readValue, unescape?]
  · split
    · rename_i hescaped
      rcases hescaped with rfl | rfl | rfl <;> simp [readValue, unescape?]
    · rename_i hplain
      simp only [not_or] at hplain
      simp [readValue, hplain]

theorem readValue_quoted (lookUp : List Char → List Char) (value : List Char) :
    readValue lookUp false .text (quoted value) = some value := by
  have hclose : readValue lookUp true .text (value.flatMap quotedChar ++ ['"']) = some value := by
    induction value with
    | nil => simp [readValue]
    | cons c cs ih =>
      rw [List.flatMap_cons, List.append_assoc, readValue_quotedChar, ih, Option.map_some]
  simpa [quoted, readValue] using hclose

/-! ## What is open after a line -/

theorem run_quotedChar (c : Char) : Scan.weak.run (quotedChar c) = .ok .weak := by
  unfold quotedChar
  split
  · simp [Scan.run, Scan.step?]
  · split
    · simp [Scan.run, Scan.step?]
    · rename_i hplain
      simp only [not_or] at hplain
      simp [Scan.run, Scan.step?, hplain]

theorem run_quoted (value : List Char) : Scan.complete.run (quoted value) = .ok .complete := by
  have hopen : Scan.complete.run ['"'] = .ok .weak := rfl
  have hclose : Scan.weak.run ['"'] = .ok .complete := rfl
  have hvalue : Scan.weak.run (value.flatMap quotedChar) = .ok .weak := by
    induction value with
    | nil => rfl
    | cons c cs ih => exact Scan.run_append (run_quotedChar c) ih
  exact Scan.run_append hopen (Scan.run_append hvalue hclose)

/-! ## Lines of the file that are logical lines -/

/-- A text that is a logical line by itself wherever it stands in a file. -/
structure IsWhole (line : List Char) : Prop where
  start : ∃ c cs, line = c :: cs ∧ isGraphic c = true ∧ c ≠ '#'
  oneLine : '\n' ∉ line
  closed : Scan.complete.run line = .ok .complete
  last : line.getLast? ≠ some '\r'

namespace IsWhole

variable {line : List Char}

theorem ne_nil (h : IsWhole line) : line ≠ [] := by
  obtain ⟨c, cs, rfl, -⟩ := h.start
  exact List.cons_ne_nil c cs

theorem dropLineEnd_eq (h : IsWhole line) {ending : List Char}
    (hending : ending = [] ∨ ending = ['\n']) : dropLineEnd (line ++ ending) = line := by
  rcases hending with rfl | rfl
  · have hlast : line.getLast? ≠ some '\n' := fun hl => h.oneLine (List.mem_of_getLast? hl)
    rw [List.append_nil, dropLineEnd, if_neg hlast]
  · rw [dropLineEnd, List.getLast?_concat, if_pos rfl, List.dropLast_concat, if_neg h.last]

theorem joinLines_cons (h : IsWhole line) {ending : List Char}
    (hending : ending = [] ∨ ending = ['\n']) (rest : List (List UInt8)) :
    joinLines .complete [] (Utf8.encode (line ++ ending) :: rest) =
      line :: joinLines .complete [] rest := by
  have hrun : Scan.complete.run (line ++ ending) = .ok .complete := by
    refine Scan.run_append h.closed ?_
    rcases hending with rfl | rfl <;> rfl
  have hcomment : (trimStart (line ++ ending)).head? ≠ some '#' := by
    obtain ⟨c, cs, rfl, hc, hne⟩ := h.start
    rw [List.cons_append, trimStart_cons (not_isBlank_of_isGraphic hc), List.head?_cons]
    simpa using hne
  rw [joinLines, Utf8.decode?_encode]
  simp only [List.nil_append, hcomment, if_false, hrun, h.dropLineEnd_eq hending]

theorem withoutMark_eq (h : IsWhole line) (rest : List Char) :
    withoutMark (Utf8.encode (line ++ rest)) = Utf8.encode (line ++ rest) := by
  obtain ⟨c, cs, rfl, hc, -⟩ := h.start
  have hmark : (c :: cs ++ rest).head? ≠ some '\uFEFF' := by
    rintro ⟨⟩
    exact absurd hc (by decide)
  have hnot := not_startsWithMark_encode (List.cons_ne_nil c (cs ++ rest)) hmark []
  rw [List.append_nil] at hnot
  exact withoutMark_of_not hnot

end IsWhole

/-- The last line of a file may have a line end or none. -/
theorem joinLines_join {lines : List (List Char)} (hne : lines ≠ [])
    (h : ∀ line ∈ lines, IsWhole line) {ending : List Char}
    (hending : ending = [] ∨ ending = ['\n']) :
    joinLines .complete [] (physicalLines (Utf8.encode (join ['\n'] lines ++ ending))) = lines := by
  induction lines with
  | nil => exact absurd rfl hne
  | cons line lines ih =>
    have hline := h line List.mem_cons_self
    cases lines with
    | nil =>
      have hphysical : physicalLines (Utf8.encode (line ++ ending)) =
          [Utf8.encode (line ++ ending)] := by
        rcases hending with rfl | rfl
        · rw [List.append_nil]
          refine physicalLines_of_not_mem ?_ (newline_not_mem_encode hline.oneLine)
          exact fun hnil => hline.ne_nil (Utf8.encode_injective hnil)
        · have hphysical := physicalLines_encode hline.oneLine []
          rwa [← Utf8.encode_nil, ← encode_append_newline] at hphysical
      rw [join, hphysical, hline.joinLines_cons hending]
      rfl
    | cons next lines =>
      have hrest := ih (List.cons_ne_nil next lines) fun l hl => h l (List.mem_cons_of_mem line hl)
      rw [join, List.append_assoc, List.append_assoc, List.singleton_append, encode_append_newline,
        physicalLines_encode hline.oneLine, hline.joinLines_cons (.inr rfl), hrest]

theorem logicalLines_join {lines : List (List Char)} (hne : lines ≠ [])
    (h : ∀ line ∈ lines, IsWhole line) {ending : List Char}
    (hending : ending = [] ∨ ending = ['\n']) :
    logicalLines (Utf8.encode (join ['\n'] lines ++ ending)) = lines := by
  rw [logicalLines]
  refine Eq.trans ?_ (joinLines_join hne h hending)
  congr 2
  cases lines with
  | nil => exact absurd rfl hne
  | cons line lines =>
    have hline := h line List.mem_cons_self
    cases lines with
    | nil => exact hline.withoutMark_eq ending
    | cons next lines =>
      rw [join, List.append_assoc, List.append_assoc]
      exact hline.withoutMark_eq _

/-! ## Assignments -/

/-- Whether a text is a name that can be assigned to. -/
def IsName (cs : List Char) : Prop :=
  (cs.head?.any startsName && cs.all isNameChar) = true

instance (cs : List Char) : Decidable (IsName cs) :=
  inferInstanceAs (Decidable (_ = _))

theorem IsName.startsName {cs : List Char} (h : IsName cs) : cs.head?.any startsName = true :=
  (Bool.and_eq_true_iff.1 h).1

theorem IsName.isNameChar {cs : List Char} (h : IsName cs) : ∀ c ∈ cs, isNameChar c = true :=
  List.all_eq_true.1 (Bool.and_eq_true_iff.1 h).2

/-- The line that assigns a value to a name. -/
def assignmentLine (name value : String) : List Char :=
  name.toList ++ '=' :: quoted value.toList

theorem isGraphic_of_isNameChar {c : Char} (h : isNameChar c = true) : isGraphic c = true := by
  simp only [isNameChar, Bool.or_eq_true, decide_eq_true_eq] at h
  rcases h with (halnum | rfl) | rfl
  · exact isGraphic_of_isAlphanum halnum
  · decide
  · decide

theorem ne_of_isNameChar {c d : Char} (h : isNameChar c = true) (hd : isNameChar d = false) :
    c ≠ d := by
  rintro rfl
  rw [h] at hd
  cases hd

theorem run_name {cs : List Char} (h : ∀ c ∈ cs, isNameChar c = true) :
    Scan.complete.run cs = .ok .complete := by
  induction cs with
  | nil => rfl
  | cons c cs ih =>
    have hc := h c List.mem_cons_self
    have hblank := not_isBlank_of_isGraphic (isGraphic_of_isNameChar hc)
    have hstep : Scan.complete.step? c = some .complete := by
      simp [Scan.step?, Scan.open, hblank, ne_of_isNameChar hc (d := '\\') (by decide),
        ne_of_isNameChar hc (d := '"') (by decide), ne_of_isNameChar hc (d := '\'') (by decide)]
    rw [Scan.run, hstep]
    simp only [ih fun d hd => h d (List.mem_cons_of_mem c hd)]

theorem newline_not_mem_quoted (value : List Char) : '\n' ∉ quoted value := by
  have hchar : ∀ c, '\n' ∉ quotedChar c := by
    intro c
    unfold quotedChar
    split
    · decide
    · rename_i hne
      split <;> simp [Ne.symm hne]
  simp [quoted, hchar]

section Line

variable {name : String} (hname : IsName name.toList) (value : String)

include hname

theorem exists_cons_of_isName :
    ∃ c cs, name.toList = c :: cs ∧ startsName c = true ∧ isNameChar c = true := by
  have hstart := hname.startsName
  have hall := hname.isNameChar
  cases hcs : name.toList with
  | nil =>
    rw [hcs] at hstart
    cases hstart
  | cons c cs =>
    rw [hcs] at hstart hall
    exact ⟨c, cs, rfl, hstart, hall c List.mem_cons_self⟩

theorem isWhole_assignmentLine : IsWhole (assignmentLine name value) := by
  obtain ⟨c, cs, hcs, -, hc⟩ := exists_cons_of_isName hname
  constructor
  case start =>
    refine ⟨c, cs ++ '=' :: quoted value.toList, ?_, isGraphic_of_isNameChar hc,
      ne_of_isNameChar hc (by decide)⟩
    rw [assignmentLine, hcs, List.cons_append]
  case oneLine =>
    have hno : '\n' ∉ name.toList := fun hmem => absurd (hname.isNameChar _ hmem) (by decide)
    simp [assignmentLine, hno, newline_not_mem_quoted]
  case closed =>
    have hequals : Scan.complete.run ['='] = .ok .complete := rfl
    have hvalue := run_quoted value.toList
    exact Scan.run_append (run_name hname.isNameChar) (Scan.run_append hequals hvalue)
  case last => simp [assignmentLine, quoted, List.getLast?_append, List.getLast?_cons]

theorem readKey_assignmentLine :
    readKey (assignmentLine name value) = some (name.toList, quoted value.toList) := by
  obtain ⟨c, cs, hcs, hstart, -⟩ := exists_cons_of_isName hname
  have hequals : isNameChar '=' = false := by decide
  have hread : readName (assignmentLine name value) =
      some (name.toList, '=' :: quoted value.toList) := by
    have hhead : (assignmentLine name value).head?.any startsName = true := by
      simp [assignmentLine, hcs, hstart]
    rw [readName, if_pos hhead, assignmentLine, List.takeWhile_append_of_pos hname.isNameChar,
      List.dropWhile_append_of_pos hname.isNameChar, List.takeWhile_cons, List.dropWhile_cons,
      hequals]
    simp [trimStart_cons (c := '=') (by decide)]
  have hafter : afterEquals ('=' :: quoted value.toList) = some (quoted value.toList) := by
    rw [afterEquals, quoted, trimStart_cons (by decide)]
  simp only [readKey, hread, hafter, Option.bind_eq_bind, Option.bind_some]
  rfl

theorem readLine_assignmentLine (lookUp : List Char → List Char) :
    readLine lookUp (assignmentLine name value) = .assignment name value := by
  obtain ⟨c, cs, hcs, -, hc⟩ := exists_cons_of_isName hname
  have hend : trimEnd (assignmentLine name value) = assignmentLine name value := by
    have hquote : assignmentLine name value =
        (name.toList ++ '=' :: '"' :: value.toList.flatMap quotedChar) ++ ['"'] := by
      simp [assignmentLine, quoted]
    rw [hquote, trimEnd_concat (by decide)]
  have hcons : assignmentLine name value = c :: (cs ++ '=' :: quoted value.toList) := by
    rw [assignmentLine, hcs, List.cons_append]
  have hstart : trimStart (assignmentLine name value) = assignmentLine name value := by
    rw [hcons, trimStart_cons (not_isBlank_of_isGraphic (isGraphic_of_isNameChar hc))]
  have hsome : isBlankOrComment (assignmentLine name value) = false := by
    simp [hcons, isBlankOrComment, ne_of_isNameChar hc (d := '#') (by decide)]
  have hvalue : isBlankOrComment (quoted value.toList) = false := by
    simp [quoted, isBlankOrComment]
  simp only [readLine, hend, hstart, hsome, readKey_assignmentLine hname, hvalue,
    readValue_quoted, Bool.false_eq_true, if_false, String.ofList_toList]

end Line

end EnvFile

/-! ## Files -/

open EnvFile

/-- Variables that can be set: by names of their own, and to values without null characters. -/
structure Environment.IsStorable (vars : Environment) : Prop where
  names : ∀ x ∈ vars, IsName x.1.toList
  values : ∀ x ∈ vars, '\x00' ∉ x.2.toList
  nodup : (vars.map (·.1)).Nodup

/-- The text of a file that assigns the variables, without a line end after the last line. -/
def Environment.write (vars : Environment) : List Char :=
  join ['\n'] (vars.map fun x => assignmentLine x.1 x.2)

theorem applyLines_assignmentLine {env earlier vars : Environment} (h : (env ++ vars).IsStorable) :
    applyLines env earlier (vars.map fun x => assignmentLine x.1 x.2) =
      .ok (env ++ vars) := by
  induction vars generalizing env earlier with
  | nil => rw [List.map_nil, applyLines_nil, List.append_nil]
  | cons x vars ih =>
    have hmem : x ∈ env ++ x :: vars := List.mem_append_right env List.mem_cons_self
    have hnew : env.get? x.1 = none := by
      refine Environment.get?_eq_none_of_not_mem fun hname => ?_
      have hnodup := h.nodup
      rw [List.map_append, List.nodup_append] at hnodup
      exact hnodup.2.2 x.1 hname x.1 (by simp) rfl
    have hsplit : env ++ x :: vars = env ++ [x] ++ vars := by simp
    rw [List.map_cons, applyLines, readLine_assignmentLine (h.names x hmem)]
    simp only [hnew, h.values x hmem, if_false, Environment.set_eq_append hnew]
    rw [hsplit] at h ⊢
    exact ih h

theorem applyFile_written {vars : Environment} (hne : vars ≠ []) (h : vars.IsStorable)
    {ending : List Char} (hending : ending = [] ∨ ending = ['\n']) :
    applyFile [] (Utf8.encode (vars.write ++ ending)) = .ok vars := by
  have hlines : logicalLines (Utf8.encode (vars.write ++ ending)) =
      vars.map fun x => assignmentLine x.1 x.2 := by
    rw [Environment.write, logicalLines_join ?_ ?_ hending]
    · simpa using hne
    · rw [List.forall_mem_map]
      exact fun x hx => isWhole_assignmentLine (h.names x hx) x.2
  rw [applyFile, hlines]
  exact applyLines_assignmentLine h

end OriginGate
