import OriginGate.EnvFile.Lines

/-!
# The logical lines of a file

A logical line is told here from its text as a whole: it ends at the first line end outside quotes,
and a comment in its last line is no part of it. A file that starts with complete logical lines is
read as these lines and then as the rest of it.

* `physicalLines_encode`: a text without line ends is one line of the file.
* `Scan.run_append_eq`: a line is scanned part by part.
* `IsLogicalLine.joinLines_eq`: a logical line is read by itself, whatever follows it.
* `Consists.logicalLines_append`: complete lines and the rest.
* `bytes_subset_of_mem_logicalLines`: the characters of the lines are those of the file.
-/

namespace OriginGate.EnvFile

open Text

/-! ## Lines of the file -/

theorem physicalLines_append_newline {bs : List UInt8} (h : 0x0A ∉ bs) (rest : List UInt8) :
    physicalLines (bs ++ 0x0A :: rest) = (bs ++ [0x0A]) :: physicalLines rest := by
  induction bs with
  | nil => rfl
  | cons b bs ih =>
    simp only [List.mem_cons, not_or] at h
    rw [List.cons_append, physicalLines, if_neg (Ne.symm h.1), ih h.2]
    rfl

theorem physicalLines_of_not_mem {bs : List UInt8} (hne : bs ≠ []) (h : 0x0A ∉ bs) :
    physicalLines bs = [bs] := by
  induction bs with
  | nil => exact absurd rfl hne
  | cons b bs ih =>
    simp only [List.mem_cons, not_or] at h
    rw [physicalLines, if_neg (Ne.symm h.1)]
    cases bs with
    | nil => rfl
    | cons b' bs => rw [ih (List.cons_ne_nil b' bs) h.2]

theorem ascii_not_mem_encode {cs : List Char} {b : UInt8} (hb : b.toNat < 0x80)
    (h : Char.ofNat b.toNat ∉ cs) : b ∉ Utf8.encode cs := by
  intro hmem
  obtain ⟨c, hc, hbyte⟩ := List.mem_flatMap.1 hmem
  rw [← Char.ofNat_toNat c, Utf8.toNat_of_mem_utf8EncodeChar hbyte hb] at hc
  exact h hc

theorem newline_not_mem_encode {cs : List Char} (h : '\n' ∉ cs) : 0x0A ∉ Utf8.encode cs :=
  ascii_not_mem_encode (by decide) h

theorem encode_append_newline (cs rest : List Char) :
    Utf8.encode (cs ++ '\n' :: rest) = Utf8.encode cs ++ 0x0A :: Utf8.encode rest :=
  Utf8.encode_append ..

theorem physicalLines_encode {line : List Char} (h : '\n' ∉ line) (bs : List UInt8) :
    physicalLines (Utf8.encode line ++ 0x0A :: bs) =
      Utf8.encode (line ++ ['\n']) :: physicalLines bs := by
  rw [physicalLines_append_newline (newline_not_mem_encode h), encode_append_newline,
    Utf8.encode_nil]

/-- Whether a file starts with the mark of its encoding. -/
def StartsWithMark (bs : List UInt8) : Prop :=
  bs.take 3 = [0xEF, 0xBB, 0xBF]

instance (bs : List UInt8) : Decidable (StartsWithMark bs) :=
  inferInstanceAs (Decidable (_ = _))

theorem withoutMark_of_not {bs : List UInt8} (h : ¬ StartsWithMark bs) : withoutMark bs = bs :=
  if_neg h

/-- The mark of the encoding holds no line end. -/
theorem startsWithMark_append_newline_iff (bs rest : List UInt8) :
    StartsWithMark (bs ++ 0x0A :: rest) ↔ StartsWithMark bs := by
  match bs with
  | [] | [_] | [_, _] | _ :: _ :: _ :: _ => simp [StartsWithMark]

/-- The mark of the encoding is written as one character. -/
theorem not_startsWithMark_encode {text : List Char} (hne : text ≠ [])
    (hmark : text.head? ≠ some '\uFEFF') (bs : List UInt8) :
    ¬ StartsWithMark (Utf8.encode text ++ bs) := by
  obtain ⟨c, cs, rfl⟩ := List.exists_cons_of_ne_nil hne
  refine fun htake => hmark ?_
  have hsplit := List.take_append_drop 3 (Utf8.encode (c :: cs) ++ bs)
  have hbytes : String.utf8EncodeChar '\uFEFF' = [0xEF, 0xBB, 0xBF] := by decide
  rw [htake, ← hbytes, Utf8.encode, List.flatMap_cons, List.append_assoc] at hsplit
  rw [List.head?_cons, Utf8.eq_of_utf8EncodeChar_append hsplit]

/-! ## Scanning in parts -/

theorem Scan.run_append_eq {s t : Scan} {cs : List Char} (h : s.run cs = .ok t) (ds : List Char) :
    s.run (cs ++ ds) = (t.run ds).mapError (cs ++ ·) := by
  induction cs generalizing s with
  | nil =>
    cases h
    rw [List.nil_append]
    cases t.run ds <;> rfl
  | cons c cs ih =>
    rw [Scan.run] at h
    rw [List.cons_append, Scan.run]
    cases hstep : s.step? c with
    | none =>
      rw [hstep] at h
      cases h
    | some s' =>
      simp only [hstep] at h ⊢
      cases hrun : s'.run cs with
      | error before =>
        rw [hrun] at h
        cases h
      | ok t' =>
        rw [hrun] at h
        rw [ih (hrun.trans h)]
        cases t.run ds <;> rfl

theorem Scan.run_append {s t u : Scan} {cs ds : List Char} (hcs : s.run cs = .ok t)
    (hds : t.run ds = .ok u) : s.run (cs ++ ds) = .ok u := by
  rw [Scan.run_append_eq hcs, hds]
  rfl

theorem Scan.run_eq_ok_of_append {s t u : Scan} {cs ds : List Char} (hcs : s.run cs = .ok t)
    (h : s.run (cs ++ ds) = .ok u) : t.run ds = .ok u := by
  rw [Scan.run_append_eq hcs] at h
  cases hds : t.run ds with
  | ok v =>
    rw [hds] at h
    exact h
  | error before =>
    rw [hds] at h
    cases h

theorem Scan.run_eq_error_of_append {s t : Scan} {cs ds before : List Char} (hcs : s.run cs = .ok t)
    (h : s.run (cs ++ ds) = .error (cs ++ before)) : t.run ds = .error before := by
  rw [Scan.run_append_eq hcs] at h
  cases hds : t.run ds with
  | ok u =>
    rw [hds] at h
    cases h
  | error before' =>
    rw [hds] at h
    rw [List.append_cancel_left (Except.error.inj h)]

/-- What follows a comment does not matter. -/
theorem Scan.run_append_of_error {s : Scan} {cs before : List Char} (h : s.run cs = .error before)
    (ds : List Char) : s.run (cs ++ ds) = .error before := by
  induction cs generalizing s before with
  | nil => cases h
  | cons c cs ih =>
    rw [Scan.run] at h
    rw [List.cons_append, Scan.run]
    cases hstep : s.step? c with
    | none =>
      rw [hstep] at h
      exact h
    | some s' =>
      simp only [hstep] at h ⊢
      cases hrun : s'.run cs with
      | ok t =>
        rw [hrun] at h
        cases h
      | error before' =>
        rw [hrun] at h
        rw [ih hrun]
        exact h

/-- Whether each line end of a text leaves quotes open. -/
def Scan.staysOpen (s : Scan) : List Char → Bool
  | [] => true
  | c :: cs =>
    match s.step? c with
    | none => false
    | some t => (c ≠ '\n' || t ≠ .complete) && t.staysOpen cs

theorem Scan.staysOpen_append_newline {s : Scan} {cs rest : List Char}
    (h : s.staysOpen (cs ++ '\n' :: rest) = true) :
    ∃ t, s.run (cs ++ ['\n']) = .ok t ∧ t ≠ .complete ∧ t.staysOpen rest = true := by
  induction cs generalizing s with
  | nil =>
    rw [List.nil_append, staysOpen] at h
    cases hstep : s.step? '\n' with
    | none =>
      rw [hstep] at h
      cases h
    | some t =>
      rw [hstep] at h
      simp only [ne_eq, not_true_eq_false, decide_false, Bool.false_or, Bool.and_eq_true,
        decide_eq_true_eq] at h
      exact ⟨t, by rw [List.nil_append, run, hstep]; rfl, h⟩
  | cons c cs ih =>
    rw [List.cons_append, staysOpen] at h
    cases hstep : s.step? c with
    | none =>
      rw [hstep] at h
      cases h
    | some s' =>
      rw [hstep] at h
      obtain ⟨t, hrun, ht⟩ := ih (Bool.and_eq_true_iff.1 h).2
      refine ⟨t, ?_, ht⟩
      rw [List.cons_append, run, hstep]
      simp only [hrun]

/-! ## Logical lines with their line ends -/

theorem head?_trimStart_append (cs ds : List Char) :
    (trimStart (cs ++ ds)).head? = (trimStart cs).head?.or (trimStart ds).head? := by
  rw [trimStart, trimStart, trimStart, List.dropWhile_append]
  cases List.dropWhile isBlank cs <;> rfl

/-- Whether a text starts with a comment. -/
def startsComment (cs : List Char) : Prop :=
  (trimStart cs).head? = some '#'

instance (cs : List Char) : Decidable (startsComment cs) :=
  inferInstanceAs (Decidable (_ = _))

theorem startsComment.append {cs : List Char} (h : startsComment cs) (ds : List Char) :
    startsComment (cs ++ ds) := by
  rw [startsComment, head?_trimStart_append, h]
  rfl

theorem startsComment_newline_iff {cs : List Char} :
    startsComment (cs ++ ['\n']) ↔ startsComment cs := by
  have hblank : trimStart ['\n'] = [] := by decide
  rw [startsComment, head?_trimStart_append, hblank, List.head?_nil, Option.or_none, startsComment]

/-- `text` with the line end after it is one logical line of a file, which is read as `line`. -/
inductive IsLogicalLine : List Char → List Char → Prop
  /-- Quotes in a comment do not matter. -/
  | comment {text : List Char} (mark : startsComment text) (oneLine : '\n' ∉ text) :
    IsLogicalLine text []
  /-- Quotes are closed at the line end, and at no line end before it. -/
  | closed {text : List Char} (mark : ¬ startsComment text)
    (inside : Scan.complete.staysOpen text = true)
    (complete : Scan.complete.run (text ++ ['\n']) = .ok .complete) :
    IsLogicalLine text (dropLineEnd (text ++ ['\n']))
  /-- A comment, which starts after a blank outside quotes, lasts to the line end. -/
  | cut {line comment : List Char} (mark : ¬ startsComment (line ++ '#' :: comment))
    (inside : Scan.complete.staysOpen line = true)
    (start : Scan.complete.run (line ++ ['#']) = .error line) (oneLine : '\n' ∉ comment) :
    IsLogicalLine (line ++ '#' :: comment) line

/-- The first lines of a text, up to the last in which a logical line ends, are joined. -/
theorem joinLines_staysOpen {s : Scan} {start text : List Char}
    (hstart : Scan.complete.run start = .ok s) (hmark : ¬ startsComment (start ++ text))
    (hopen : s.staysOpen text = true) :
    ∃ lines last t, text = lines ++ last ∧ '\n' ∉ last ∧
      Scan.complete.run (start ++ lines) = .ok t ∧
      ∀ bs, joinLines s start (physicalLines (Utf8.encode text ++ bs)) =
        joinLines t (start ++ lines) (physicalLines (Utf8.encode last ++ bs)) := by
  -- one line of the file at a time: what is open after it is what the next one starts with
  induction hlength : text.length using Nat.strongRecOn generalizing s start text with
  | ind n ih =>
    by_cases hnewline : '\n' ∈ text
    · obtain ⟨cs, rest, rfl, hcs⟩ := List.eq_append_cons_of_mem hnewline
      obtain ⟨t, hrun, ht, hrest⟩ := Scan.staysOpen_append_newline hopen
      have hnext := Scan.run_append hstart hrun
      have hshorter : rest.length < n := by
        rw [List.length_append, List.length_cons] at hlength
        omega
      have hsplit : start ++ (cs ++ '\n' :: rest) = start ++ (cs ++ ['\n']) ++ rest := by simp
      rw [hsplit] at hmark
      obtain ⟨lines, last, u, rfl, hlast, hu, hjoin⟩ :=
        ih rest.length hshorter hnext hmark hrest rfl
      refine ⟨cs ++ '\n' :: lines, last, u, by simp, hlast, ?_, fun bs => ?_⟩
      · simpa using hu
      · have hno : ¬ startsComment (start ++ (cs ++ ['\n'])) := fun h => hmark (h.append _)
        have happend : start ++ (cs ++ '\n' :: lines) = start ++ (cs ++ ['\n']) ++ lines := by simp
        rw [encode_append_newline, List.append_assoc, List.cons_append, physicalLines_encode hcs,
          joinLines, Utf8.decode?_encode, happend, ← hjoin bs]
        simp only [startsComment] at hno
        simp only [hno, if_false, hrun]
    · exact ⟨[], text, s, rfl, hnewline, by rw [List.append_nil, hstart], fun bs => by
        rw [List.append_nil]⟩

/-- Lines after which something is open are joined with what follows them. -/
theorem exists_joinLines_eq {text : List Char} (mark : ¬ startsComment text)
    (inside : Scan.complete.staysOpen (text ++ ['\n']) = true) :
    ∃ t, ∀ bs, joinLines .complete [] (physicalLines (Utf8.encode (text ++ ['\n']) ++ bs)) =
      joinLines t (text ++ ['\n']) (physicalLines bs) := by
  have hempty : Scan.complete.run [] = .ok .complete := rfl
  have hmark : ¬ startsComment ([] ++ (text ++ ['\n'])) := mt startsComment_newline_iff.1 mark
  obtain ⟨lines, last, t, hsplit, hlast, -, hjoin⟩ := joinLines_staysOpen hempty hmark inside
  -- the text ends where one of its lines does
  have hnil : last = [] := by
    have hend := congrArg List.getLast? hsplit
    rw [List.getLast?_concat, List.getLast?_append] at hend
    cases hcases : last.getLast? with
    | none => exact List.getLast?_eq_none_iff.1 hcases
    | some c =>
      rw [hcases] at hend
      cases hend
      exact absurd (List.mem_of_getLast? hcases) hlast
  rw [hnil, List.append_nil] at hsplit
  rw [hnil, ← hsplit] at hjoin
  exact ⟨t, hjoin⟩

theorem not_startsComment_of_append {cs ds : List Char} (h : ¬ startsComment (cs ++ ds)) :
    ¬ startsComment cs :=
  fun hcs => h (hcs.append ds)

/-- A logical line is read by itself, whatever follows it. -/
theorem IsLogicalLine.joinLines_eq {text line : List Char} (h : IsLogicalLine text line)
    (bs : List UInt8) :
    joinLines .complete [] (physicalLines (Utf8.encode text ++ 0x0A :: bs)) =
      line :: joinLines .complete [] (physicalLines bs) := by
  cases h with
  | comment mark oneLine =>
    have hmark := mark.append ['\n']
    rw [startsComment] at hmark
    rw [physicalLines_encode oneLine, joinLines, Utf8.decode?_encode]
    simp only [List.nil_append, hmark, if_true]
  | closed mark inside complete =>
    have hempty : Scan.complete.run [] = .ok .complete := rfl
    obtain ⟨lines, last, t, rfl, hlast, ht, hjoin⟩ :=
      joinLines_staysOpen hempty mark inside
    rw [List.nil_append] at ht hjoin
    have hrun : t.run (last ++ ['\n']) = .ok .complete := by
      rw [List.append_assoc] at complete
      exact Scan.run_eq_ok_of_append ht complete
    have hno := mt startsComment_newline_iff.1 mark
    rw [hjoin, physicalLines_encode hlast, joinLines, Utf8.decode?_encode]
    rw [startsComment, List.append_assoc] at hno
    simp only [hno, if_false, hrun, List.append_assoc]
  | @cut line comment mark inside start oneLine =>
    have hempty : Scan.complete.run [] = .ok .complete := rfl
    obtain ⟨lines, last, t, rfl, hlast, ht, hjoin⟩ :=
      joinLines_staysOpen hempty (not_startsComment_of_append mark) inside
    rw [List.nil_append] at ht hjoin
    have hone : '\n' ∉ last ++ '#' :: comment := by
      simp [hlast, oneLine]
    -- the scan stops at the mark, so that the comment may hold any quotes
    have hrun : t.run (last ++ '#' :: comment ++ ['\n']) = .error last := by
      rw [List.append_assoc] at start
      have hmark := Scan.run_eq_error_of_append ht start
      have hmore := Scan.run_append_of_error hmark (comment ++ ['\n'])
      simpa using hmore
    have hno : ¬ startsComment (lines ++ (last ++ '#' :: comment ++ ['\n'])) := by
      have hline := mt startsComment_newline_iff.1 mark
      simpa using hline
    rw [Utf8.encode_append, List.append_assoc, hjoin, ← List.append_assoc, ← Utf8.encode_append,
      physicalLines_encode hone, joinLines, Utf8.decode?_encode]
    rw [startsComment] at hno
    simp only [hno, if_false, hrun]

/-- A text that consists of logical lines, which are read as `lines`. -/
inductive Consists : List Char → List (List Char) → Prop
  | nil : Consists [] []
  | cons {text line rest : List Char} {lines : List (List Char)} (first : IsLogicalLine text line)
    (others : Consists rest lines) : Consists (text ++ '\n' :: rest) (line :: lines)

theorem Consists.joinLines_eq {text : List Char} {lines : List (List Char)}
    (h : Consists text lines) (bs : List UInt8) :
    joinLines .complete [] (physicalLines (Utf8.encode text ++ bs)) =
      lines ++ joinLines .complete [] (physicalLines bs) := by
  induction h with
  | nil => rfl
  | cons first _ ih =>
    rw [encode_append_newline, List.append_assoc, List.cons_append, first.joinLines_eq, ih,
      List.cons_append]

theorem Consists.startsWithMark_append_iff {text : List Char} {lines : List (List Char)}
    (h : Consists text lines) {bs : List UInt8} (hbs : ¬ StartsWithMark bs) :
    StartsWithMark (Utf8.encode text ++ bs) ↔ StartsWithMark (Utf8.encode text) := by
  cases h with
  | nil => exact iff_of_false hbs (by decide)
  | cons =>
    rw [encode_append_newline, List.append_assoc, List.cons_append,
      startsWithMark_append_newline_iff, startsWithMark_append_newline_iff]

theorem Consists.logicalLines_append {text : List Char} {lines : List (List Char)}
    (h : Consists text lines) (hmark : ¬ StartsWithMark (Utf8.encode text)) {bs : List UInt8}
    (hbs : ¬ StartsWithMark bs) :
    logicalLines (Utf8.encode text ++ bs) = lines ++ logicalLines bs := by
  have hwhole := mt (h.startsWithMark_append_iff hbs).1 hmark
  rw [logicalLines, withoutMark_of_not hwhole, h.joinLines_eq, logicalLines,
    withoutMark_of_not hbs]

theorem Consists.logicalLines_eq {text : List Char} {lines : List (List Char)}
    (h : Consists text lines) (hmark : ¬ StartsWithMark (Utf8.encode text)) :
    logicalLines (Utf8.encode text) = lines := by
  have hnil : ¬ StartsWithMark [] := by decide
  have hlines := h.logicalLines_append hmark hnil
  rwa [List.append_nil, show logicalLines [] = [] from rfl, List.append_nil] at hlines

/-! ## The characters of a line -/

theorem mem_of_mem_physicalLines {bs line : List UInt8} (hline : line ∈ physicalLines bs)
    {b : UInt8} (hb : b ∈ line) : b ∈ bs := by
  induction bs generalizing line with
  | nil => cases hline
  | cons a bs ih =>
    rw [physicalLines] at hline
    split at hline
    · rcases List.mem_cons.1 hline with rfl | hline
      · exact List.mem_cons.2 (.inl (List.mem_singleton.1 hb))
      · exact List.mem_cons_of_mem a (ih hline hb)
    · cases hlines : physicalLines bs with
      | nil =>
        rw [hlines] at hline
        obtain rfl := List.mem_singleton.1 hline
        exact List.mem_cons.2 (.inl (List.mem_singleton.1 hb))
      | cons first lines =>
        rw [hlines] at hline ih
        rcases List.mem_cons.1 hline with rfl | hline
        · rcases List.mem_cons.1 hb with rfl | hb
          · exact List.mem_cons_self
          · exact List.mem_cons_of_mem a (ih List.mem_cons_self hb)
        · exact List.mem_cons_of_mem a (ih (List.mem_cons_of_mem first hline) hb)

theorem Scan.subset_of_run {s : Scan} {cs before : List Char} (h : s.run cs = .error before) :
    before ⊆ cs := by
  induction cs generalizing s before with
  | nil => cases h
  | cons c cs ih =>
    rw [Scan.run] at h
    cases hstep : s.step? c with
    | none =>
      rw [hstep] at h
      cases h
      exact List.nil_subset _
    | some s' =>
      simp only [hstep] at h
      cases hrun : s'.run cs with
      | ok t =>
        rw [hrun] at h
        cases h
      | error before' =>
        rw [hrun] at h
        cases h
        exact List.cons_subset_cons c (ih hrun)

theorem mem_of_mem_dropLineEnd {cs : List Char} {c : Char} (h : c ∈ dropLineEnd cs) : c ∈ cs := by
  unfold dropLineEnd at h
  split at h
  · split at h
    · exact List.dropLast_subset _ (List.dropLast_subset _ h)
    · exact List.dropLast_subset _ h
  · exact h

theorem bytes_subset_of_decode? {bs : List UInt8} {cs : List Char} (h : Utf8.decode? bs = some cs)
    {c : Char} (hc : c ∈ cs) : String.utf8EncodeChar c ⊆ bs := by
  rw [Utf8.eq_encode_of_decode? h]
  exact fun b hb => List.mem_flatMap.2 ⟨c, hc, hb⟩

theorem bytes_subset_of_mem_joinLines {s : Scan} {start : List Char} {ls : List (List UInt8)}
    {line : List Char} (hline : line ∈ joinLines s start ls) {c : Char} (hc : c ∈ line) :
    c ∈ start ∨ ∃ l ∈ ls, String.utf8EncodeChar c ⊆ l := by
  induction ls generalizing s start with
  | nil => cases hline
  | cons l ls ih =>
    rw [joinLines] at hline
    cases hl : Utf8.decode? l with
    | none =>
      rw [hl] at hline
      cases hline
    | some cs =>
      have hwhole : c ∈ start ++ cs → c ∈ start ∨ ∃ l' ∈ l :: ls, String.utf8EncodeChar c ⊆ l' := by
        intro hmem
        rcases List.mem_append.1 hmem with hstart | hcs
        · exact .inl hstart
        · exact .inr ⟨l, List.mem_cons_self, bytes_subset_of_decode? hl hcs⟩
      have hlater : ∀ {s' start'}, line ∈ joinLines s' start' ls → start' ⊆ start ++ cs →
          c ∈ start ∨ ∃ l' ∈ l :: ls, String.utf8EncodeChar c ⊆ l' := by
        intro s' start' hline' hstart'
        rcases ih hline' with hmem | ⟨l', hl', hbytes⟩
        · exact hwhole (hstart' hmem)
        · exact .inr ⟨l', List.mem_cons_of_mem l hl', hbytes⟩
      simp only [hl] at hline
      split at hline
      · rcases List.mem_cons.1 hline with rfl | hline
        · cases hc
        · exact hlater hline (List.nil_subset _)
      · split at hline
        · rename_i before hrun
          rcases List.mem_cons.1 hline with rfl | hline
          · refine hwhole (List.mem_append.2 ?_)
            exact (List.mem_append.1 hc).imp_right (Scan.subset_of_run hrun ·)
          · exact hlater hline (List.nil_subset _)
        · rcases List.mem_cons.1 hline with rfl | hline
          · exact hwhole (mem_of_mem_dropLineEnd hc)
          · exact hlater hline (List.nil_subset _)
        · exact hlater hline (List.Subset.refl _)

/-- The bytes of a character of a line are bytes of the file. -/
theorem bytes_subset_of_mem_logicalLines {bs : List UInt8} {line : List Char}
    (hline : line ∈ logicalLines bs) {c : Char} (hc : c ∈ line) :
    String.utf8EncodeChar c ⊆ bs := by
  have hfile : withoutMark bs ⊆ bs := by
    unfold withoutMark
    split
    · exact List.drop_subset 3 bs
    · exact List.Subset.refl bs
  rcases bytes_subset_of_mem_joinLines hline hc with hnil | ⟨l, hl, hbytes⟩
  · cases hnil
  · exact fun b hb => hfile (mem_of_mem_physicalLines hl (hbytes hb))

end OriginGate.EnvFile
