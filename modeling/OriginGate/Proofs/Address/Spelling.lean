import Mathlib.Data.List.Forall2
import OriginGate.Address.V6
import OriginGate.Proofs.Text.Hexadecimal

/-!
# The texts that write an IPv6 address

An address is written by its eight pieces with colons between them, each piece in one to four
hexadecimal digits of either case. A gap `::` leaves out one or more zero pieces, and the last two
pieces may be written as an IPv4 address.

* `V6.IsPieceText`, `V6.WritesPieces`, `V6.Spells`: the texts of a piece, of a row of pieces and
  of an address, said without the reader.
* `V6.cutGap_join_append`: in a row of texts that are not empty there is no gap.
* `V6.ofText?_eq_some_iff`: the reader takes every text of an address, and nothing else.
-/

namespace OriginGate.Address.V6

open Text

/-! ## Spellings -/

/-- One to four hexadecimal digits write the piece that is their value. -/
structure IsPieceText (t : List Char) (p : UInt16) : Prop where
  ne_nil : t ≠ []
  length_le : t.length ≤ 4
  digits : ∀ c ∈ t, (hexDigit? c).isSome = true
  value : hexNumber t = p.toNat

/-- Texts that write a row of pieces: one text for each, or an IPv4 address for the last two. -/
inductive WritesPieces : List (List Char) → List UInt16 → Prop
  | nil : WritesPieces [] []
  | embedded (x : V4) : WritesPieces [x.render] (piecesOfV4 x)
  | cons {t : List Char} {p : UInt16} {ts : List (List Char)} {ps : List UInt16}
      (h : IsPieceText t p) (hrest : WritesPieces ts ps) : WritesPieces (t :: ts) (p :: ps)

/-- A text of an address writes all of its pieces, or those around a gap of zeros. -/
inductive Spells : List Char → V6 → Prop
  | full {ts : List (List Char)} {x : V6} (h : WritesPieces ts x.pieces) :
      Spells (join [':'] ts) x
  | gap {fronts backs : List (List Char)} {front back : List UInt16} {n : Nat} {x : V6}
      (hfront : List.Forall₂ IsPieceText fronts front) (hback : WritesPieces backs back)
      (hn : 0 < n) (hx : x.pieces = front ++ List.replicate n 0 ++ back) :
      Spells (join [':'] fronts ++ [':', ':'] ++ join [':'] backs) x

theorem writesPieces_of_forall₂ {ts : List (List Char)} {ps : List UInt16}
    (h : List.Forall₂ IsPieceText ts ps) : WritesPieces ts ps := by
  induction h with
  | nil => exact .nil
  | cons hp _ ih => exact .cons hp ih

/-! ## Pieces -/

theorem piece?_eq_some_iff {t : List Char} {p : UInt16} :
    piece? t = some p ↔ IsPieceText t p := by
  constructor
  · intro h
    unfold piece? at h
    split at h
    · rename_i ht
      simp only [Bool.and_eq_true, Bool.not_eq_true', List.isEmpty_eq_false_iff,
        decide_eq_true_eq, List.all_eq_true] at ht
      obtain ⟨⟨hne, hlength⟩, hdigits⟩ := ht
      have hlt : hexNumber t < 65536 :=
        Nat.lt_of_lt_of_le (hexNumber_lt t) (Nat.pow_le_pow_right (by decide) hlength)
      refine ⟨hne, hlength, hdigits, ?_⟩
      rw [← Option.some.inj h]
      exact (UInt16.toNat_ofNat_of_lt' hlt).symm
    · cases h
  · rintro ⟨hne, hlength, hdigits, hvalue⟩
    have hall : t.all (hexDigit? · |>.isSome) = true := List.all_eq_true.2 hdigits
    have hp : (hexNumber t).toUInt16 = p := by
      rw [hvalue]
      exact UInt16.ofNat_toNat
    simp [piece?, hne, hlength, hall, hp]

theorem plainPieces?_eq_some_iff {ts : List (List Char)} {ps : List UInt16} :
    plainPieces? ts = some ps ↔ List.Forall₂ IsPieceText ts ps := by
  induction ts generalizing ps with
  | nil => simp [plainPieces?, eq_comm]
  | cons t ts ih =>
    rw [plainPieces?, List.mapM_cons]
    simp only [plainPieces?] at ih
    simp only [Option.bind_eq_bind, Option.bind_eq_some_iff, Option.pure_def, Option.some.injEq,
      piece?_eq_some_iff, ih, List.forall₂_cons_left_iff]
    constructor
    · rintro ⟨p, hp, qs, hqs, rfl⟩
      exact ⟨p, qs, hp, hqs, rfl⟩
    · rintro ⟨p, qs, hp, hqs, rfl⟩
      exact ⟨p, hp, qs, hqs, rfl⟩

/-- A piece has no dot. -/
theorem piece?_render (x : V4) : piece? x.render = none := by
  rw [Option.eq_none_iff_forall_ne_some]
  intro p hp
  have hdot : '.' ∈ x.render := by simp [V4.render, join]
  exact absurd ((piece?_eq_some_iff.1 hp).digits '.' hdot) (by decide)

theorem pieces?_cons {t : List Char} {ts : List (List Char)} {p : UInt16} (h : piece? t = some p) :
    pieces? (t :: ts) = (pieces? ts).map (p :: ·) := by
  cases ts with
  | nil => simp [pieces?, h]
  | cons u us =>
    rw [pieces?]
    · rw [h]
      cases pieces? (u :: us) <;> rfl
    · exact nofun

theorem pieces?_of_writesPieces {ts : List (List Char)} {ps : List UInt16}
    (h : WritesPieces ts ps) : pieces? ts = some ps := by
  induction h with
  | nil => rfl
  | embedded x => simp [pieces?, piece?_render, V4.ofText?_render]
  | cons hp _ ih => rw [pieces?_cons (piece?_eq_some_iff.2 hp), ih, Option.map_some]

theorem writesPieces_of_pieces? {ts : List (List Char)} {ps : List UInt16}
    (h : pieces? ts = some ps) : WritesPieces ts ps := by
  induction ts generalizing ps with
  | nil =>
    cases h
    exact .nil
  | cons t ts ih =>
    cases ht : piece? t with
    | some p =>
      rw [pieces?_cons ht] at h
      obtain ⟨qs, hqs, rfl⟩ := Option.map_eq_some_iff.1 h
      exact .cons (piece?_eq_some_iff.1 ht) (ih hqs)
    | none =>
      cases ts with
      | nil =>
        -- only the last text may be an address of the other kind
        simp only [pieces?, ht, Option.map_eq_some_iff] at h
        obtain ⟨x, hx, rfl⟩ := h
        rw [← V4.render_of_ofText? hx]
        exact .embedded x
      | cons u us =>
        rw [pieces?] at h
        · rw [ht] at h
          cases h
        · exact nofun

theorem pieces?_eq_some_iff {ts : List (List Char)} {ps : List UInt16} :
    pieces? ts = some ps ↔ WritesPieces ts ps :=
  ⟨writesPieces_of_pieces?, pieces?_of_writesPieces⟩

/-! ## Rows of texts -/

/-- A text that may stand between colons: neither empty nor with a colon in it. -/
def IsColonText (t : List Char) : Prop :=
  t ≠ [] ∧ ':' ∉ t

theorem IsPieceText.isColonText {t : List Char} {p : UInt16} (h : IsPieceText t p) :
    IsColonText t :=
  ⟨h.ne_nil, fun hm => absurd (h.digits ':' hm) (by decide)⟩

theorem isColonText_render (x : V4) : IsColonText x.render :=
  ⟨by simp [V4.render, join], fun hm => (V4.not_delimiter_of_mem_render hm).1 rfl⟩

theorem WritesPieces.isColonText {ts : List (List Char)} {ps : List UInt16}
    (h : WritesPieces ts ps) : ∀ t ∈ ts, IsColonText t := by
  induction h with
  | nil => exact nofun
  | embedded x => exact List.forall_mem_singleton.2 (isColonText_render x)
  | cons hp _ ih => exact List.forall_mem_cons.2 ⟨hp.isColonText, ih⟩

theorem join_colonTexts (cs : List Char) : join [':'] (colonTexts cs) = cs := by
  cases cs with
  | nil => rfl
  | cons c cs => exact join_split ':' (c :: cs)

theorem colonTexts_join {ts : List (List Char)} (h : ∀ t ∈ ts, IsColonText t) :
    colonTexts (join [':'] ts) = ts := by
  cases ts with
  | nil => rfl
  | cons t ts =>
    have hne : join [':'] (t :: ts) ≠ [] := by
      intro hnil
      rcases join_eq_nil (List.cons_ne_nil _ _) hnil with hts | hts
      · cases hts
      · exact (h t List.mem_cons_self).1 (List.cons.inj hts).1
    rw [colonTexts, List.isEmpty_eq_false_iff.2 hne]
    exact split_join (List.cons_ne_nil t ts) fun u hu => (h u hu).2

/-! ## The gap -/

theorem eq_of_cutGap {cs l r : List Char} (h : cutGap cs = some (l, r)) :
    cs = l ++ [':', ':'] ++ r := by
  induction cs generalizing l with
  | nil => cases h
  | cons c cs ih =>
    unfold cutGap at h
    split at h
    · cases h
    · rename_i heq
      cases h
      exact heq
    · rename_i d ds _ heq
      obtain ⟨rfl, rfl⟩ := List.cons.inj heq
      obtain ⟨⟨l', r'⟩, hcut, hlr⟩ := Option.map_eq_some_iff.1 h
      cases hlr
      rw [ih hcut]
      rfl

/-- The same cut with more text in front. -/
def extendCut (t : List Char) (cut : Option (List Char × List Char)) :
    Option (List Char × List Char) :=
  cut.map fun (l, r) => (t ++ l, r)

theorem extendCut_nil (cut : Option (List Char × List Char)) : extendCut [] cut = cut := by
  cases cut <;> rfl

theorem extendCut_append (s t : List Char) (cut : Option (List Char × List Char)) :
    extendCut s (extendCut t cut) = extendCut (s ++ t) cut := by
  cases cut <;> simp [extendCut]

/-- A colon before a character that is none starts no gap, nor does any other character. -/
theorem cutGap_cons {c : Char} {cs : List Char} (h : c = ':' → cs.head? ≠ some ':') :
    cutGap (c :: cs) = extendCut [c] (cutGap cs) := by
  rw [cutGap]
  · rfl
  · rintro r rfl rfl
    exact h rfl rfl

theorem cutGap_append {t : List Char} (ht : ':' ∉ t) (cs : List Char) :
    cutGap (t ++ cs) = extendCut t (cutGap cs) := by
  induction t with
  | nil => exact (extendCut_nil _).symm
  | cons c t ih =>
    simp only [List.mem_cons, not_or] at ht
    rw [List.cons_append, cutGap_cons fun hc => absurd hc.symm ht.1, ih ht.2, extendCut_append]
    rfl

theorem head?_join_append_ne {t : List Char} {ts : List (List Char)} (ht : IsColonText t)
    (tail : List Char) : (join [':'] (t :: ts) ++ tail).head? ≠ some ':' := by
  obtain ⟨hne, hcolon⟩ := ht
  obtain ⟨c, cs, rfl⟩ := List.exists_cons_of_ne_nil hne
  have hc : c ≠ ':' := fun h => hcolon (h ▸ List.mem_cons_self)
  cases ts with
  | nil => simpa [join] using hc
  | cons u us => simpa [join] using hc

/-- No gap begins in texts with single colons between them: neither inside them, as none is
empty, nor at their end. -/
theorem cutGap_join_append {ts : List (List Char)} (h : ∀ t ∈ ts, IsColonText t)
    (tail : List Char) :
    cutGap (join [':'] ts ++ tail) = extendCut (join [':'] ts) (cutGap tail) := by
  induction ts with
  | nil => exact (extendCut_nil _).symm
  | cons t ts ih =>
    obtain ⟨ht, hts⟩ := List.forall_mem_cons.1 h
    cases ts with
    | nil => exact cutGap_append ht.2 tail
    | cons u us =>
      have hu : IsColonText u := hts u List.mem_cons_self
      rw [join, List.append_assoc, List.append_assoc, cutGap_append ht.2, List.singleton_append,
        cutGap_cons fun _ => head?_join_append_ne hu tail, ih hts, extendCut_append,
        extendCut_append]

theorem cutGap_join {ts : List (List Char)} (h : ∀ t ∈ ts, IsColonText t) :
    cutGap (join [':'] ts) = none := by
  have hcut := cutGap_join_append h []
  rwa [List.append_nil] at hcut

theorem cutGap_join_gap {ts : List (List Char)} (h : ∀ t ∈ ts, IsColonText t)
    (rest : List Char) :
    cutGap (join [':'] ts ++ [':', ':'] ++ rest) = some (join [':'] ts, rest) := by
  rw [List.append_assoc, cutGap_join_append h]
  simp [cutGap, extendCut]

/-! ## Reading -/

theorem ofPieces?_eq_some_iff {ps : List UInt16} {x : V6} :
    ofPieces? ps = some x ↔ ps = x.pieces := by
  constructor
  · intro h
    unfold ofPieces? at h
    split at h
    · rw [← Option.some.inj h]
    · cases h
  · rintro rfl
    exact dif_pos x.length_eq

theorem WritesPieces.ne_nil {ts : List (List Char)} {ps : List UInt16} (h : WritesPieces ts ps)
    (hps : ps ≠ []) : ts ≠ [] := by
  cases h with
  | nil => exact absurd rfl hps
  | embedded x => exact List.cons_ne_nil _ _
  | cons hp hrest => exact List.cons_ne_nil _ _

theorem pieces_ne_nil (x : V6) : x.pieces ≠ [] := by
  intro hnil
  have hlength := x.length_eq
  rw [hnil] at hlength
  cases hlength

theorem ofText?_of_spells {cs : List Char} {x : V6} (h : Spells cs x) : ofText? cs = some x := by
  cases h with
  | @full ts _ h =>
    have hne : ts ≠ [] := h.ne_nil x.pieces_ne_nil
    simp only [ofText?, cutGap_join h.isColonText,
      split_join hne fun t ht => (h.isColonText t ht).2, pieces?_eq_some_iff.2 h,
      Option.bind_some]
    exact ofPieces?_eq_some_iff.2 rfl
  | @gap fronts backs front back n _ hfront hback hn hx =>
    have htexts := (writesPieces_of_forall₂ hfront).isColonText
    have hlength := x.length_eq
    simp only [hx, List.length_append, List.length_replicate] at hlength
    -- the gap takes at least one place, and just those that the other pieces leave
    have hfit : front.length + back.length ≤ 7 := by omega
    have hzeros : 8 - front.length - back.length = n := by omega
    simp only [ofText?, cutGap_join_gap htexts, colonTexts_join htexts,
      colonTexts_join hback.isColonText, plainPieces?_eq_some_iff.2 hfront,
      pieces?_eq_some_iff.2 hback, Option.bind_eq_bind, Option.bind_some, hfit, if_true, hzeros]
    exact ofPieces?_eq_some_iff.2 hx.symm

theorem spells_of_ofText? {cs : List Char} {x : V6} (h : ofText? cs = some x) : Spells cs x := by
  unfold ofText? at h
  split at h
  · obtain ⟨ps, hps, hx⟩ := Option.bind_eq_some_iff.1 h
    rw [ofPieces?_eq_some_iff] at hx
    subst hx
    rw [← join_split ':' cs]
    exact .full (pieces?_eq_some_iff.1 hps)
  · rename_i l r hcut
    simp only [Option.bind_eq_bind, Option.bind_eq_some_iff] at h
    obtain ⟨front, hfront, back, hback, h⟩ := h
    split at h
    · rename_i hfit
      rw [eq_of_cutGap hcut, ← join_colonTexts l, ← join_colonTexts r]
      exact .gap (plainPieces?_eq_some_iff.1 hfront) (pieces?_eq_some_iff.1 hback)
        (by omega) (ofPieces?_eq_some_iff.1 h).symm
    · cases h

theorem ofText?_eq_some_iff {cs : List Char} {x : V6} : ofText? cs = some x ↔ Spells cs x :=
  ⟨spells_of_ofText?, ofText?_of_spells⟩

/-- A text writes one address at most. -/
theorem Spells.unique {cs : List Char} {x y : V6} (hx : Spells cs x) (hy : Spells cs y) : x = y :=
  Option.some.inj ((ofText?_of_spells hx).symm.trans (ofText?_of_spells hy))

end OriginGate.Address.V6
