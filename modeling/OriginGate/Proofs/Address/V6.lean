import OriginGate.Proofs.Address.Spelling

/-!
# The canonical text of an IPv6 address reads back

The canonical text is one of the texts that write the address, whatever run of zero pieces it leaves
out. So is the text that shows a mapped IPv4 address as such.

* `V6.longestZeroRun_split`: the run that the canonical text leaves out consists of zero pieces.
* `V6.spells_render`, `V6.ofText?_render`: the canonical text of an address is read as that address.
* `V6.render_injective`: two addresses never share their canonical text.
* `V6.pieces_of_mappedV4?`: the pieces of an address that maps an IPv4 address.
* `V6.spells_display`: the text with the mapped address writes the address as well.
-/

namespace OriginGate.Address

open Text

namespace V6

/-! ## Pieces -/

theorem isHexDigit_of_mem_pieceText {p : UInt16} {c : Char} (h : c ∈ pieceText p) :
    (hexDigit? c).isSome = true :=
  isHexDigit_of_mem_toDigits h

theorem isPieceText_pieceText (p : UInt16) : IsPieceText (pieceText p) p where
  ne_nil := Nat.toDigits_ne_nil
  length_le := (Nat.length_toDigits_le_iff (by decide) (by decide)).2 p.toNat_lt
  digits := fun _ => isHexDigit_of_mem_pieceText
  value := hexNumber_toDigits p.toNat

theorem forall₂_pieceText (ps : List UInt16) :
    List.Forall₂ IsPieceText (ps.map pieceText) ps := by
  induction ps with
  | nil => exact .nil
  | cons p ps ih => exact .cons (isPieceText_pieceText p) ih

theorem writesPieces_pieceText (ps : List UInt16) : WritesPieces (ps.map pieceText) ps :=
  writesPieces_of_forall₂ (forall₂_pieceText ps)

/-! ## The run of zero pieces -/

theorem eq_replicate_zeroRun (ps : List UInt16) :
    ps = List.replicate (zeroRun ps) 0 ++ ps.drop (zeroRun ps) := by
  induction ps with
  | nil => rfl
  | cons p ps ih =>
    by_cases hp : p = 0
    · subst hp
      have hrun : zeroRun (0 :: ps) = zeroRun ps + 1 := by simp [zeroRun]
      rw [hrun, List.replicate_succ, List.drop_succ_cons, List.cons_append, ← ih]
    · have hrun : zeroRun (p :: ps) = 0 := by simp [zeroRun, hp]
      simp [hrun]

/-- The chosen run cuts the pieces in three; its start counts the pieces passed before. -/
theorem longestZeroRun_split (i : Nat) (ps : List UInt16) :
    ∃ front back, ps = front ++ List.replicate (longestZeroRun i ps).2 0 ++ back ∧
      (longestZeroRun i ps).1 = i + front.length := by
  induction ps generalizing i with
  | nil => exact ⟨[], [], rfl, rfl⟩
  | cons p ps ih =>
    rw [longestZeroRun]
    split
    · exact ⟨[], (p :: ps).drop (zeroRun (p :: ps)), eq_replicate_zeroRun (p :: ps), rfl⟩
    · obtain ⟨front, back, hps, hstart⟩ := ih (i + 1)
      refine ⟨p :: front, back, ?_, ?_⟩
      · rw [List.cons_append, List.cons_append, ← hps]
      · rw [hstart, List.length_cons]
        omega

/-! ## Reading the canonical text -/

theorem spells_render (x : V6) : Spells x.render x := by
  obtain ⟨front, back, hx, hstart⟩ := longestZeroRun_split 0 x.pieces
  rw [Nat.zero_add] at hstart
  unfold render
  generalize longestZeroRun 0 x.pieces = run at hx hstart
  obtain ⟨start, n⟩ := run
  simp only at hx hstart
  subst hstart
  dsimp only
  split
  · rename_i hn
    have htake : x.pieces.take front.length = front := by simp [hx]
    have hdrop : x.pieces.drop (front.length + n) = back := by
      rw [hx]
      exact List.drop_left' (by simp)
    rw [htake, hdrop]
    exact .gap (forall₂_pieceText front) (writesPieces_pieceText back) (by omega) hx
  · exact .full (writesPieces_pieceText x.pieces)

theorem ofText?_render (x : V6) : ofText? x.render = some x :=
  ofText?_of_spells x.spells_render

theorem render_injective {x y : V6} (h : x.render = y.render) : x = y :=
  x.spells_render.unique (h ▸ y.spells_render)

/-! ## The characters of the canonical text -/

theorem mem_renderPieces {ps : List UInt16} {c : Char} (h : c ∈ renderPieces ps) :
    c = ':' ∨ ∃ p, c ∈ pieceText p := by
  rcases mem_join h with h | ⟨t, ht, h⟩
  · exact .inl (List.mem_singleton.1 h)
  · obtain ⟨p, -, rfl⟩ := List.mem_map.1 ht
    exact .inr ⟨p, h⟩

theorem eq_colon_or_mem_pieceText {x : V6} {c : Char} (h : c ∈ x.render) :
    c = ':' ∨ ∃ p, c ∈ pieceText p := by
  unfold render at h
  generalize longestZeroRun 0 x.pieces = run at h
  obtain ⟨start, n⟩ := run
  dsimp only at h
  split at h
  · simp only [List.mem_append, List.mem_cons, List.not_mem_nil, or_false] at h
    rcases h with (h | h) | h
    · exact mem_renderPieces h
    · exact .inl (h.elim id id)
    · exact mem_renderPieces h
  · exact mem_renderPieces h

theorem mem_render {x : V6} {c : Char} (h : c ∈ x.render) :
    c = ':' ∨ (hexDigit? c).isSome = true := by
  rcases eq_colon_or_mem_pieceText h with h | ⟨p, h⟩
  · exact .inl h
  · exact .inr (isHexDigit_of_mem_pieceText h)

theorem not_bracket_of_mem_render {x : V6} {c : Char} (h : c ∈ x.render) : c ≠ ']' := by
  rcases mem_render h with rfl | h
  · decide
  · rintro rfl
    exact absurd h (by decide)

theorem not_isUpper_of_mem_render {x : V6} {c : Char} (h : c ∈ x.render) : c.isUpper = false := by
  rcases eq_colon_or_mem_pieceText h with rfl | ⟨p, h⟩
  · decide
  · exact not_isUpper_of_mem_toDigits h

/-! ## Mapped addresses -/

/-- The two pieces of an IPv4 address hold its octets, in the order of their weight. -/
theorem piecesOfV4_ofNat (high low : UInt16) :
    piecesOfV4 (.ofNat (high.toNat * 65536 + low.toNat)) = [high, low] := by
  have hhigh := high.toNat_lt
  have hlow := low.toNat_lt
  simp only [piecesOfV4, V4.ofNat, List.cons.injEq, and_true, Nat.pow_eq, ← UInt16.toNat_inj,
    Nat.toUInt8_eq, Nat.toUInt16_eq, UInt8.toNat_ofNat', UInt16.toNat_ofNat']
  omega

theorem pieces_of_mappedV4? {x : V6} {v4 : V4} (h : x.mappedV4? = some v4) :
    x.pieces = List.replicate 5 0 ++ 0xFFFF :: piecesOfV4 v4 := by
  unfold mappedV4? at h
  split at h
  · rename_i high low hpieces
    cases h
    rw [hpieces, piecesOfV4_ofNat]
    rfl
  · cases h

theorem spells_display (x : V6) : Spells x.display x := by
  unfold display
  cases hmapped : x.mappedV4? with
  | none => exact x.spells_render
  | some v4 =>
    have hword : IsPieceText "ffff".toList 0xFFFF := isPieceText_pieceText 0xFFFF
    have hback : WritesPieces ["ffff".toList, v4.render] (0xFFFF :: piecesOfV4 v4) :=
      .cons hword (.embedded v4)
    exact .gap .nil hback (by decide : 0 < 5) (pieces_of_mappedV4? hmapped)

theorem display_injective {x y : V6} (h : x.display = y.display) : x = y :=
  x.spells_display.unique (h ▸ y.spells_display)

theorem not_bracket_of_mem_display {x : V6} {c : Char} (h : c ∈ x.display) : c ≠ ']' := by
  unfold display at h
  split at h
  · rcases List.mem_append.1 h with h | h
    · rintro rfl
      exact absurd h (by decide)
    · exact (V4.not_delimiter_of_mem_render h).2.2
  · exact not_bracket_of_mem_render h

end V6

end OriginGate.Address
