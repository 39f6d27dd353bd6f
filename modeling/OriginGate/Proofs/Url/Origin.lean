import OriginGate.Proofs.Url.Host
import OriginGate.Url.Origin

/-!
# Origins are told apart by their texts

The text of an origin is its scheme, its host and, where it is not the usual one of the scheme,
its port. The origins of addresses that were read have well-formed hosts, so their texts can be
taken apart again.

* `Origin.render_injective`: origins with well-formed hosts and the same text are the same.
* `Origin.isGraphic_of_mem_render`: the text consists of visible ASCII characters.
* `Url.exists_origin?_of_read`: every address of a web page that is read has an origin, and its
  host is well-formed.
-/

namespace OriginGate

open Text

/-! ## The parts of the text -/

namespace WebScheme

theorem name_eq_of_ofName? {name : List Char} {w : WebScheme} (h : ofName? name = some w) :
    w.name = name := by
  unfold ofName? at h
  split at h
  · rename_i hname
    rw [hname, ← Option.some.inj h]
    rfl
  · split at h
    · rename_i hname
      rw [hname, ← Option.some.inj h]
      rfl
    · cases h

theorem ofName?_name (w : WebScheme) : ofName? w.name = some w := by
  cases w <;> rfl

theorem isGraphic_of_mem_name {w : WebScheme} {c : Char} (h : c ∈ w.name) :
    isGraphic c = true := by
  have hall : w.name.all isGraphic = true := by cases w <;> decide
  exact List.all_eq_true.1 hall c h

/-- The colon after the scheme tells the two schemes apart. -/
theorem name_append_injective {w w' : WebScheme} {rest rest' : List Char}
    (h : w.name ++ ("://".toList ++ rest) = w'.name ++ ("://".toList ++ rest')) :
    w = w' ∧ rest = rest' := by
  have hw : w = w' := by
    -- The fifth characters are the colon and the `s`.
    have hfifth := congrArg (·[4]?) h
    cases w with
    | http => cases w' with
      | http => rfl
      | https => exact absurd hfifth (by simp [name])
    | https => cases w' with
      | http => exact absurd hfifth (by simp [name])
      | https => rfl
  subst hw
  exact ⟨rfl, List.append_cancel_left (List.append_cancel_left h)⟩

end WebScheme

namespace Origin

/-- The port in the text of an origin. -/
def portText (o : Origin) : List Char :=
  if o.port = o.scheme.usualPort then [] else ':' :: decimal o.port.toNat

theorem render_eq (o : Origin) :
    o.render = o.scheme.name ++ ("://".toList ++ (o.host.render ++ o.portText)) := by
  unfold render portText
  rw [List.append_assoc, List.append_assoc]

theorem cutHost_portText (o : Origin) : Url.cutHost false o.portText = ([], o.portText) := by
  unfold portText
  split <;> rfl

theorem port_eq_of_portText {o o' : Origin} (hs : o.scheme = o'.scheme)
    (h : o.portText = o'.portText) : o.port = o'.port := by
  unfold portText at h
  rw [hs] at h
  split at h
  · rename_i hp
    split at h
    · rename_i hp'
      rw [hp, hp']
    · cases h
  · split at h
    · cases h
    · exact UInt16.toNat_inj.1 (decimal_injective (List.cons.inj h).2)

/-! ## Same text, same origin -/

theorem render_injective {o o' : Origin} (hw : o.host.WellFormed) (hw' : o'.host.WellFormed)
    (h : o.render = o'.render) : o = o' := by
  rw [render_eq, render_eq] at h
  obtain ⟨hscheme, hrest⟩ := WebScheme.name_append_injective h
  have hcut := Url.Host.cutHost_render hw o.cutHost_portText
  rw [hrest, Url.Host.cutHost_render hw' o'.cutHost_portText] at hcut
  obtain ⟨hhost, hport⟩ := Prod.mk.inj hcut
  have hhost := Url.Host.render_injective hw hw' hhost.symm
  have hport := port_eq_of_portText hscheme hport.symm
  cases o
  cases o'
  congr

theorem isGraphic_of_mem_portText {o : Origin} {c : Char} (h : c ∈ o.portText) :
    isGraphic c = true := by
  unfold portText at h
  split at h
  · cases h
  · rcases List.mem_cons.1 h with rfl | h
    · decide
    · exact isGraphic_of_isDigit (isDigit_of_mem_decimal h)

theorem isGraphic_of_mem_render {o : Origin} (hw : o.host.WellFormed) {c : Char}
    (h : c ∈ o.render) : isGraphic c = true := by
  have hsep : "://".toList.all isGraphic = true := by decide
  simp only [render_eq, List.mem_append] at h
  rcases h with h | h | h | h
  · exact WebScheme.isGraphic_of_mem_name h
  · exact List.all_eq_true.1 hsep c h
  · exact Url.Host.isGraphic_of_mem_render hw h
  · exact isGraphic_of_mem_portText h

end Origin

/-! ## Origins of addresses that were read -/

namespace Url

theorem readKnown_eq_ok {scheme : List Char} {usual : UInt16} {cs : List Char} {u : Url}
    (h : readKnown scheme usual cs = .ok u) :
    ∃ hostText rest host port,
      cutHost false (cutUser (cs.takeWhile (! endsKnownAuthority ·))).2 = (hostText, rest) ∧
        readHost hostText = .ok host ∧ readPort (some usual) rest = .ok port ∧
        u = { scheme, host := some host, port } := by
  unfold readKnown at h
  generalize cutHost false (cutUser (cs.takeWhile (! endsKnownAuthority ·))).2 = place at h ⊢
  obtain ⟨hostText, rest⟩ := place
  simp only [bind, Except.bind, pure, Except.pure] at h
  split at h
  · cases h
  · split at h
    · cases h
    · rename_i host hhost
      split at h
      · cases h
      · rename_i port hport
        exact ⟨hostText, rest, host, port, rfl, hhost, hport, (Except.ok.inj h).symm⟩

theorem scheme_of_readFile {scheme cs : List Char} {u : Url} (h : readFile scheme cs = .ok u) :
    u.scheme = scheme := by
  unfold readFile at h
  simp only [bind, Except.bind, pure, Except.pure] at h
  split at h
  · split at h
    · split at h
      · cases h
      · rw [← Except.ok.inj h]
    · rw [← Except.ok.inj h]
  · rw [← Except.ok.inj h]

theorem scheme_of_readUnknown {scheme cs : List Char} {u : Url}
    (h : readUnknown scheme cs = .ok u) : u.scheme = scheme := by
  unfold readUnknown at h
  simp only [bind, Except.bind, pure, Except.pure] at h
  split at h
  · cases h
  · split at h
    · cases h
    · split at h
      · cases h
      · split at h
        · cases h
        · split at h
          · cases h
          · rw [← Except.ok.inj h]

/-- The two schemes of web pages are among those with a usual port. -/
theorem usualPort?_of_ofName? {scheme : List Char} {w : WebScheme}
    (h : WebScheme.ofName? scheme = some w) : usualPort? scheme = some w.usualPort := by
  rw [← WebScheme.name_eq_of_ofName? h]
  cases w <;> rfl

theorem scheme_of_read {text : List Char} {u : Url} (h : read text = .ok u) :
    ∃ rest, scheme? (significant text) = some (u.scheme, rest) ∧
      ∀ w, WebScheme.ofName? u.scheme = some w →
        readKnown u.scheme w.usualPort (rest.dropWhile isSlash) = .ok u := by
  unfold read at h
  split at h
  · cases h
  · rename_i scheme rest hscheme
    split at h
    · rename_i usual husual
      obtain ⟨_, _, _, _, -, -, -, hu⟩ := readKnown_eq_ok h
      have hu : u.scheme = scheme := by rw [hu]
      rw [hu]
      refine ⟨rest, hscheme, fun w hw => ?_⟩
      rw [usualPort?_of_ofName? hw] at husual
      rwa [Option.some.inj husual]
    · rename_i husual
      have hu : u.scheme = scheme := by
        split at h
        · exact scheme_of_readFile h
        · split at h
          · exact scheme_of_readUnknown h
          · rw [← Except.ok.inj h]
      rw [hu]
      refine ⟨rest, hscheme, fun w hw => ?_⟩
      rw [usualPort?_of_ofName? hw] at husual
      cases husual

theorem exists_origin?_of_read {text : List Char} {u : Url} {w : WebScheme}
    (h : read text = .ok u) (hs : u.scheme = w.name) :
    ∃ o, u.origin? = some o ∧ o.scheme = w ∧ o.host.WellFormed := by
  have hw : WebScheme.ofName? u.scheme = some w := by rw [hs, WebScheme.ofName?_name]
  obtain ⟨rest, -, hknown⟩ := scheme_of_read h
  obtain ⟨hostText, _, host, port, -, hhost, -, hu⟩ := readKnown_eq_ok (hknown w hw)
  refine ⟨⟨w, host, u.port.getD w.usualPort⟩, ?_, rfl, Host.wellFormed_of_readHost hhost⟩
  have hh : u.host = some host := by rw [hu]
  simp [origin?, hw, hh]

/-! ## Equal origins -/

/-- The port that is used: the one given, else the usual one of the scheme. -/
def effectivePort? (u : Url) : Option UInt16 :=
  u.port.or (usualPort? u.scheme)

/-- Whether two addresses have the same scheme, host and port. -/
def SameOrigin (u u' : Url) : Prop :=
  u.scheme = u'.scheme ∧ u.host = u'.host ∧ u.effectivePort? = u'.effectivePort?

theorem origin?_eq_some_iff {u : Url} {o : Origin} :
    u.origin? = some o ↔
      u.scheme = o.scheme.name ∧ u.host = some o.host ∧ u.effectivePort? = some o.port := by
  constructor
  · intro h
    unfold origin? at h
    split at h
    · rename_i w host hw hhost
      cases h
      refine ⟨(WebScheme.name_eq_of_ofName? hw).symm, hhost, ?_⟩
      rw [effectivePort?, usualPort?_of_ofName? hw]
      cases u.port <;> rfl
    · cases h
  · rintro ⟨hscheme, hhost, hport⟩
    have hw : WebScheme.ofName? u.scheme = some o.scheme := by rw [hscheme, WebScheme.ofName?_name]
    rw [effectivePort?, usualPort?_of_ofName? hw] at hport
    have hport : u.port.getD o.scheme.usualPort = o.port := by
      cases hp : u.port <;> simpa [hp] using hport
    simp [origin?, hw, hhost, hport]

theorem sameOrigin_iff {u u' : Url} {o : Origin} (ho : u.origin? = some o) :
    u'.SameOrigin u ↔ u'.origin? = some o := by
  obtain ⟨hscheme, hhost, hport⟩ := origin?_eq_some_iff.1 ho
  rw [origin?_eq_some_iff, SameOrigin, hscheme, hhost, hport]

theorem wellFormed_of_origin? {text : List Char} {u : Url} {o : Origin} (h : read text = .ok u)
    (ho : u.origin? = some o) : o.host.WellFormed := by
  obtain ⟨o', ho', -, hw⟩ := exists_origin?_of_read h (origin?_eq_some_iff.1 ho).1
  rw [ho] at ho'
  rwa [Option.some.inj ho']

end Url

end OriginGate
