import OriginGate.Proofs.Config.OriginForm
import OriginGate.Proofs.Url.Canonical
import Mathlib.Data.List.TakeWhile

/-!
# The form that is suggested is accepted

An address of a web page that is not written as an origin is refused with the form in which browsers
send its origin. That form is read as an address of the same origin, whose form it is already, so
that whoever follows the suggestion is not refused again.

* `Origin.read_render`: the text of an origin is an address of that origin.
* `checkOrigin_render`: it is accepted.
* `checkOrigin_suggests`: an address of a web page is accepted as it stands or refused with the form
  that is accepted.
-/

namespace OriginGate

open Address Text

namespace Origin

/-! ## The text of an origin is an address -/

theorem not_mark_of_mem_place {o : Origin} (hw : o.host.WellFormed) {c : Char}
    (h : c ∈ o.host.render ++ o.portText) : c ∉ "/?#@\\".toList := by
  intro hmark
  rcases List.mem_append.1 h with hhost | hport
  · have hmarks : "/?#@\\".toList ⊆ "/?#@\\%".toList := by decide
    exact (Url.Host.isHostText_render hw).plain c hhost (hmarks hmark)
  · rcases mem_portText hport with rfl | hdigit
    · exact absurd hmark (by decide)
    · exact not_mem_of_all (p := Char.isDigit) (by decide) hdigit hmark

theorem takeWhile_place {o : Origin} (hw : o.host.WellFormed) :
    (o.host.render ++ o.portText).takeWhile (! Url.endsKnownAuthority ·) =
      o.host.render ++ o.portText := by
  refine List.takeWhile_eq_self_iff.2 fun c hc => ?_
  have hmark := not_mark_of_mem_place hw hc
  have hends : Url.endsKnownAuthority c = false := by
    rw [Bool.eq_false_iff]
    intro h
    simp only [Url.endsKnownAuthority, Url.endsAuthority, Bool.or_eq_true,
      decide_eq_true_eq] at h
    rcases h with ((rfl | rfl) | rfl) | rfl <;> exact hmark (by decide)
  rw [hends]
  rfl

theorem cutUser_place {o : Origin} (hw : o.host.WellFormed) :
    Url.cutUser (o.host.render ++ o.portText) = (none, o.host.render ++ o.portText) :=
  if_neg fun h => not_mark_of_mem_place hw h (by decide)

theorem dropWhile_slashes {o : Origin} (hw : o.host.WellFormed) :
    ("//".toList ++ (o.host.render ++ o.portText)).dropWhile Url.isSlash =
      o.host.render ++ o.portText := by
  obtain ⟨c, cs, hc⟩ := List.exists_cons_of_ne_nil (Url.Host.render_ne_nil hw)
  have hmark := not_mark_of_mem_place hw (o := o) (c := c) (by simp [hc])
  have hslash : Url.isSlash c = false := by
    rw [Bool.eq_false_iff]
    intro h
    simp only [Url.isSlash, Bool.or_eq_true, decide_eq_true_eq] at h
    rcases h with rfl | rfl <;> exact hmark (by decide)
  rw [hc]
  show List.dropWhile Url.isSlash (c :: (cs ++ o.portText)) = c :: (cs ++ o.portText)
  exact List.dropWhile_cons_of_neg (by simp [hslash])

theorem readKnown_place {o : Origin} (hw : o.host.WellFormed)
    (hname : ∀ name, o.host = .domain name → Domain.toAscii? name = some name) :
    Url.readKnown o.scheme.name o.scheme.usualPort (o.host.render ++ o.portText) =
      .ok o.address := by
  have hempty : o.host.render.isEmpty = false := by simpa using Url.Host.render_ne_nil hw
  rw [Url.readKnown, takeWhile_place hw, cutUser_place hw]
  dsimp only
  rw [Url.Host.cutHost_render hw o.cutHost_portText]
  dsimp only
  rw [hempty, Url.Host.readHost_render hw hname, readPort_portText]
  rfl

theorem scheme?_append (w : WebScheme) (rest : List Char) :
    Url.scheme? (w.name ++ ("://".toList ++ rest)) = some (w.name, "//".toList ++ rest) := by
  cases w <;> rfl

theorem read_render {o : Origin} (hw : o.host.WellFormed)
    (hname : ∀ name, o.host = .domain name → Domain.toAscii? name = some name) :
    Url.read o.render = .ok o.address := by
  have husual := Url.usualPort?_of_ofName? (WebScheme.ofName?_name o.scheme)
  rw [Url.read, Url.significant_of_isGraphic fun c => isGraphic_of_mem_render hw, render_eq,
    scheme?_append]
  dsimp only
  rw [husual, dropWhile_slashes hw]
  exact readKnown_place hw hname

end Origin

/-! ## Accepting it -/

theorem checkOrigin_render {o : Origin} (hw : o.host.WellFormed)
    (hname : ∀ name, o.host = .domain name → Domain.toAscii? name = some name) :
    checkOrigin (String.ofList o.render) = .ok () := by
  refine checkOrigin_eq_ok_iff.2 ⟨o.address, o, ?_, o.origin?_address, ?_⟩
  · rw [String.toList_ofList]
    exact Origin.read_render hw hname
  · rw [String.toList_ofList]

/-- The only fault of an address of a web page is that it is written in another form. -/
theorem eq_otherForm_of_checkOrigin {s : String} {u : Url} {o : Origin} {fault : OriginFault}
    (hu : Url.read s.toList = .ok u) (ho : u.origin? = some o)
    (h : checkOrigin s = .error fault) : fault = .otherForm (String.ofList o.render) := by
  unfold checkOrigin at h
  rw [hu] at h
  dsimp only at h
  rw [ho] at h
  dsimp only at h
  split at h
  · cases h
  · exact (Except.error.inj h).symm

theorem checkOrigin_suggests {s : String} {u : Url} {w : WebScheme}
    (hu : Url.read s.toList = .ok u) (hs : u.scheme = w.name)
    (hname : ∀ name, u.host = some (.domain name) → Domain.toAscii? name = some name) :
    ∃ o, u.origin? = some o ∧
      checkOrigin (String.ofList o.render) = .ok () ∧
      (∃ u', Url.read o.render = .ok u' ∧ u'.SameOrigin u) ∧
      ∀ fault, checkOrigin s = .error fault →
        fault = .otherForm (String.ofList o.render) ∧
          fault.message = "expected origin form " ++ quote (String.ofList o.render) := by
  obtain ⟨o, ho, -, hw⟩ := Url.exists_origin?_of_read hu hs
  have hhost : u.host = some o.host := (Url.origin?_eq_some_iff.1 ho).2.1
  have hname' : ∀ name, o.host = .domain name → Domain.toAscii? name = some name :=
    fun name h => hname name (hhost.trans (congrArg some h))
  refine ⟨o, ho, checkOrigin_render hw hname', ?_, fun fault h => ?_⟩
  · exact ⟨o.address, Origin.read_render hw hname', (Url.sameOrigin_iff ho).2 o.origin?_address⟩
  · obtain rfl := eq_otherForm_of_checkOrigin hu ho h
    exact ⟨rfl, rfl⟩

/-- The name of the loopback host in capitals, with a user and the usual port, is suggested without
them; so is its address in other bases, of which nothing is assumed. -/
theorem checkOrigin_suggests_loopback :
    (checkOrigin "HTTP:\\\\me@LocalHost:080/x?y" = .error (.otherForm "http://localhost") ∧
      checkOrigin "http://localhost" = .ok ()) ∧
    (checkOrigin " https://0x7F.1:8443#z" = .error (.otherForm "https://127.0.0.1:8443") ∧
      checkOrigin "https://127.0.0.1:8443" = .ok ()) := by
  have hname : Url.read "HTTP:\\\\me@LocalHost:080/x?y".toList =
      .ok ⟨"http".toList, some (.domain "localhost".toList), none⟩ := by rfl
  have hnumber : Url.read " https://0x7F.1:8443#z".toList =
      .ok ⟨"https".toList, some (.v4 ⟨127, 0, 0, 1⟩), some 8443⟩ := by rfl
  have hplain : "localhost".toList.all (! Domain.isForbidden ·) = true := by decide
  obtain ⟨o, ho, hok, -⟩ := checkOrigin_suggests (w := .http) hname rfl fun name h => by
    cases h
    refine Domain.toAscii?_eq_self (fun c hc => ?_) (by decide)
    simpa using List.all_eq_true.1 hplain c hc
  obtain ⟨o', ho', hok', -⟩ := checkOrigin_suggests (w := .https) hnumber rfl nofun
  cases ho
  cases ho'
  exact ⟨⟨by rfl, hok⟩, ⟨by rfl, hok'⟩⟩

end OriginGate
