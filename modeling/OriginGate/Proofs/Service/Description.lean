import OriginGate.Proofs.Json.Path
import OriginGate.Proofs.Service.Documents

/-!
# The description survives its texts

The name, the version and the description of a service are texts of any characters, and each of them
stands in one place of the interface description. Whoever reads the description, as it is printed or
as it is sent, finds these texts in their places and the rest of the document as it always is.

* `Service.filled?_description`: the description of a service is that of the usual one with three
  texts replaced.
* `Service.respond_description`: it is read back from both of its texts.
-/

namespace OriginGate.Service

open Http Json Metrics

/-- The document with the texts of the metadata in their places. -/
def filled? (m : Metadata) (document : Value) : Option Value := do
  let document ← Value.replace? (.string m.name) ["info", "title"] document
  let document ← Value.replace? (.string m.description) ["info", "description"] document
  Value.replace? (.string m.version) ["info", "version"] document

theorem filled?_description (m : Metadata) :
    filled? m (description {}) = some (description m) := by
  rfl

/-- The texts stand in their places, whatever the document was. -/
theorem at?_of_filled? {m : Metadata} {document filled : Value}
    (h : filled? m document = some filled) :
    filled.at? ["info", "title"] = some (.string m.name) ∧
      filled.at? ["info", "description"] = some (.string m.description) ∧
      filled.at? ["info", "version"] = some (.string m.version) := by
  obtain ⟨titled, htitle, h⟩ := Option.bind_eq_some_iff.1 h
  obtain ⟨described, hdescription, hversion⟩ := Option.bind_eq_some_iff.1 h
  have hname : filled.at? ["info", "title"] = titled.at? ["info", "title"] :=
    (Value.at?_replace?_ne ["info"] hversion (by decide) []).trans
      (Value.at?_replace?_ne ["info"] hdescription (by decide) [])
  have hshort : filled.at? ["info", "description"] = described.at? ["info", "description"] :=
    Value.at?_replace?_ne ["info"] hversion (by decide) []
  exact ⟨hname.trans (Value.at?_of_replace? htitle),
    hshort.trans (Value.at?_of_replace? hdescription), Value.at?_of_replace? hversion⟩

theorem plain_description {m : Metadata} {p : Policy} {assets : List Docs.File} {s : Service}
    (hs : build m p assets = .ok s) {r : Request}
    (hpath : r.uri.path = "/openapi.json".toList) (hread : isRead r.method = true) :
    s.plain r = jsonResponse 200 (description m) := by
  have hfound : s.endpoint? r.uri.path = some (.description, []) := by
    rw [hpath]
    exact endpoint?_own hs (by decide)
  rw [plain_of_isRead hfound hread, read, metadata_of_build hs]

theorem respond_description (m : Metadata) :
    ∃ document, filled? m (description {}) = some document ∧
      read? (description m).pretty = some document ∧
      ∀ p assets s, build m p assets = .ok s →
        ∀ (r : Request) (rec : Recorder), r.method = .get →
          r.uri.path = "/openapi.json".toList →
          ((s.respond r).run rec).1.Holds 200 document := by
  refine ⟨description m, filled?_description m, read?_pretty _, ?_⟩
  intro p assets s hs r rec hmethod hpath
  exact s.holds_respond hmethod (plain_description hs hpath (isRead_iff.2 (.inl hmethod))) rec

/-- Texts that would end their strings, add members or start lines of their own if they were not
escaped, in a service with its documentation in another place. -/
theorem respond_description_hostile :
    let m : Metadata :=
      ⟨"\", \"title\": \"\\", "\x00\x1f\n", "é😀\u2028\x7f\x7d]", "/help/"⟩
    ∃ s, build m ⟨[], false, .any, .list [], 0⟩ [] = .ok s ∧
      ∀ rec,
        let r : Request := ⟨.get, ⟨"/openapi.json".toList, some "v=1".toList⟩,
          [(.origin, .ofString "null")], [0x7B]⟩
        ∃ document, read? (description m).pretty = some document ∧
          ((s.respond r).run rec).1.Holds 200 document ∧
          document.at? ["info", "title"] = some (.string "\", \"title\": \"\\") ∧
          document.at? ["info", "version"] = some (.string "\x00\x1f\n") := by
  intro m
  obtain ⟨s, hs⟩ : ∃ s, build m ⟨[], false, .any, .list [], 0⟩ [] = .ok s := by
    subst m
    exact ⟨_, rfl⟩
  obtain ⟨document, hfilled, hread, hanswer⟩ := respond_description m
  obtain ⟨htitle, -, hversion⟩ := at?_of_filled? hfilled
  exact ⟨s, hs, fun rec => ⟨document, hread, hanswer _ _ s hs _ rec rfl rfl, htitle, hversion⟩⟩

end OriginGate.Service
