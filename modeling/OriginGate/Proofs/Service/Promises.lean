import OriginGate.Proofs.Json.Path
import OriginGate.Proofs.Service.Documents

/-!
# The description is kept

The interface description lists operations and, for each, the schema of its answer. It is read here
as any reader would read it: from the value alone, with its references followed. Every operation
that it lists is answered, and the document in the answer fits the schema and tells the metadata.

* `Json.Fits`: what a value must be to fit a schema of a document.
* `Service.operations`: the operations that a description lists.
* `Service.operations_description`: those of the service, with the schemas of their answers.
* `Service.fits_rootDocument`, `fits_healthDocument`: the two documents fit their schemas.
* `Service.respond_promised`: what every listed operation answers.
-/

namespace OriginGate

open Http Json Metrics Text

/-! ## Schemas -/

/-- The value fits the schema, whose references lead to other schemas of the document. Of an object
all properties that are required are there, each once, and no others. -/
inductive Json.Fits (document : Value) : Value → Value → Prop where
  | reference {schema target v : Value} {name : String}
      (there : schema.member? "$ref" = some (.string name))
      (leads : document.follow? name = some target)
      (fits : Fits document target v) : Fits document schema v
  | text {schema : Value} {s : String}
      (type : schema.member? "type" = some (.string "string"))
      (listed : ∀ choices, schema.member? "enum" = some (.array choices) → .string s ∈ choices) :
      Fits document schema (.string s)
  | object {schema properties : Value} {names : List String} {members : List (String × Value)}
      (type : schema.member? "type" = some (.string "object"))
      (required : schema.member? "required" = some (.array (names.map .string)))
      (described : schema.member? "properties" = some properties)
      (exactly : (members.map (·.1)).Perm names)
      (known : ∀ m ∈ members, (properties.member? m.1).isSome = true)
      (fits : ∀ k v property, (k, v) ∈ members → properties.member? k = some property →
        Fits document property v) : Fits document schema (.object members)

namespace Service

theorem fits_textProperty (document : Value) (description sample s : String) :
    Fits document (textProperty description sample) (.string s) :=
  .text rfl nofun

/-- A list of members that fits the properties of an object schema in their order. -/
theorem fits_objectSchema {document : Value} {description : String} {required : List String}
    {properties members : List (String × Value)} (hkeys : members.map (·.1) = required)
    (hfits : ∀ m ∈ members, ∃ property, (Value.object properties).member? m.1 = some property ∧
      Fits document property m.2) :
    Fits document (objectSchema description required properties) (.object members) := by
  refine .object rfl rfl rfl (hkeys ▸ List.Perm.refl _) ?_ ?_
  · intro m hm
    obtain ⟨property, hproperty, -⟩ := hfits m hm
    rw [hproperty]
    rfl
  · intro k v property hm hproperty
    obtain ⟨property', hproperty', hfit⟩ := hfits (k, v) hm
    obtain rfl : property' = property := Option.some.inj (hproperty'.symm.trans hproperty)
    exact hfit

/-! ## Operations -/

/-- An operation of a description: its path, its method and what is said of it. -/
structure Operation where
  path : String
  method : String
  details : Value

/-- The keys that stand for methods where a description tells of a path. -/
def methodKeys : List String :=
  ["get", "put", "post", "delete", "options", "head", "patch", "trace"]

def operations (document : Value) : List Operation :=
  ((document.member? "paths").elim [] Value.members).flatMap fun (path, item) =>
    (item.members.filter (·.1 ∈ methodKeys)).map fun (method, details) => ⟨path, method, details⟩

namespace Operation

/-- The schema of the JSON document that the operation answers with a status. -/
def schema? (o : Operation) (status : String) : Option Value :=
  o.details.at? ["responses", status, "content", "application/json", "schema"]

/-- The method of a request for the operation, which is in capitals. -/
def methodText (o : Operation) : List Char :=
  o.method.toList.map Char.toUpper

end Operation

theorem map_toUpper_get : "get".toList.map Char.toUpper = Method.get.chars := by
  decide

theorem operations_description (m : Metadata) :
    (operations (description m)).map (fun o => (o.path, o.method, o.schema? "200")) =
      [("/", "get", some (.object [schemaReference "RootResponse"])),
        ("/health", "get", some (.object [schemaReference "HealthResponse"]))] := by
  rfl

/-! ## The documents fit their schemas -/

theorem fits_schemaReference {document v : Value} {name : String} (target : Value)
    {rest : List (String × Value)}
    (h : document.follow? ("#/components/schemas/" ++ name) = some target)
    (hfits : Fits document target v) :
    Fits document (.object (schemaReference name :: rest)) v :=
  .reference rfl h hfits

theorem fits_rootDocument (m : Metadata) :
    Fits (description m) (.object [schemaReference "RootResponse"]) (rootDocument m) := by
  refine fits_schemaReference rootSchema rfl (fits_objectSchema rfl ?_)
  intro member hmember
  simp only [List.mem_cons, List.not_mem_nil, or_false] at hmember
  rcases hmember with rfl | rfl | rfl
  all_goals exact ⟨_, rfl, fits_textProperty _ _ _ _⟩

theorem fits_healthy (m : Metadata) (rest : List (String × Value)) :
    Fits (description m) (.object (schemaReference "HealthStatus" :: rest))
      (.string "healthy") := by
  refine fits_schemaReference healthStatusSchema rfl (.text rfl ?_)
  intro choices hchoices
  cases hchoices
  exact List.mem_singleton_self _

theorem fits_healthDocument (m : Metadata) :
    Fits (description m) (.object [schemaReference "HealthResponse"]) (healthDocument m) := by
  refine fits_schemaReference healthSchema rfl (fits_objectSchema rfl ?_)
  intro member hmember
  simp only [List.mem_cons, List.not_mem_nil, or_false] at hmember
  rcases hmember with rfl | rfl
  · exact ⟨_, rfl, fits_healthy m _⟩
  · exact ⟨_, rfl, fits_textProperty _ _ _ _⟩

/-! ## What is answered -/

/-- What the document in the answer of an operation tells of the service. -/
structure Tells (m : Metadata) (o : Operation) (v : Value) : Prop where
  root : o.path = "/" →
    v.member? "message" = some (.string (m.name ++ " is running")) ∧
      v.member? "version" = some (.string m.version) ∧
      v.member? "docs" = some (.string m.docsPath)
  health : o.path = "/health" →
    v.member? "status" = some (.string "healthy") ∧
      v.member? "version" = some (.string m.version)

structure Promised (m : Metadata) (o : Operation) (response : Response) : Prop where
  status : response.status = 200
  mediaType : response.fields.getAll .contentType = [.ofString "application/json"]
  body : ∃ schema v, o.schema? "200" = some schema ∧ readBytes? response.body = some v ∧
    Fits (description m) schema v ∧ Tells m o v

/-- What serves a listed operation: a document that keeps the promise. -/
structure Serves (m : Metadata) (o : Operation) (endpoint : Endpoint) (v : Value) : Prop where
  path : (endpoint, o.path.toList) ∈ ownPaths
  method : o.methodText = Method.get.chars
  fits : ∃ schema, o.schema? "200" = some schema ∧ Fits (description m) schema v
  tells : Tells m o v
  read : ∀ s : Service, s.metadata = m → s.read endpoint [] = jsonResponse 200 v

theorem exists_serves {m : Metadata} {o : Operation} (h : o ∈ operations (description m)) :
    ∃ endpoint v, Serves m o endpoint v := by
  obtain ⟨path, method, details⟩ := o
  have hmem : (path, method, Operation.schema? ⟨path, method, details⟩ "200") ∈
      (operations (description m)).map fun o => (o.path, o.method, o.schema? "200") :=
    List.mem_map.2 ⟨_, h, rfl⟩
  rw [operations_description] at hmem
  simp only [List.mem_cons, List.not_mem_nil, or_false, Prod.mk.injEq] at hmem
  rcases hmem with ⟨rfl, rfl, hschema⟩ | ⟨rfl, rfl, hschema⟩
  · have hown : (Endpoint.root, "/".toList) ∈ ownPaths := by decide
    refine ⟨.root, rootDocument m, hown, map_toUpper_get, ⟨_, hschema, fits_rootDocument m⟩, ?_, ?_⟩
    · exact ⟨fun _ => ⟨rfl, rfl, rfl⟩, fun hpath : "/" = "/health" => absurd hpath (by decide)⟩
    · rintro s rfl
      rfl
  · have hown : (Endpoint.health, "/health".toList) ∈ ownPaths := by decide
    refine ⟨.health, healthDocument m, hown, map_toUpper_get, ⟨_, hschema, fits_healthDocument m⟩,
      ?_, ?_⟩
    · exact ⟨fun hpath : "/health" = "/" => absurd hpath (by decide), fun _ => ⟨rfl, rfl⟩⟩
    · rintro s rfl
      rfl

theorem Serves.promised {m : Metadata} {p : Policy} {assets : List Docs.File} {s : Service}
    {o : Operation} {endpoint : Endpoint} {v : Value} (h : Serves m o endpoint v)
    (hs : build m p assets = .ok s) {r : Request}
    (hpath : r.uri.path = o.path.toList) (hmethod : r.method = .get)
    (rec : Recorder) : Promised m o ((s.respond r).run rec).1 := by
  have hfound : s.endpoint? r.uri.path = some (endpoint, []) := by
    rw [hpath]
    exact endpoint?_own hs h.path
  have hplain : s.plain r = jsonResponse 200 v := by
    rw [plain_of_isRead hfound (isRead_iff.2 (.inl hmethod)), h.read s (metadata_of_build hs)]
  obtain ⟨schema, hschema, hfits⟩ := h.fits
  have hholds := s.holds_respond hmethod hplain rec
  exact ⟨hholds.status, hholds.mediaType, schema, v, hschema, hholds.body, hfits, h.tells⟩

theorem respond_promised {m : Metadata} {p : Policy} {assets : List Docs.File} {s : Service}
    (hs : build m p assets = .ok s) :
    (operations (description m)).map (fun o => (o.path, o.method)) =
        [("/", "get"), ("/health", "get")] ∧
      ∀ o ∈ operations (description m), ∀ (r : Request) (rec : Recorder),
        r.uri.path = o.path.toList →
        (r.method.chars = o.methodText → Promised m o ((s.respond r).run rec).1) ∧
        (r.method = .head → ∀ rec' : Recorder,
          ((s.respond r).run rec).1 =
            { ((s.respond { r with method := .get }).run rec').1 with body := [] }) := by
  refine ⟨rfl, fun o ho r rec hpath => ?_⟩
  obtain ⟨endpoint, v, hserves⟩ := exists_serves ho
  refine ⟨fun hmethod => ?_, fun hhead rec' => ?_⟩
  · have hget : r.method = .get := Method.eq_of_chars (hmethod.trans hserves.method)
    exact hserves.promised hs hpath hget rec
  · have hfound : s.endpoint? r.uri.path = some (endpoint, []) := by
      rw [hpath]
      exact endpoint?_own hs hserves.path
    exact s.respond_head hfound hhead rec rec'

/-- A documentation whose path is a pattern that the paths of the documents match does not take
them away. -/
theorem respond_promised_pattern :
    let m : Metadata := ⟨"\"\\é", "1\x00", "", "/:page"⟩
    ∃ s, build m ⟨[], false, .any, .any, 0⟩ [] = .ok s ∧
      ∀ rec rec' : Recorder,
        let r : Request := ⟨.get, ⟨"/".toList, some "q=%".toList⟩, [(.origin, .ofString "a")], [0]⟩
        let bare : Request := ⟨.head, ⟨"/health".toList, none⟩, [], []⟩
        (∃ v, readBytes? ((s.respond r).run rec).1.body = some v ∧
          v.member? "message" = some (.string "\"\\é is running") ∧
          v.member? "docs" = some (.string "/:page")) ∧
        ((s.respond bare).run rec).1 =
          { ((s.respond { bare with method := .get }).run rec').1 with body := [] } := by
  intro m
  obtain ⟨s, hs⟩ : ∃ s, build m ⟨[], false, .any, .any, 0⟩ [] = .ok s := by
    subst m
    exact ⟨_, rfl⟩
  obtain ⟨hlisted, hall⟩ := respond_promised hs
  have hlisted' : ∀ x ∈ [("/", "get"), ("/health", "get")],
      ∃ o ∈ operations (description m), (o.path, o.method) = x := by
    intro x hx
    exact List.mem_map.1 (hlisted ▸ hx)
  refine ⟨s, hs, fun rec rec' => ?_⟩
  intro r bare
  constructor
  · obtain ⟨o, ho, hx⟩ := hlisted' ("/", "get") (by decide)
    obtain ⟨hpath, hmethod⟩ := Prod.mk.inj hx
    have hget : r.method.chars = o.methodText := by
      rw [Operation.methodText, hmethod, map_toUpper_get]
    obtain ⟨schema, v, -, hread, -, htells⟩ := ((hall o ho r rec (by rw [hpath])).1 hget).body
    obtain ⟨hmessage, -, hdocs⟩ := htells.root hpath
    exact ⟨v, hread, hmessage, hdocs⟩
  · obtain ⟨o, ho, hx⟩ := hlisted' ("/health", "get") (by decide)
    obtain ⟨hpath, -⟩ := Prod.mk.inj hx
    exact (hall o ho bare rec (by rw [hpath])).2 rfl rec'

end Service

end OriginGate
