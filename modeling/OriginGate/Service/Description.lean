import OriginGate.Json.Basic
import OriginGate.Service.Metadata

/-!
# The interface description

The OpenAPI document of the service: its two operations, what they answer and the shapes of the
answers. Only the title, the description and the version come from the metadata.
-/

namespace OriginGate.Service

open Json

/-- An object with one member. -/
def single (key : String) (v : Value) : Value :=
  .object [(key, v)]

/-- A reference to the schema of this name. -/
def schemaReference (name : String) : String × Value :=
  ("$ref", .string ("#/components/schemas/" ++ name))

/-- An operation that is read with `GET` and answers with one schema. -/
def operation (tag summary identifier answer schema : String) : Value :=
  single "get" <| .object [
    ("tags", .array [.string tag]),
    ("summary", .string summary),
    ("operationId", .string identifier),
    ("responses", single "200" <| .object [
      ("description", .string answer),
      ("content", single "application/json" <|
        single "schema" <| .object [schemaReference schema])])]

/-- A text property with an example. -/
def textProperty (description sample : String) : Value :=
  .object [
    ("type", .string "string"),
    ("description", .string description),
    ("example", .string sample)]

/-- An object schema with its required properties and all properties. -/
def objectSchema (description : String) (required : List String)
    (properties : List (String × Value)) : Value :=
  .object [
    ("type", .string "object"),
    ("description", .string description),
    ("required", .array (required.map .string)),
    ("properties", .object properties)]

/-- The shape of the answer for unknown paths. -/
def errorSchema : Value :=
  objectSchema "Body returned for unknown paths." ["detail"]
    [("detail", textProperty "Short reason phrase." "Not Found")]

/-- The shape of the answer about the health of the service. -/
def healthSchema : Value :=
  objectSchema "Health check response." ["status", "version"] [
    ("status", .object [
      schemaReference "HealthStatus",
      ("description", .string "Always \"healthy\" while the process serves requests.")]),
    ("version", textProperty "Service version." "1.0.0")]

/-- The states of health. -/
def healthStatusSchema : Value :=
  .object [
    ("type", .string "string"),
    ("description", .string "Liveness indicator."),
    ("enum", .array [.string "healthy"])]

/-- The shape of the answer about the service. -/
def rootSchema : Value :=
  objectSchema "Root status response." ["message", "version", "docs"] [
    ("docs", textProperty "Path of the interactive API docs." "/docs"),
    ("message", textProperty "Status line, e.g. \"DeepBlocks API is running\"."
      "DeepBlocks API is running"),
    ("version", textProperty "Service version." "1.0.0")]

/-- A group of operations. -/
def tag (name description : String) : Value :=
  .object [("name", .string name), ("description", .string description)]

/-- The interface description of a service. -/
def description (m : Metadata) : Value :=
  .object [
    ("openapi", .string "3.1.0"),
    ("info", .object [
      ("title", .string m.name),
      ("description", .string m.description),
      ("contact", single "name" (.string "Your Name")),
      ("license", .object [("name", .string "MIT"), ("identifier", .string "MIT")]),
      ("version", .string m.version)]),
    ("paths", .object [
      ("/", operation "Service"
        "Root handler - reports that the service is up and where the docs live."
        "root" "Service is running" "RootResponse"),
      ("/health", operation "Observability" "Health check handler - always returns 200."
        "health" "Service is healthy" "HealthResponse")]),
    ("components", single "schemas" <| .object [
      ("ErrorResponse", errorSchema),
      ("HealthResponse", healthSchema),
      ("HealthStatus", healthStatusSchema),
      ("RootResponse", rootSchema)]),
    ("tags", .array [
      tag "Service" "Service status",
      tag "Observability" "Liveness probing"])]

end OriginGate.Service
