/-!
# What the service says of itself

The name, the version, the description and the place of the interactive documentation, fixed
when the service is built.
-/

namespace OriginGate

/-- Name, version and description of the service. -/
structure Metadata where
  name : String := "DeepBlocks API"
  version : String := "1.0.0"
  description : String := "Backend API for DeepBlocks visual ML platform"
  /-- The path of the interactive documentation. -/
  docsPath : String := "/docs"
  deriving DecidableEq, Repr

namespace Metadata

/-- The line that tells that the service is up. -/
def runningMessage (m : Metadata) : String :=
  m.name ++ " is running"

/-- The path of the interface description. -/
def descriptionPath : String := "/openapi.json"

end Metadata

end OriginGate
