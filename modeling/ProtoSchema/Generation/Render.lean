import ProtoSchema.Generation.Document

/-!
# Rendered documents

Every target of a pool has a document in a file of its own, published under a base address.  Either
all of them are rendered or none.
-/

namespace ProtoSchema.Generation

/-- The address under which documents are published unless another one is given. -/
def defaultBaseUrl : String := "https://protoc-gen-jsonschema.cerbos.dev/"

/-- A base address with a slash at its end. -/
def withFinalSlash (url : String) : String :=
  if url.toList.getLast? = some '/' then url else url ++ "/"

/-- A document with its path relative to the directory for all of them. -/
structure SchemaFile where
  path : String
  document : Document
deriving Repr, Inhabited

namespace SchemaFile

def content (f : SchemaFile) : String := f.document.text

end SchemaFile

/-- The document of a message, published under a base address. -/
def renderMessage (p : Pool) (baseUrl : String) (m : Message) : Except Fault SchemaFile := do
  let path := TypeName.filePath m.fullName
  let d ← document p m
  return ⟨path, { d with id := some (withFinalSlash baseUrl ++ path) }⟩

/-- The documents of all targets, or the fault of the first that has none. -/
def render (p : Pool) (baseUrl : String) : Except Fault (List SchemaFile) :=
  p.targets.mapM (renderMessage p baseUrl)

/-- The number of definitions in all documents. -/
def definitionCount (files : List SchemaFile) : Nat :=
  (files.map (·.document.definitions.length)).foldr (· + ·) 0

end ProtoSchema.Generation
