import ProtoSchema.Unicode.Casing

/-!
# Names

A type has a full name, in which a dot stands before each part: `.acme.v1.Order`.  Its key in a
schema document is the full name without the first dot, and its file has a directory for each part
but the last.  A field has a JSON name, in which an underscore gives way to a capital.
-/

namespace ProtoSchema

namespace TypeName

/-- The full name of a reference, in which the first dot may be missing. -/
def inFull (name : String) : String :=
  match name.toList with
  | '.' :: _ => name
  | _ => "." ++ name

/-- A full name without its first dot. -/
def key (name : String) : String :=
  match name.toList with
  | '.' :: cs => String.ofList cs
  | _ => name

/-- The path of the schema document of a type. -/
def filePath (name : String) : String :=
  String.ofList ((key name).toList.map fun c => if c = '.' then '/' else c) ++
    ".schema.json"

end TypeName

/-- Drops underscores and writes the character after each run of them in upper case; `capital`
tells whether such a run has just ended. -/
def capitalizeRuns (capital : Bool) : List Char → List Char
  | [] => []
  | c :: cs =>
    if c = '_' then capitalizeRuns true cs
    else (if capital then Unicode.toUpper c else [c]) ++ capitalizeRuns false cs

/-- The JSON name of a field, unless the field declares one. -/
def jsonName (name : String) : String := String.ofList (capitalizeRuns false name.toList)

end ProtoSchema
