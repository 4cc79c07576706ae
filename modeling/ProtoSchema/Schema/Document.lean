import ProtoSchema.Json.Value
import ProtoSchema.Schema.Basic

/-!
# Schema documents

A schema is written as a JSON value: a boolean, or an object with one member for each keyword that
is in use.  A document is a root schema with named definitions; it is one JSON object, in which the
keywords of the root stand between the dialect and the definitions.
-/

namespace ProtoSchema

/-- The dialect of all documents. -/
def draft07 : String := "http://json-schema.org/draft-07/schema#"

namespace Schema

/-- The member of a keyword that is in use. -/
def member (key : String) (write : α → Json) : Option α → List (String × Json)
  | none => []
  | some x => [(key, write x)]

/-- The member of a keyword with a list, which is in use unless the list is empty. -/
def listMember (key : String) (write : α → Json) (xs : List α) : List (String × Json) :=
  if xs.isEmpty then [] else [(key, .array (xs.map write))]

def sizeJson (n : Nat) : Json := .number (.int n)

/-- The members of the two annotations. -/
def annotations (title description : Option String) : List (String × Json) :=
  member "title" .string title ++ member "description" .string description

/-- An object that starts with the type of the schema. -/
def typed (type : String) (members : List (String × Json)) : Json :=
  .object (("type", .string type) :: members)

def stringMembers (s : StringKeywords) : List (String × Json) :=
  annotations s.title s.description ++ member "const" .string s.equals ++
    listMember "enum" .string s.enumeration ++ member "pattern" .string s.pattern ++
    member "format" (fun f => .string f.name) s.format ++ member "minLength" sizeJson s.minLength ++
    member "maxLength" sizeJson s.maxLength

def numberMembers (s : NumberKeywords) : List (String × Json) :=
  annotations s.title s.description ++ member "const" .number s.equals ++
    listMember "enum" .number s.enumeration ++ member "minimum" .number s.minimum ++
    member "exclusiveMinimum" .number s.exclusiveMinimum ++ member "maximum" .number s.maximum ++
    member "exclusiveMaximum" .number s.exclusiveMaximum

def booleanMembers (s : BooleanKeywords) : List (String × Json) :=
  annotations s.title s.description ++ member "const" .bool s.equals

mutual

def toJson : Schema → Json
  | always => .bool true
  | never => .bool false
  | generic s => .object (annotations s.title s.description)
  | object ⟨title, description, properties, required, additional, names, least, most⟩ =>
    let properties := namedJson properties
    typed "object" (annotations title description ++
      (if properties.isEmpty then [] else [("properties", .object properties)]) ++
      listMember "required" .string required ++ optionJson "additionalProperties" additional ++
      optionJson "propertyNames" names ++ member "minProperties" sizeJson least ++
      member "maxProperties" sizeJson most)
  | array ⟨title, description, items, least, most, unique⟩ =>
    typed "array" (annotations title description ++ optionJson "items" items ++
      member "minItems" sizeJson least ++ member "maxItems" sizeJson most ++
      (if unique then [("uniqueItems", .bool true)] else []))
  | string s => typed "string" (stringMembers s)
  | integer s => typed "integer" (numberMembers s)
  | number s => typed "number" (numberMembers s)
  | boolean s => typed "boolean" (booleanMembers s)
  | ref target => .object [("$ref", .string target.text)]
  | allOf operands => .object [("allOf", .array (operandsJson operands))]
  | anyOf operands => .object [("anyOf", .array (operandsJson operands))]
  | oneOf operands => .object [("oneOf", .array (operandsJson operands))]
  | not s => .object [("not", toJson s)]

def operandsJson : List Schema → List Json
  | [] => []
  | s :: rest => toJson s :: operandsJson rest

def namedJson : List (String × Schema) → List (String × Json)
  | [] => []
  | (key, s) :: rest => (key, toJson s) :: namedJson rest

def optionJson (key : String) : Option Schema → List (String × Json)
  | none => []
  | some s => [(key, toJson s)]

end

end Schema

/-- A schema with the definitions that it refers to, and the address under which it is published, if
it is. -/
structure Document where
  id : Option String := none
  root : Schema
  definitions : List (String × Schema)
deriving Repr, Inhabited

namespace Document

/-- The members that the root puts into the document; a root that never holds is written as the
negation of the schema that always does.  Nothing else than an object or a boolean is ever written
for a schema. -/
def rootMembers (root : Schema) : List (String × Json) :=
  match root.toJson with
  | .object members => members
  | .bool true => []
  | .bool false => [("not", .object [])]
  | other => [("allOf", .array [other])]

/-- The members that are put into a document, one after the other. -/
def members (d : Document) : List (String × Json) :=
  let definitions := Schema.namedJson d.definitions
  ("$schema", .string draft07) ::
    (Schema.member "$id" .string d.id ++ rootMembers d.root ++
      if definitions.isEmpty then [] else [("definitions", .object definitions)])

def toJson (d : Document) : Json := .object (assignAll d.members)

/-- The text of a document, which ends with a line end. -/
def text (d : Document) : String := d.toJson.pretty ++ "\n"

end Document

end ProtoSchema
