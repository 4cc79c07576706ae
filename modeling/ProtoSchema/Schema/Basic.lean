import ProtoSchema.Json.Number

/-!
# Schemas

The shapes of schemas that documents are made of: schemas of one type with the keywords of that
type, annotations alone, the two boolean schemas, references into the document, and the logical
combinations.  The combining functions leave out what makes no difference.
-/

namespace ProtoSchema

/-- The formats of strings. -/
inductive StringFormat
  | dateTime
  | email
  | hostname
  | ipv4
  | ipv6
  | uri
  | uriReference
deriving DecidableEq, Repr, Inhabited

def StringFormat.name : StringFormat → String
  | dateTime => "date-time"
  | email => "email"
  | hostname => "hostname"
  | ipv4 => "ipv4"
  | ipv6 => "ipv6"
  | uri => "uri"
  | uriReference => "uri-reference"

/-- The text of a reference to the root of the document. -/
def Reference.rootText : String := "#"

/-- What stands before the key in a reference to a definition. -/
def Reference.definitionsText : String := "#/definitions/"

/-- A place in a document: its root, or a named definition, or wherever any other text leads. -/
inductive Reference
  | root
  | definition (key : String)
  | elsewhere (text : String)
      (h : text ≠ Reference.rootText ∧ ¬ Reference.definitionsText.toList <+: text.toList)
deriving DecidableEq, Repr, Inhabited

def Reference.text : Reference → String
  | root => rootText
  | definition key => definitionsText ++ key
  | elsewhere text _ => text

/-- Annotations alone, which any value satisfies. -/
structure Annotations where
  title : Option String := none
  description : Option String := none
deriving DecidableEq, Repr, Inhabited

/-- Keywords for objects; `σ` is the type of the schemas inside. -/
structure ObjectKeywords (σ : Type) where
  title : Option String := none
  description : Option String := none
  properties : List (String × σ) := []
  required : List String := []
  additionalProperties : Option σ := none
  propertyNames : Option σ := none
  minProperties : Option Nat := none
  maxProperties : Option Nat := none
deriving Repr, Inhabited

/-- Keywords for arrays; `σ` is the type of the schemas inside. -/
structure ArrayKeywords (σ : Type) where
  title : Option String := none
  description : Option String := none
  items : Option σ := none
  minItems : Option Nat := none
  maxItems : Option Nat := none
  uniqueItems : Bool := false
deriving Repr, Inhabited

structure StringKeywords where
  title : Option String := none
  description : Option String := none
  equals : Option String := none
  enumeration : List String := []
  pattern : Option String := none
  format : Option StringFormat := none
  minLength : Option Nat := none
  maxLength : Option Nat := none
deriving DecidableEq, Repr, Inhabited

/-- Keywords for numbers and for integers. -/
structure NumberKeywords where
  title : Option String := none
  description : Option String := none
  equals : Option Number := none
  enumeration : List Number := []
  minimum : Option Number := none
  exclusiveMinimum : Option Number := none
  maximum : Option Number := none
  exclusiveMaximum : Option Number := none
deriving DecidableEq, Repr, Inhabited

structure BooleanKeywords where
  title : Option String := none
  description : Option String := none
  equals : Option Bool := none
deriving DecidableEq, Repr, Inhabited

inductive Schema
  | always
  | never
  | generic (s : Annotations)
  | object (s : ObjectKeywords Schema)
  | array (s : ArrayKeywords Schema)
  | string (s : StringKeywords)
  | integer (s : NumberKeywords)
  | number (s : NumberKeywords)
  | boolean (s : BooleanKeywords)
  | ref (target : Reference)
  | allOf (operands : List Schema)
  | anyOf (operands : List Schema)
  | oneOf (operands : List Schema)
  | not (s : Schema)
deriving Repr, Inhabited

namespace Schema

def isAlways : Schema → Bool
  | always => true
  | _ => false

def isNever : Schema → Bool
  | never => true
  | _ => false

/-- The conjunction: operands that always hold are dropped, and one that never holds stands for the
whole. -/
def conjunction (operands : List Schema) : Schema :=
  if operands.any isNever then never
  else
    match operands.filter (!·.isAlways) with
    | [] => always
    | [s] => s
    | several => allOf several

/-- The disjunction: at least one operand holds. -/
def disjunction : List Schema → Schema
  | [] => never
  | [s] => s
  | several => anyOf several

/-- The exclusive choice: exactly one operand holds. -/
def choice : List Schema → Schema
  | [] => never
  | [s] => s
  | several => oneOf several

def ofPattern (pattern : String) : Schema := string { pattern := some pattern }

def ofFormat (format : StringFormat) : Schema := string { format := some format }

def ofNames (names : List String) : Schema := string { enumeration := names }

/-- The schema of one string. -/
def ofString (s : String) : Schema := string { equals := some s }

end Schema

/-- Gives `key` a value; a key that is there already keeps its place. -/
def assign (key : String) (value : α) : List (String × α) → List (String × α)
  | [] => [(key, value)]
  | (k, v) :: rest => if k = key then (k, value) :: rest else (k, v) :: assign key value rest

/-- The list in which each key has the last value that is given and its first place. -/
def assignAll (entries : List (String × α)) : List (String × α) :=
  entries.foldl (fun taken (key, value) => assign key value taken) []

end ProtoSchema
