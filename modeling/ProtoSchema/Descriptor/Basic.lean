import ProtoSchema.Constraint.Basic

/-!
# Descriptors

A descriptor set is what is compiled: files with their messages and enums, the type of every field,
and the constraints on fields and oneofs.
-/

namespace ProtoSchema

/-- The type of an item of a list or a value of a map; enums and messages are given by name. -/
inductive ElementType
  | scalar (kind : ScalarKind)
  | enum (name : String)
  | message (name : String)
deriving DecidableEq, Repr, Inhabited

/-- The type of a field. -/
inductive FieldType
  | scalar (kind : ScalarKind)
  | enum (name : String)
  | message (name : String)
  | map (key : ScalarKind) (value : ElementType)
  | repeated (item : ElementType)
deriving DecidableEq, Repr, Inhabited

structure FieldDescriptor where
  name : String
  jsonName : Option String
  type : FieldType
  isOptional : Bool
  oneof : Option String
  constraints : Option FieldConstraints
deriving Repr, Inhabited

structure OneofDescriptor where
  name : String
  constraints : Option OneofConstraints
deriving DecidableEq, Repr, Inhabited

structure EnumValue where
  name : String
  number : Int
deriving DecidableEq, Repr, Inhabited

/-- An enum; several values may have the same number. -/
structure EnumDescriptor where
  name : String
  values : List EnumValue
deriving DecidableEq, Repr, Inhabited

/-- A message with the messages and enums that are declared inside it. -/
structure MessageDescriptor where
  name : String
  fields : List FieldDescriptor
  oneofs : List OneofDescriptor
  messages : List MessageDescriptor
  enums : List EnumDescriptor
deriving Repr, Inhabited

structure FileDescriptor where
  name : String
  package : String
  messages : List MessageDescriptor
  enums : List EnumDescriptor
deriving Repr, Inhabited

/-- Files and the names of those to generate schemas for; no names stand for every file. -/
structure DescriptorSet where
  filesToGenerate : List String
  files : List FileDescriptor
deriving Repr, Inhabited

end ProtoSchema
