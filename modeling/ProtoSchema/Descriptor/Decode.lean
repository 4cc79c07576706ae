import ProtoSchema.Constraint.Decode
import ProtoSchema.Descriptor.Basic

/-!
# Reading descriptors

Descriptors may hold keys that are not known here; their values are skipped.
-/

namespace ProtoSchema

open Json Json.Decoder

/-- A record that takes any further keys. -/
def openRecord (what : String) (slots : List (Slot σ)) (initial : σ) : Decoder σ :=
  record ⟨"struct " ++ what, slots, false, initial⟩

/-- A variant with one value. -/
def carrying (d : Decoder α) (f : α → β) : Content β :=
  .some "newtype variant" fun levels v => (d levels v).map f

def ElementType.decoder : Decoder ElementType :=
  variant [("scalar", carrying ScalarKind.decoder .scalar), ("enum", carrying string .enum),
    ("message", carrying string .message)]

/-- The key kind and the value type of a map. -/
def mapType : Record (ScalarKind × ElementType) where
  what := "struct variant TypeKind::Map"
  slots := [required "key" ScalarKind.decoder fun x m => (x, m.2),
    required "value" ElementType.decoder fun x m => (m.1, x)]
  strict := false
  initial := default

def FieldType.decoder : Decoder FieldType :=
  variant [("scalar", carrying ScalarKind.decoder .scalar), ("enum", carrying string .enum),
    ("message", carrying string .message),
    ("map", .some "struct variant" fun levels v =>
      (record mapType levels v).map fun (key, value) => .map key value),
    ("repeated", carrying ElementType.decoder .repeated)]

def FieldDescriptor.decoder : Decoder FieldDescriptor :=
  openRecord "FieldDescriptor"
    [required "name" string fun x f => { f with name := x },
      maybe "json_name" string fun x f => { f with jsonName := x },
      required "type" FieldType.decoder fun x f => { f with type := x },
      defaulted "proto3_optional" bool fun x f => { f with isOptional := x },
      maybe "oneof" string fun x f => { f with oneof := x },
      maybe "constraints" FieldConstraints.decoder fun x f => { f with constraints := x }]
    default

def OneofDescriptor.decoder : Decoder OneofDescriptor :=
  openRecord "OneofDescriptor"
    [required "name" string fun x o => { o with name := x },
      maybe "constraints" OneofConstraints.decoder fun x o => { o with constraints := x }]
    default

def EnumValue.decoder : Decoder EnumValue :=
  openRecord "EnumValueDescriptor"
    [required "name" string fun x v => { v with name := x },
      required "number" int32 fun x v => { v with number := x }]
    default

def EnumDescriptor.decoder : Decoder EnumDescriptor :=
  openRecord "EnumDescriptor"
    [required "name" string fun x e => { e with name := x },
      required "values" (list EnumValue.decoder) fun x e => { e with values := x }]
    default

/-- A message, given how to read the messages inside it. -/
def messageStep (inner : Decoder MessageDescriptor) : Decoder MessageDescriptor :=
  openRecord "MessageDescriptor"
    [required "name" string fun x m => { m with name := x },
      defaulted "fields" (list FieldDescriptor.decoder) fun x m => { m with fields := x },
      defaulted "oneofs" (list OneofDescriptor.decoder) fun x m => { m with oneofs := x },
      defaulted "messages" (list inner) fun x m => { m with messages := x },
      defaulted "enums" (list EnumDescriptor.decoder) fun x m => { m with enums := x }]
    default

def MessageDescriptor.decoder : Decoder MessageDescriptor := nested messageStep

def FileDescriptor.decoder : Decoder FileDescriptor :=
  openRecord "FileDescriptor"
    [required "name" string fun x f => { f with name := x },
      defaulted "package" string fun x f => { f with package := x },
      defaulted "messages" (list MessageDescriptor.decoder) fun x f => { f with messages := x },
      defaulted "enums" (list EnumDescriptor.decoder) fun x f => { f with enums := x }]
    default

def DescriptorSet.decoder : Decoder DescriptorSet :=
  openRecord "DescriptorSet"
    [defaulted "files_to_generate" (list string) fun x s => { s with filesToGenerate := x },
      required "files" (list FileDescriptor.decoder) fun x s => { s with files := x }]
    default

end ProtoSchema
