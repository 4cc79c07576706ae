import ProtoSchema.Constraint.Basic
import ProtoSchema.Json.Decode

/-!
# Reading constraints

Every record of constraints refuses keys that it does not know, so that no constraint is dropped in
silence.  Only rules on bytes, which have no effect, take any key.
-/

namespace ProtoSchema

open Json Json.Decoder

/-- The names of scalar kinds. -/
def ScalarKind.decoder : Decoder ScalarKind :=
  variant (ScalarKind.all.map fun kind => (kind.name, .none kind))

namespace IgnorePolicy

def decoder : Decoder IgnorePolicy :=
  variant [("unspecified", .none unspecified), ("if_unpopulated", .none ifUnpopulated),
    ("if_default_value", .none ifDefaultValue), ("always", .none always)]

end IgnorePolicy

namespace StringShape

def decoder : Decoder StringShape :=
  variant [("address", .none address), ("email", .none email), ("hostname", .none hostname),
    ("ip", .none ip), ("ipv4", .none ipv4), ("ipv6", .none ipv6), ("uri", .none uri),
    ("uri_ref", .none uriRef)]

end StringShape

/-- A record of rules: every field has a default, and other keys are refused. -/
def rulesRecord (what : String) (slots : List (Slot σ)) (initial : σ) : Decoder σ :=
  record ⟨"struct " ++ what, slots, true, initial⟩

/-- A field that is absent or has a value; null stands for absence. -/
def maybe (name : String) (d : Decoder α) (set : Option α → σ → σ) : Slot σ :=
  defaulted name (option d) set

def NumericRules.decoder (number : Decoder α) : Decoder (NumericRules α) :=
  rulesRecord "NumericRules"
    [maybe "const" number fun x r => { r with equals := x },
      maybe "gt" number fun x r => { r with gt := x },
      maybe "gte" number fun x r => { r with gte := x },
      maybe "lt" number fun x r => { r with lt := x },
      maybe "lte" number fun x r => { r with lte := x },
      defaulted "in" (list number) fun x r => { r with allow := x },
      defaulted "not_in" (list number) fun x r => { r with deny := x }]
    {}

def BoolRules.decoder : Decoder BoolRules :=
  rulesRecord "BoolRules" [maybe "const" bool fun x r => { r with equals := x }] {}

def StringRules.decoder : Decoder StringRules :=
  rulesRecord "StringRules"
    [maybe "const" string fun x r => { r with equals := x },
      maybe "len" size fun x r => { r with length := x },
      maybe "min_len" size fun x r => { r with minLength := x },
      maybe "max_len" size fun x r => { r with maxLength := x },
      maybe "pattern" string fun x r => { r with pattern := x },
      maybe "prefix" string fun x r => { r with startsWith := x },
      maybe "suffix" string fun x r => { r with endsWith := x },
      maybe "contains" string fun x r => { r with contains := x },
      maybe "not_contains" string fun x r => { r with excludes := x },
      defaulted "in" (list string) fun x r => { r with allow := x },
      defaulted "not_in" (list string) fun x r => { r with deny := x },
      maybe "well_known" StringShape.decoder fun x r => { r with wellKnown := x }]
    {}

def BytesRules.decoder : Decoder BytesRules := record ⟨"struct BytesRules", [], false, {}⟩

def EnumRules.decoder : Decoder EnumRules :=
  rulesRecord "EnumRules"
    [maybe "const" int32 fun x r => { r with equals := x },
      defaulted "in" (list int32) fun x r => { r with allow := x },
      defaulted "not_in" (list int32) fun x r => { r with deny := x },
      defaulted "defined_only" bool fun x r => { r with definedOnly := x }]
    {}

def RepeatedRules.decoder (constraints : Decoder γ) : Decoder (RepeatedRules γ) :=
  rulesRecord "RepeatedRules"
    [maybe "min_items" size fun x r => { r with minItems := x },
      maybe "max_items" size fun x r => { r with maxItems := x },
      defaulted "unique" bool fun x r => { r with unique := x },
      maybe "items" constraints fun x r => { r with items := x }]
    {}

def MapRules.decoder (constraints : Decoder γ) : Decoder (MapRules γ) :=
  rulesRecord "MapRules"
    [maybe "min_pairs" size fun x r => { r with minPairs := x },
      maybe "max_pairs" size fun x r => { r with maxPairs := x },
      maybe "keys" constraints fun x r => { r with keys := x },
      maybe "values" constraints fun x r => { r with values := x }]
    {}

def AnyRules.decoder : Decoder AnyRules :=
  rulesRecord "AnyRules"
    [defaulted "in" (list string) fun x r => { r with allow := x },
      defaulted "not_in" (list string) fun x r => { r with deny := x }]
    {}

def Duration.decoder : Decoder Duration :=
  rulesRecord "DurationValue"
    [defaulted "seconds" int64 fun x d => { d with seconds := x },
      defaulted "nanos" int32 fun x d => { d with nanos := x }]
    ⟨0, 0⟩

def DurationRules.decoder : Decoder DurationRules :=
  rulesRecord "DurationRules"
    [maybe "const" Duration.decoder fun x r => { r with equals := x },
      defaulted "in" (list Duration.decoder) fun x r => { r with allow := x },
      defaulted "not_in" (list Duration.decoder) fun x r => { r with deny := x }]
    {}

def Timestamp.decoder : Decoder Timestamp :=
  rulesRecord "TimestampValue"
    [defaulted "seconds" int64 fun x t => { t with seconds := x },
      defaulted "nanos" int32 fun x t => { t with nanos := x }]
    ⟨0, 0⟩

def TimestampRules.decoder : Decoder TimestampRules :=
  rulesRecord "TimestampRules"
    [maybe "const" Timestamp.decoder fun x r => { r with equals := x }] {}

/-- Constraints, given how to read those inside them. -/
def constraintsStep (inner : Decoder FieldConstraints) : Decoder FieldConstraints :=
  rulesRecord "FieldConstraints"
    [defaulted "required" bool fun x c => { c with required := x },
      defaulted "ignore" IgnorePolicy.decoder fun x c => { c with ignore := x },
      defaulted "ignore_empty" bool fun x c => { c with ignoreEmpty := x },
      maybe "float" (NumericRules.decoder float32) fun x c => { c with float := x },
      maybe "double" (NumericRules.decoder float64) fun x c => { c with double := x },
      maybe "int32" (NumericRules.decoder int32) fun x c => { c with int32 := x },
      maybe "int64" (NumericRules.decoder int64) fun x c => { c with int64 := x },
      maybe "uint32" (NumericRules.decoder uint32) fun x c => { c with uint32 := x },
      maybe "uint64" (NumericRules.decoder uint64) fun x c => { c with uint64 := x },
      maybe "sint32" (NumericRules.decoder int32) fun x c => { c with sint32 := x },
      maybe "sint64" (NumericRules.decoder int64) fun x c => { c with sint64 := x },
      maybe "fixed32" (NumericRules.decoder uint32) fun x c => { c with fixed32 := x },
      maybe "fixed64" (NumericRules.decoder uint64) fun x c => { c with fixed64 := x },
      maybe "sfixed32" (NumericRules.decoder int32) fun x c => { c with sfixed32 := x },
      maybe "sfixed64" (NumericRules.decoder int64) fun x c => { c with sfixed64 := x },
      maybe "bool" BoolRules.decoder fun x c => { c with bool := x },
      maybe "string" StringRules.decoder fun x c => { c with string := x },
      maybe "bytes" BytesRules.decoder fun x c => { c with bytes := x },
      maybe "enum" EnumRules.decoder fun x c => { c with enumeration := x },
      maybe "repeated" (RepeatedRules.decoder inner) fun x c => { c with repeated := x },
      maybe "map" (MapRules.decoder inner) fun x c => { c with map := x },
      maybe "any" AnyRules.decoder fun x c => { c with any := x },
      maybe "duration" DurationRules.decoder fun x c => { c with duration := x },
      maybe "timestamp" TimestampRules.decoder fun x c => { c with timestamp := x }]
    {}

def FieldConstraints.decoder : Decoder FieldConstraints := nested constraintsStep

def OneofConstraints.decoder : Decoder OneofConstraints :=
  rulesRecord "OneofConstraints" [defaulted "required" bool fun x c => { c with required := x }] {}

end ProtoSchema
