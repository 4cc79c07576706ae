import ProtoSchema.Descriptor.Name

/-!
# Well-known types

The messages of the package `google.protobuf` whose values have a JSON form of their own.
-/

namespace ProtoSchema

inductive WellKnownType
  | any
  | boolValue
  | bytesValue
  | doubleValue
  | duration
  | empty
  | floatValue
  | int32Value
  | int64Value
  | listValue
  | stringValue
  | struct
  | timestamp
  | uint32Value
  | uint64Value
  | value
deriving DecidableEq, Repr, Inhabited

namespace WellKnownType

def all : List WellKnownType :=
  [any, boolValue, bytesValue, doubleValue, duration, empty, floatValue, int32Value, int64Value,
    listValue, stringValue, struct, timestamp, uint32Value, uint64Value, value]

def shortName : WellKnownType → String
  | any => "Any"
  | boolValue => "BoolValue"
  | bytesValue => "BytesValue"
  | doubleValue => "DoubleValue"
  | duration => "Duration"
  | empty => "Empty"
  | floatValue => "FloatValue"
  | int32Value => "Int32Value"
  | int64Value => "Int64Value"
  | listValue => "ListValue"
  | stringValue => "StringValue"
  | struct => "Struct"
  | timestamp => "Timestamp"
  | uint32Value => "UInt32Value"
  | uint64Value => "UInt64Value"
  | value => "Value"

/-- The full name without its first dot. -/
def key (t : WellKnownType) : String := "google.protobuf." ++ t.shortName

def fullName (t : WellKnownType) : String := "." ++ t.key

/-- The well-known type of a full name, in which the first dot may be missing. -/
def ofName? (name : String) : Option WellKnownType :=
  all.find? fun t => t.key = TypeName.key name

end WellKnownType

end ProtoSchema
