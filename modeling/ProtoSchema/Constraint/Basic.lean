import ProtoSchema.Constraint.Numeric
import ProtoSchema.Descriptor.ScalarKind
import ProtoSchema.Time.Duration
import ProtoSchema.Time.Timestamp

/-!
# Constraints

A field, an item of a list, and a key or value of a map may be constrained: it may be required, and
at most one set of rules says which values it takes.  An ignore policy switches the rules off,
always or where the value is the default.
-/

namespace ProtoSchema

/-- When the rules of a field are skipped. -/
inductive IgnorePolicy
  | unspecified
  | ifUnpopulated
  | ifDefaultValue
  | always
deriving DecidableEq, Repr, Inhabited

structure BoolRules where
  equals : Option Bool := none
deriving DecidableEq, Repr, Inhabited

/-- String shapes that have a name. -/
inductive StringShape
  | address
  | email
  | hostname
  | ip
  | ipv4
  | ipv6
  | uri
  | uriRef
deriving DecidableEq, Repr, Inhabited

structure StringRules where
  equals : Option String := none
  length : Option Nat := none
  minLength : Option Nat := none
  maxLength : Option Nat := none
  pattern : Option String := none
  startsWith : Option String := none
  endsWith : Option String := none
  contains : Option String := none
  excludes : Option String := none
  allow : List String := []
  deny : List String := []
  wellKnown : Option StringShape := none
deriving DecidableEq, Repr, Inhabited

/-- Rules on bytes have no effect, whatever they say. -/
structure BytesRules where
deriving DecidableEq, Repr, Inhabited

/-- Rules on an enum, by number.  A schema lists declared names only, so `definedOnly` always
holds. -/
structure EnumRules where
  equals : Option Int := none
  allow : List Int := []
  deny : List Int := []
  definedOnly : Bool := false
deriving DecidableEq, Repr, Inhabited

/-- Rules on a list; `γ` is the type of the constraints on its items. -/
structure RepeatedRules (γ : Type) where
  minItems : Option Nat := none
  maxItems : Option Nat := none
  unique : Bool := false
  items : Option γ := none
deriving Repr, Inhabited

/-- Rules on a map; `γ` is the type of the constraints on its keys and values. -/
structure MapRules (γ : Type) where
  minPairs : Option Nat := none
  maxPairs : Option Nat := none
  keys : Option γ := none
  values : Option γ := none
deriving Repr, Inhabited

/-- Rules on the type that a dynamically typed message names. -/
structure AnyRules where
  allow : List String := []
  deny : List String := []
deriving DecidableEq, Repr, Inhabited

structure DurationRules where
  equals : Option Duration := none
  allow : List Duration := []
  deny : List Duration := []
deriving DecidableEq, Repr, Inhabited

structure TimestampRules where
  equals : Option Timestamp := none
deriving DecidableEq, Repr, Inhabited

structure FieldConstraints where
  required : Bool := false
  ignore : IgnorePolicy := .unspecified
  /-- An older way to say that the rules are skipped where the value is the default. -/
  ignoreEmpty : Bool := false
  float : Option (NumericRules BinaryFloat) := none
  double : Option (NumericRules BinaryFloat) := none
  int32 : Option (NumericRules Int) := none
  int64 : Option (NumericRules Int) := none
  uint32 : Option (NumericRules Int) := none
  uint64 : Option (NumericRules Int) := none
  sint32 : Option (NumericRules Int) := none
  sint64 : Option (NumericRules Int) := none
  fixed32 : Option (NumericRules Int) := none
  fixed64 : Option (NumericRules Int) := none
  sfixed32 : Option (NumericRules Int) := none
  sfixed64 : Option (NumericRules Int) := none
  bool : Option BoolRules := none
  string : Option StringRules := none
  bytes : Option BytesRules := none
  enumeration : Option EnumRules := none
  repeated : Option (RepeatedRules FieldConstraints) := none
  map : Option (MapRules FieldConstraints) := none
  any : Option AnyRules := none
  duration : Option DurationRules := none
  timestamp : Option TimestampRules := none
deriving Repr

instance : Inhabited FieldConstraints := ⟨{}⟩

/-- Constraints on a oneof. -/
structure OneofConstraints where
  required : Bool := false
deriving DecidableEq, Repr, Inhabited

/-- The rules of a field. -/
inductive Rules
  | numeric (kind : NumericKind) (bounds : NumberRules)
  | bool (r : BoolRules)
  | string (r : StringRules)
  | bytes (r : BytesRules)
  | enumeration (r : EnumRules)
  | repeated (r : RepeatedRules FieldConstraints)
  | map (r : MapRules FieldConstraints)
  | any (r : AnyRules)
  | duration (r : DurationRules)
  | timestamp (r : TimestampRules)
deriving Repr

/-- The key under which rules are given. -/
def Rules.name : Rules → String
  | numeric kind _ => kind.name
  | bool _ => "bool"
  | string _ => "string"
  | bytes _ => "bytes"
  | enumeration _ => "enum"
  | repeated _ => "repeated"
  | map _ => "map"
  | any _ => "any"
  | duration _ => "duration"
  | timestamp _ => "timestamp"

/-- Why the rules of a field cannot be told. -/
inductive RulesFault
  | numeric (kind : NumericKind) (fault : BoundsFault)
  | several (names : List String)
deriving DecidableEq, Repr

def RulesFault.message : RulesFault → String
  | numeric kind fault => kind.name ++ " rules: " ++ fault.message
  | several names => "at most one rule set may be given, found " ++ ", ".intercalate names

namespace FieldConstraints

/-- The constraints that apply. -/
def inForce (c : FieldConstraints) : FieldConstraints := if c.ignore = .always then {} else c

/-- Whether the field must be present.  A field whose default is ignored need not be: its absence
and its default are the same. -/
def isRequired (c : FieldConstraints) : Bool :=
  c.required && !c.ignoreEmpty && c.ignore != .ifDefaultValue && c.ignore != .always

/-- Whether the rules are skipped where the value is the default. -/
def skipsDefault (c : FieldConstraints) : Bool :=
  c.ignoreEmpty || c.ignore == .ifDefaultValue

/-- The numeric rules that are given, each with its bounds. -/
def numericRules (c : FieldConstraints) :
    List (NumericKind × Except BoundsFault NumberRules) :=
  let ints := fun (kind : NumericKind) (r : Option (NumericRules Int)) =>
    r.map fun r => (kind, r.bounds fun n => some (.int n))
  [c.float.map fun r => (.float, r.bounds Number.ofBinary32?),
    c.double.map fun r => (.double, r.bounds Number.ofBinary64?),
    ints .int32 c.int32, ints .int64 c.int64, ints .uint32 c.uint32, ints .uint64 c.uint64,
    ints .sint32 c.sint32, ints .sint64 c.sint64, ints .fixed32 c.fixed32,
    ints .fixed64 c.fixed64, ints .sfixed32 c.sfixed32, ints .sfixed64 c.sfixed64].filterMap id

/-- The other rules that are given. -/
def otherRules (c : FieldConstraints) : List Rules :=
  [c.bool.map .bool, c.string.map .string, c.bytes.map .bytes, c.enumeration.map .enumeration,
    c.repeated.map .repeated, c.map.map .map, c.any.map .any, c.duration.map .duration,
    c.timestamp.map .timestamp].filterMap id

/-- The rules of the field, if it has any. -/
def rules (c : FieldConstraints) : Except RulesFault (Option Rules) := do
  let numeric ← c.numericRules.mapM fun (kind, bounds) =>
    match bounds with
    | .ok bounds => .ok (Rules.numeric kind bounds)
    | .error fault => .error (.numeric kind fault)
  match numeric ++ c.otherRules with
  | [] => return none
  | [r] => return some r
  | several => throw (.several (several.map Rules.name))

end FieldConstraints

end ProtoSchema
