/-!
# Scalar kinds

The kinds of values that are neither messages nor enums, and the forms that they have in JSON.
Integers of 64 bits have two spellings, a number and a string of decimal digits.
-/

namespace ProtoSchema

inductive NumericKind
  | double
  | float
  | int32
  | int64
  | uint32
  | uint64
  | sint32
  | sint64
  | fixed32
  | fixed64
  | sfixed32
  | sfixed64
deriving DecidableEq, Repr, Inhabited

inductive ScalarKind
  | numeric (kind : NumericKind)
  | bool
  | string
  | bytes
deriving DecidableEq, Repr, Inhabited

/-- The numbers that a numeric kind is about. -/
inductive NumberDomain
  | natural
  | integer
  | real
deriving DecidableEq, Repr, Inhabited

namespace NumericKind

def all : List NumericKind :=
  [double, float, int32, int64, uint32, uint64, sint32, sint64, fixed32, fixed64, sfixed32,
    sfixed64]

def name : NumericKind → String
  | double => "double"
  | float => "float"
  | int32 => "int32"
  | int64 => "int64"
  | uint32 => "uint32"
  | uint64 => "uint64"
  | sint32 => "sint32"
  | sint64 => "sint64"
  | fixed32 => "fixed32"
  | fixed64 => "fixed64"
  | sfixed32 => "sfixed32"
  | sfixed64 => "sfixed64"

def domain : NumericKind → NumberDomain
  | uint32 | uint64 | fixed32 | fixed64 => .natural
  | int32 | int64 | sint32 | sint64 | sfixed32 | sfixed64 => .integer
  | float | double => .real

/-- The decimal strings that stand for signed integers. -/
def signedDecimal : String := "^-?(?:0|[1-9]\\d*)(?:\\.\\d+)?(?:[eE][+-]?\\d+)?$"

/-- The decimal strings that stand for unsigned integers. -/
def unsignedDecimal : String := "^(?:0|[1-9]\\d*)(?:\\.\\d+)?(?:[eE][+-]?\\d+)?$"

/-- The pattern of the strings that stand for numbers of a kind, if there are any. -/
def decimalPattern? : NumericKind → Option String
  | int64 | sint64 | sfixed64 => some signedDecimal
  | uint64 | fixed64 => some unsignedDecimal
  | _ => none

end NumericKind

namespace ScalarKind

def all : List ScalarKind := NumericKind.all.map numeric ++ [bool, string, bytes]

def name : ScalarKind → String
  | numeric kind => kind.name
  | bool => "bool"
  | string => "string"
  | bytes => "bytes"

/-- The domain of a numeric kind; the other kinds have none. -/
def domain? : ScalarKind → Option NumberDomain
  | numeric kind => some kind.domain
  | _ => none

def decimalPattern? : ScalarKind → Option String
  | numeric kind => kind.decimalPattern?
  | _ => none

/-- Whether the keys of a map may be of this kind. -/
def isMapKey : ScalarKind → Bool
  | numeric .float | numeric .double | bytes => false
  | _ => true

end ScalarKind

end ProtoSchema
