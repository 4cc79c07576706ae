import ProtoSchema.Constraint.Basic
import ProtoSchema.Pattern.Conversion
import ProtoSchema.Text.Quoted

/-!
# Why a message has no schema

A fault comes with the path to where it lies: the keys of the messages on the way, each followed by
a field, and within a field the items, values or keys.
-/

namespace ProtoSchema.Generation

inductive Cause
  | unresolvedEnum (name : String)
  | unresolvedMessage (name : String)
  | unknownEnumValue (enum : String) (number : Int)
  | pattern (pattern : String) (fault : Pattern.ConversionFault)
  | rules (fault : RulesFault)
  | misapplied (rules target : String)
  | duration (fault : Duration.Invalid)
  | timestamp (fault : Timestamp.Invalid)
  | mapKey (kind : ScalarKind)
deriving DecidableEq, Repr

/-- The classes of causes. -/
inductive Category
  | unresolvedType
  | unknownEnumValue
  | pattern
  | constraint
  | unexpectedType
deriving DecidableEq, Repr, Inhabited

namespace Cause

def category : Cause → Category
  | unresolvedEnum _ | unresolvedMessage _ => .unresolvedType
  | unknownEnumValue .. => .unknownEnumValue
  | pattern .. => .pattern
  | rules _ | misapplied .. | duration _ | timestamp _ => .constraint
  | mapKey _ => .unexpectedType

def message : Cause → String
  | unresolvedEnum name => "unresolved enum type '" ++ name ++ "'"
  | unresolvedMessage name => "unresolved message type '" ++ name ++ "'"
  | unknownEnumValue enum number => "enum " ++ enum ++ " has no value numbered " ++ toString number
  | pattern p _ => "unsupported regular expression " ++ Text.quote p
  | rules fault => "malformed constraint: " ++ fault.message
  | misapplied name target =>
    "malformed constraint: " ++ name ++ " rules cannot be applied to " ++ target ++ " fields"
  | duration fault => "malformed constraint: " ++ fault.message
  | timestamp fault => "malformed constraint: " ++ fault.message
  | mapKey kind => "unexpected type map key " ++ kind.name

end Cause

structure Fault where
  path : List String
  cause : Cause
deriving DecidableEq, Repr

def Fault.message (f : Fault) : String := " > ".intercalate f.path ++ ": " ++ f.cause.message

end ProtoSchema.Generation
