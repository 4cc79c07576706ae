import ProtoSchema.Json.Number

/-!
# Numeric rules

The rules of a numeric kind are given in its own numbers and read as bounds in JSON numbers.  Lower
and upper bounds come in two forms each, of which at most one may be given, and a bound has to be
finite.
-/

namespace ProtoSchema

/-- Rules on the numbers of one kind. -/
structure NumericRules (α : Type) where
  equals : Option α := none
  gt : Option α := none
  gte : Option α := none
  lt : Option α := none
  lte : Option α := none
  allow : List α := []
  deny : List α := []
deriving DecidableEq, Repr, Inhabited

/-- Rules on JSON numbers. -/
abbrev NumberRules := NumericRules Number

/-- Why rules are no bounds. -/
inductive BoundsFault
  | exclusive (a b : String)
  | notFinite (key : String)
  | holdsNotFinite (key : String)
deriving DecidableEq, Repr

def BoundsFault.message : BoundsFault → String
  | exclusive a b => "`" ++ a ++ "` and `" ++ b ++ "` are mutually exclusive"
  | notFinite key => "`" ++ key ++ "` is not a finite number"
  | holdsNotFinite key => "`" ++ key ++ "` holds a non-finite number"

namespace Number

/-- The JSON number of a double, if it is finite. -/
def ofBinary64? : BinaryFloat → Option Number
  | .infinite _ | .nan => none
  | x => some (.float x)

/-- The JSON number of a number of single precision: the double nearest to its shortest decimal, so
that it is spelled with the digits its author wrote. -/
def ofBinary32? : BinaryFloat → Option Number
  | .infinite _ | .nan => none
  | .finite negative m e =>
    some (.float (.ofDecimal binary64 negative (BinaryFloat.shortest binary32 .up m e)))

end Number

namespace NumericRules

/-- The JSON number of one bound. -/
def bound (toNumber? : α → Option Number) (key : String) :
    Option α → Except BoundsFault (Option Number)
  | none => .ok none
  | some x =>
    match toNumber? x with
    | some n => .ok (some n)
    | none => .error (.notFinite key)

/-- The JSON numbers of a list. -/
def members (toNumber? : α → Option Number) (key : String) (xs : List α) :
    Except BoundsFault (List Number) :=
  xs.mapM fun x =>
    match toNumber? x with
    | some n => .ok n
    | none => .error (.holdsNotFinite key)

/-- The rules in JSON numbers. -/
def bounds (toNumber? : α → Option Number) (r : NumericRules α) :
    Except BoundsFault NumberRules := do
  if r.gt.isSome && r.gte.isSome then throw (.exclusive "gt" "gte")
  if r.lt.isSome && r.lte.isSome then throw (.exclusive "lt" "lte")
  let equals ← bound toNumber? "const" r.equals
  let gt ← bound toNumber? "gt" r.gt
  let gte ← bound toNumber? "gte" r.gte
  let lt ← bound toNumber? "lt" r.lt
  let lte ← bound toNumber? "lte" r.lte
  let allow ← members toNumber? "in" r.allow
  let deny ← members toNumber? "not_in" r.deny
  return { equals, gt, gte, lt, lte, allow, deny }

end NumericRules

end ProtoSchema
