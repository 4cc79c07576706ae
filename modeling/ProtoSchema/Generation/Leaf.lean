import ProtoSchema.Generation.Number
import ProtoSchema.Generation.Text

/-!
# Schemas of scalars and enums

The types that hold no other types.  The values of an enum are written by name.  Rules give numbers,
and a number stands for the first name that is declared with it, or for all of its names where it is
left out.
-/

namespace ProtoSchema.Generation

/-! ## Scalars -/

/-- A scalar under its rules, whether or not it is the default. -/
def strictScalarSchema (kind : ScalarKind) (c : FieldConstraints) : Draft Schema := do
  match kind, ← rulesOf c with
  | .bool, none => return .boolean {}
  | .bool, some (.bool r) => return .boolean { equals := r.equals }
  | .bytes, none | .bytes, some (.bytes _) => return bytesSchema
  | .string, none => return .string {}
  | .string, some (.string r) => stringSchema r
  | .numeric kind, none => return numericSchema kind {}
  | .numeric kind, some (.numeric given bounds) =>
    if given = kind then return numericSchema kind bounds
    else .fail (.misapplied given.name kind.name)
  | kind, some r => .fail (.misapplied r.name kind.name)

/-- The schemas of the default of a kind, one for each spelling; bytes have none. -/
def defaultSchemas : ScalarKind → List Schema
  | .bool => [.boolean { equals := some false }]
  | .string => [.ofString ""]
  | .bytes => []
  | .numeric kind =>
    inDomain kind.domain { equals := some .zero } ::
      (if kind.decimalPattern?.isSome then [.ofString "0"] else [])

/-- A scalar under its rules; where they are skipped for the default, the default is let in. -/
def scalarSchema (kind : ScalarKind) (c : FieldConstraints) : Draft Schema := do
  let s ← strictScalarSchema kind c
  if c.skipsDefault && (← rulesOf c).isSome && !(defaultSchemas kind).isEmpty then
    return .disjunction (defaultSchemas kind ++ [s])
  else return s

/-! ## Enums -/

/-- Every declared name. -/
def EnumType.schema (e : EnumType) : Schema := .ofNames (e.values.map (·.name))

/-- The first name of a number that a rule gives. -/
def ruleName (e : EnumType) (number : Int) : Draft String :=
  match e.firstName? number with
  | some name => return name
  | none => .fail (.unknownEnumValue e.fullName number)

/-- The schema of the names that the rules allow, if they leave out any. -/
def allowedNames (e : EnumType) (r : EnumRules) : Draft (Option Schema) := do
  if let some number := r.equals then return some (.ofString (← ruleName e number))
  if !r.allow.isEmpty then return some (.ofNames (← r.allow.mapM (ruleName e)))
  if r.deny.isEmpty then return none
  let names := (e.values.filter fun v => !r.deny.contains v.number).map (·.name)
  return some (if names.isEmpty then .never else .ofNames names)

/-- An enum under its rules; without any it is a reference to the definition of the enum. -/
def enumSchema (p : Pool) (name : String) (c : FieldConstraints) : Draft Schema := do
  match p.enum? name with
  | none => .fail (.unresolvedEnum name)
  | some e =>
    let rules ← rulesFor "enum" (fun | .enumeration r => some r | _ => none) c
    let allowed ← match rules with
      | some r => allowedNames e r
      | none => pure none
    match allowed, e.firstName? 0 with
    | none, _ => .reference (.enum e)
    | some s, some zero =>
      return if c.skipsDefault then .disjunction [.ofString zero, s] else s
    | some s, none => return s

end ProtoSchema.Generation
