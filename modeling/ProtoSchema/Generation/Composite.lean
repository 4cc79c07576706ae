import ProtoSchema.Generation.Embedded

/-!
# Schemas of lists, maps and messages

The types that hold other types.  A message is an object with one property for each field and no
others.  A oneof that is required adds a choice among its members.
-/

namespace ProtoSchema.Generation

/-! ## Lists and maps -/

/-- An item of a list or a value of a map. -/
def elementSchema (p : Pool) (t : ElementType) (c : FieldConstraints) : Draft Schema :=
  match t with
  | .scalar kind => scalarSchema kind c
  | .enum name => enumSchema p name c
  | .message name => embeddedSchema p name c

/-- The constraints that apply to a part of a field. -/
def partConstraints (c : Option FieldConstraints) : FieldConstraints :=
  (c.map (·.inForce)).getD {}

/-- A list: one schema for every item. -/
def repeatedSchema (p : Pool) (item : ElementType) (c : FieldConstraints) : Draft Schema := do
  let rules ← rulesFor "repeated" (fun | .repeated r => some r | _ => none) c
  let r := rules.getD {}
  let items ← (elementSchema p item (partConstraints r.items)).inside "items"
  return .array
    { items := some items, minItems := r.minItems, maxItems := r.maxItems
      uniqueItems := r.unique }

/-- The schema of the keys of a map.  Keys are strings in JSON whatever their kind, so rules on
other kinds are checked and left out. -/
def keySchema (key : ScalarKind) (c : Option FieldConstraints) : Draft (Option Schema) :=
  match c with
  | none => return none
  | some c => do
    let s ← (scalarSchema key c.inForce).inside "keys"
    return if key = .string ∧ c.inForce.string.isSome then some s else none

/-- A map: an object with one schema for the values of all keys. -/
def mapSchema (p : Pool) (key : ScalarKind) (value : ElementType) (c : FieldConstraints) :
    Draft Schema := do
  if !key.isMapKey then .fail (.mapKey key)
  let rules ← rulesFor "map" (fun | .map r => some r | _ => none) c
  let r := rules.getD {}
  let values ← (elementSchema p value (partConstraints r.values)).inside "values"
  let names ← keySchema key r.keys
  return .object
    { additionalProperties := some values, propertyNames := names
      minProperties := r.minPairs, maxProperties := r.maxPairs }

/-! ## Messages -/

/-- A field under the constraints that apply. -/
def fieldSchema (p : Pool) (f : Field) : Draft Schema :=
  let c := f.constraints.inForce
  match f.type with
  | .scalar kind => scalarSchema kind c
  | .enum name => enumSchema p name c
  | .message name => embeddedSchema p name c
  | .map key value => mapSchema p key value c
  | .repeated item => repeatedSchema p item c

/-- Whether the property of a field must be present.  A field that is explicitly optional or
belongs to a oneof need not be. -/
def isRequired (f : Field) : Bool :=
  f.constraints.isRequired && !f.isOptional && f.oneof.isNone

/-- The presence of one member of a oneof. -/
def presence (f : Field) : Schema :=
  .object { properties := [(f.jsonName, .always)], required := [f.jsonName] }

/-- The choices that the required oneofs of a message demand. -/
def oneofChoices (m : Message) : List Schema :=
  (m.oneofs.filter (·.required)).map fun o => .choice ((m.members o).map presence)

/-- The property of a field. -/
def property (p : Pool) (f : Field) : Draft (String × Schema) := do
  return (f.jsonName, ← (fieldSchema p f).inside f.name)

/-- The object of a message. -/
def messageSchema (p : Pool) (m : Message) : Draft Schema := do
  let properties ← m.fields.mapM (property p)
  let object : ObjectKeywords Schema :=
    { properties
      required := (m.fields.filter isRequired).map (·.jsonName)
      additionalProperties := some .never }
  return .conjunction (.object object :: oneofChoices m)

/-- The draft of a type. -/
def Target.draft (p : Pool) : Target → Draft Schema
  | message m => (messageSchema p m).inside (TypeName.key m.fullName)
  | enum e => return EnumType.schema e
  | shared t => t.schema

end ProtoSchema.Generation
