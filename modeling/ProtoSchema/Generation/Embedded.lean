import ProtoSchema.Generation.Leaf

/-!
# Schemas of embedded messages

A message that is used as a type.  A wrapper has the schema of the scalar that it wraps; durations
and timestamps are strings; the other well-known types have schemas that a document shares.  Any
other message is a reference to its definition.
-/

namespace ProtoSchema.Generation

/-! ## Durations and timestamps -/

/-- Seconds, perhaps with a sign and a fraction. -/
def durationPattern : String := "^-?(0|[1-9]\\d*)(\\.\\d+)?s$"

def durationText (d : Duration) : Draft String := .ofExcept d.text .duration

/-- The schema of durations whose texts are fixed, listed or left out. -/
def durationTexts (equals : Option String) (allow deny : List String) : Schema :=
  let keywords : StringKeywords :=
    { title := some "Duration"
      description := some ("A signed, fixed-length span of time represented as a count of " ++
        "seconds and fractions of seconds at nanosecond resolution.")
      pattern := some durationPattern
      equals
      enumeration := allow }
  .conjunction (.string keywords :: if deny.isEmpty then [] else [.not (.ofNames deny)])

def durationSchema (rules : Option DurationRules) : Draft Schema := do
  let r := rules.getD {}
  let equals ← r.equals.mapM durationText
  let allow ← r.allow.mapM durationText
  let deny ← r.deny.mapM durationText
  return durationTexts equals allow deny

/-- The schema of timestamps, or of one of them. -/
def timestampTexts (equals : Option String) : Schema :=
  .string
    { title := some "Timestamp"
      description := some "A point in time, independent of any time zone or calendar."
      format := some .dateTime
      equals }

def timestampSchema (rules : Option TimestampRules) : Draft Schema := do
  return timestampTexts (← (rules.bind (·.equals)).mapM fun t => .ofExcept t.text .timestamp)

/-! ## Shared types -/

/-- The member that names the type of a dynamically typed message. -/
def typeMember : String := "@type"

/-- Objects whose type, if they name one, is in a list. -/
def typeAmong (types : List String) : Schema :=
  .object { properties := [(typeMember, .ofNames types)] }

def SharedType.schema : SharedType → Draft Schema
  | any => .done (.object
      { title := some "Any"
        description := some ("An arbitrary serialized message, along with a URL that describes " ++
          "the type of the serialized message.")
        properties := [(typeMember, .string
          { title := some "Type URL"
            description := some ("A URL/resource name whose content describes the type of the " ++
              "serialized message.")
            format := some .uriReference })]
        additionalProperties := some .always })
  | empty => .done (.object
      { title := some "Empty"
        description := some "A generic empty message."
        additionalProperties := some .never })
  | listValue => do
    let values ← Draft.reference (.shared .value)
    return .array
      { title := some "ListValue"
        description := some "A repeated field of dynamically-typed values."
        items := some values }
  | struct => do
    let values ← Draft.reference (.shared .value)
    return .object
      { title := some "Struct"
        description := some ("A structured data value, consisting of fields which map to " ++
          "dynamically-typed values.")
        additionalProperties := some values }
  | value => .done (.generic
      { title := some "Value", description := some "A dynamically-typed value." })

/-- A reference to the schema of dynamically typed messages, narrowed to types by the rules. -/
def anySchema (rules : Option AnyRules) : Draft Schema := do
  let r := rules.getD {}
  let shared ← Draft.reference (.shared .any)
  return .conjunction (shared ::
    ((if r.allow.isEmpty then [] else [typeAmong r.allow]) ++
      (if r.deny.isEmpty then [] else [.not (typeAmong r.deny)])))

/-- A reference to a shared schema that takes no rules. -/
def sharedSchema (t : SharedType) (c : FieldConstraints) : Draft Schema := do
  noRules t.wellKnown.key c
  .reference (.shared t)

def wellKnownSchema (t : WellKnownType) (c : FieldConstraints) : Draft Schema := do
  match t with
  | .any => anySchema (← rulesFor t.key (fun | .any r => some r | _ => none) c)
  | .duration => durationSchema (← rulesFor t.key (fun | .duration r => some r | _ => none) c)
  | .timestamp => timestampSchema (← rulesFor t.key (fun | .timestamp r => some r | _ => none) c)
  | .empty => sharedSchema .empty c
  | .listValue => sharedSchema .listValue c
  | .struct => sharedSchema .struct c
  | .value => sharedSchema .value c
  | .boolValue => strictScalarSchema .bool c
  | .bytesValue => strictScalarSchema .bytes c
  | .stringValue => strictScalarSchema .string c
  | .doubleValue => strictScalarSchema (.numeric .double) c
  | .floatValue => strictScalarSchema (.numeric .float) c
  | .int32Value => strictScalarSchema (.numeric .int32) c
  | .int64Value => strictScalarSchema (.numeric .int64) c
  | .uint32Value => strictScalarSchema (.numeric .uint32) c
  | .uint64Value => strictScalarSchema (.numeric .uint64) c

/-! ## All messages -/

/-- An embedded message: the schema of a well-known type, or a reference to the definition of the
message. -/
def embeddedSchema (p : Pool) (name : String) (c : FieldConstraints) : Draft Schema := do
  match WellKnownType.ofName? name with
  | some t => wellKnownSchema t c
  | none =>
    match p.message? name with
    | none => .fail (.unresolvedMessage name)
    | some m =>
      noRules "message" c
      .reference (.message m)

end ProtoSchema.Generation
