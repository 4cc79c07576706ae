import ProtoSchema.Descriptor.Basic
import ProtoSchema.Descriptor.Name

/-!
# The pool of declarations

A pool holds every message and enum of a descriptor set under its full name, with references in full
form, JSON names settled and the members of oneofs found.  Names are unique in a pool: no two
declarations share a full name, and no two fields of a message share a JSON name.
-/

namespace ProtoSchema

/-- A field with its JSON name and its references in full form. -/
structure Field where
  name : String
  jsonName : String
  type : FieldType
  isOptional : Bool
  oneof : Option String
  constraints : FieldConstraints
deriving Repr, Inhabited

/-- A oneof; if it is required, exactly one of its members must be set. -/
structure Oneof where
  name : String
  required : Bool
  /-- Where its members stand among the fields of the message. -/
  places : List Nat
deriving DecidableEq, Repr, Inhabited

/-- Where the fields stand that name a oneof. -/
def oneofPlaces (fields : List Field) (oneof : String) : List Nat :=
  (fields.zipIdx.filter fun x => x.1.oneof = some oneof).map (·.2)

/-- A message; its oneofs hold the places of the fields that name them. -/
structure Message where
  fullName : String
  name : String
  fields : List Field
  oneofs : List Oneof
  /-- Found by evaluation where a message is written out. -/
  placed : ∀ o ∈ oneofs, o.places = oneofPlaces fields o.name := by decide
deriving Repr

/-- The fields that belong to a oneof: there is one at each of its places. -/
def Message.members (m : Message) (o : Oneof) : List Field := o.places.filterMap (m.fields[·]?)

structure EnumType where
  fullName : String
  values : List EnumValue
deriving DecidableEq, Repr, Inhabited

/-- The first name that is declared with a number. -/
def EnumType.firstName? (e : EnumType) (number : Int) : Option String :=
  (e.values.find? (·.number = number)).map (·.name)

/-- What is wrong with a descriptor set. -/
inductive PoolFault
  | unknownFile (name : String)
  | declaredTwice (fullName : String)
  | sharedJsonName (message jsonName : String)
  | undeclaredOneof (message field oneof : String)
deriving DecidableEq, Repr

def PoolFault.message : PoolFault → String
  | unknownFile name => "file to generate '" ++ name ++ "' is not in the descriptor set"
  | declaredTwice fullName => "'" ++ fullName ++ "' is declared more than once"
  | sharedJsonName message jsonName =>
    message ++ ": JSON name '" ++ jsonName ++ "' is used by more than one field"
  | undeclaredOneof message field oneof =>
    message ++ "." ++ field ++ ": oneof '" ++ oneof ++ "' is not declared"

def ElementType.inFull : ElementType → ElementType
  | scalar kind => scalar kind
  | enum name => enum (TypeName.inFull name)
  | message name => message (TypeName.inFull name)

def FieldType.inFull : FieldType → FieldType
  | scalar kind => scalar kind
  | enum name => enum (TypeName.inFull name)
  | message name => message (TypeName.inFull name)
  | map key value => map key value.inFull
  | repeated item => repeated item.inFull

def Field.ofDescriptor (d : FieldDescriptor) : Field where
  name := d.name
  jsonName := d.jsonName.getD (ProtoSchema.jsonName d.name)
  type := d.type.inFull
  isOptional := d.isOptional
  oneof := d.oneof
  constraints := d.constraints.getD {}

def Oneof.ofDescriptor (fields : List Field) (d : OneofDescriptor) : Oneof where
  name := d.name
  required := d.constraints.any (·.required)
  places := oneofPlaces fields d.name

namespace Message

/-- Checks fields in order: a JSON name that is not among those `taken`, and a oneof that is
declared. -/
def checkFields (fullName : String) (oneofs : List Oneof) :
    (taken : List String) → List Field → Except PoolFault Unit
  | _, [] => .ok ()
  | taken, f :: rest => do
    if taken.contains f.jsonName then throw (.sharedJsonName fullName f.jsonName)
    if let some oneof := f.oneof then
      if !(oneofs.any (·.name = oneof)) then throw (.undeclaredOneof fullName f.name oneof)
    checkFields fullName oneofs (f.jsonName :: taken) rest

/-- The message of a descriptor, before its fields are checked. -/
def settled (fullName : String) (d : MessageDescriptor) : Message where
  fullName
  name := d.name
  fields := d.fields.map Field.ofDescriptor
  oneofs := d.oneofs.map (Oneof.ofDescriptor (d.fields.map Field.ofDescriptor))
  placed := List.forall_mem_map.2 fun _ _ => rfl

def ofDescriptor (fullName : String) (d : MessageDescriptor) : Except PoolFault Message := do
  let m := settled fullName d
  checkFields fullName m.oneofs [] m.fields
  return m

end Message

/-! ## Declarations -/

/-- A message or an enum with its full name; a target gets a schema document. -/
inductive Declaration
  | message (fullName : String) (target : Bool) (d : MessageDescriptor)
  | enum (fullName : String) (d : EnumDescriptor)

def Declaration.fullName : Declaration → String
  | message fullName .. => fullName
  | enum fullName _ => fullName

def enumDeclarations (scope : String) (enums : List EnumDescriptor) : List Declaration :=
  enums.map fun d => .enum (scope ++ "." ++ d.name) d

/-- A message and what is declared inside it, enums before messages. -/
def messageDeclarations (target : Bool) (scope : String) : MessageDescriptor → List Declaration
  | ⟨name, fields, oneofs, messages, enums⟩ =>
    let fullName := scope ++ "." ++ name
    .message fullName target ⟨name, fields, oneofs, messages, enums⟩ ::
      (enumDeclarations fullName enums ++
        messages.flatMap (messageDeclarations target fullName))

/-- The scope of the declarations of a file. -/
def FileDescriptor.scope (f : FileDescriptor) : String :=
  if f.package = "" then "" else "." ++ f.package

namespace DescriptorSet

/-- Whether the messages of a file get schema documents. -/
def isTarget (s : DescriptorSet) (f : FileDescriptor) : Bool :=
  s.filesToGenerate.isEmpty || s.filesToGenerate.contains f.name

/-- Every declaration of a set. -/
def declarations (s : DescriptorSet) : List Declaration :=
  s.files.flatMap fun f =>
    enumDeclarations f.scope f.enums ++
      f.messages.flatMap (messageDeclarations (s.isTarget f) f.scope)

end DescriptorSet

/-! ## The pool -/

/-- Messages and enums in the order of their declarations, and the full names of the targets. -/
structure Pool where
  messages : List Message
  enums : List EnumType
  targetNames : List String
deriving Repr, Inhabited

namespace Pool

def empty : Pool := ⟨[], [], []⟩

/-- The message of a name, in which the first dot may be missing. -/
def message? (p : Pool) (name : String) : Option Message :=
  p.messages.find? (·.fullName = TypeName.inFull name)

/-- The enum of a name, in which the first dot may be missing. -/
def enum? (p : Pool) (name : String) : Option EnumType :=
  p.enums.find? (·.fullName = TypeName.inFull name)

def declares (p : Pool) (fullName : String) : Bool :=
  p.messages.any (·.fullName = fullName) || p.enums.any (·.fullName = fullName)

/-- The messages that get schema documents. -/
def targets (p : Pool) : List Message :=
  p.targetNames.filterMap fun name => p.messages.find? (·.fullName = name)

def add (p : Pool) (d : Declaration) : Except PoolFault Pool := do
  if p.declares d.fullName then throw (.declaredTwice d.fullName)
  match d with
  | .enum fullName d => return { p with enums := p.enums ++ [⟨fullName, d.values⟩] }
  | .message fullName target d =>
    let m ← Message.ofDescriptor fullName d
    return { p with
      messages := p.messages ++ [m]
      targetNames := if target then p.targetNames ++ [fullName] else p.targetNames }

def ofSet (s : DescriptorSet) : Except PoolFault Pool :=
  match s.filesToGenerate.find? fun name => !(s.files.any (·.name = name)) with
  | some name => .error (.unknownFile name)
  | none => s.declarations.foldlM add empty

end Pool

end ProtoSchema
