import ProtoSchema.Descriptor.Pool
import ProtoSchema.Descriptor.WellKnownType
import ProtoSchema.Generation.Fault
import ProtoSchema.Schema.Basic

/-!
# Drafts

A schema is drafted for one type at a time.  A draft refers to other types by their definitions and
records these uses in the order in which they come up, so that a document can supply the definitions
later.  Where drafting fails, the uses are those that came up before.
-/

namespace ProtoSchema.Generation

/-- The well-known types whose schemas are shared within a document. -/
inductive SharedType
  | any
  | empty
  | listValue
  | struct
  | value
deriving DecidableEq, Repr, Inhabited

namespace SharedType

def wellKnown : SharedType → WellKnownType
  | any => .any
  | empty => .empty
  | listValue => .listValue
  | struct => .struct
  | value => .value

def all : List SharedType := [any, empty, listValue, struct, value]

end SharedType

/-- A type that a document can define. -/
inductive Target
  | message (m : Message)
  | enum (e : EnumType)
  | shared (t : SharedType)
deriving Repr, Inhabited

def Target.fullName : Target → String
  | message m => m.fullName
  | enum e => e.fullName
  | shared t => t.wellKnown.fullName

/-- The key of a type among the definitions of a document. -/
def Target.key (t : Target) : String := TypeName.key t.fullName

/-- A reference to a type, and the path to where it is made. -/
structure Use where
  target : Target
  path : List String
deriving Repr, Inhabited

structure Draft (α : Type) where
  uses : List Use
  result : Except Fault α

namespace Draft

def done (x : α) : Draft α := ⟨[], .ok x⟩

def andThen (d : Draft α) (f : α → Draft β) : Draft β :=
  match d.result with
  | .ok x => ⟨d.uses ++ (f x).uses, (f x).result⟩
  | .error fault => ⟨d.uses, .error fault⟩

instance : Monad Draft where
  pure := done
  bind := andThen

def fail (cause : Cause) : Draft α := ⟨[], .error ⟨[], cause⟩⟩

/-- Takes over a result, or fails for its cause. -/
def ofExcept (r : Except ε α) (cause : ε → Cause) : Draft α :=
  match r with
  | .ok x => done x
  | .error e => fail (cause e)

/-- Puts a draft inside a part with a name. -/
def inside (segment : String) (d : Draft α) : Draft α where
  uses := d.uses.map fun u => { u with path := segment :: u.path }
  result := d.result.mapError fun f => { f with path := segment :: f.path }

/-- A reference to the definition of a type. -/
def reference (t : Target) : Draft Schema := ⟨[⟨t, []⟩], .ok (.ref (.definition t.key))⟩

end Draft

/-! ## Rules -/

/-- The rules of a field. -/
def rulesOf (c : FieldConstraints) : Draft (Option Rules) := .ofExcept c.rules .rules

/-- Rules that `select` takes, for a type that messages call `target`; other rules fail. -/
def rulesFor (target : String) (select : Rules → Option α) (c : FieldConstraints) :
    Draft (Option α) := do
  match ← rulesOf c with
  | none => return none
  | some r =>
    match select r with
    | some x => return some x
    | none => .fail (.misapplied r.name target)

/-- Fails if there are rules. -/
def noRules (target : String) (c : FieldConstraints) : Draft Unit := do
  if let some r := (← rulesOf c) then .fail (.misapplied r.name target)

end ProtoSchema.Generation
