import ProtoSchema.Generation.Document
import ProtoSchema.Proofs.Constraint.Rules
import ProtoSchema.Proofs.Generation.Draft

/-!
# Which types a type uses

The links of a type are read off its declaration: the types of its fields, items and values that a
document defines.  A draft that succeeds uses exactly these types, in the order of the fields.
-/

namespace ProtoSchema

/-- Whether rules on an enum pick out some of its values. -/
def EnumRules.picks (r : EnumRules) : Bool :=
  r.equals.isSome || !r.allow.isEmpty || !r.deny.isEmpty

namespace Generation

open Draft

/-! ## 1. Links -/

/-- The shared type that a well-known type is, if it is one. -/
def SharedType.ofWellKnown? : WellKnownType → Option SharedType
  | .any => some .any
  | .empty => some .empty
  | .listValue => some .listValue
  | .struct => some .struct
  | .value => some .value
  | _ => none

/-- The types that a use of a message leads to: the name of a well-known type always stands for that
type, whatever the pool declares. -/
def messageLinks (p : Pool) (name : String) : List Target :=
  match WellKnownType.ofName? name with
  | some t => (SharedType.ofWellKnown? t).toList.map .shared
  | none => (p.message? name).toList.map .message

/-- The types that a use of an enum leads to; a use whose rules pick out values names them on the
spot. -/
def enumLinks (p : Pool) (name : String) (c : FieldConstraints) : List Target :=
  if c.enumeration.any (·.picks) then [] else (p.enum? name).toList.map .enum

def elementLinks (p : Pool) (t : ElementType) (c : FieldConstraints) : List Target :=
  match t with
  | .scalar _ => []
  | .enum name => enumLinks p name c
  | .message name => messageLinks p name

def typeLinks (p : Pool) (t : FieldType) (c : FieldConstraints) : List Target :=
  match t with
  | .scalar _ => []
  | .enum name => enumLinks p name c
  | .message name => messageLinks p name
  | .map _ value => elementLinks p value (partConstraints (c.map.bind (·.values)))
  | .repeated item => elementLinks p item (partConstraints (c.repeated.bind (·.items)))

/-- The types that a field uses under the constraints that apply. -/
def fieldLinks (p : Pool) (f : Field) : List Target :=
  typeLinks p f.type f.constraints.inForce

/-- The types that a type uses, in the order in which its fields are declared. -/
def Target.links (p : Pool) : Target → List Target
  | message m => m.fields.flatMap (fieldLinks p)
  | enum _ => []
  | shared .struct | shared .listValue => [.shared .value]
  | shared _ => []

/-! ## 2. Rules use no types -/

theorem yields_rulesOf {c : FieldConstraints} {o : Option Rules} {ts : List Target} :
    Yields (rulesOf c) o ts ↔ c.rules = .ok o ∧ ts = [] := yields_ofExcept

/-- Where only rules of one sort are taken, the rules of the field are of that sort. -/
theorem Yields.rulesFor {target : String} {select : Rules → Option α} (wrap : α → Rules)
    (hselect : ∀ {r x}, select r = some x → r = wrap x) {c : FieldConstraints} {o : Option α}
    {ts : List Target} (h : Yields (rulesFor target select c) o ts) :
    ts = [] ∧ c.rules = .ok (o.map wrap) := by
  obtain ⟨r, us, vs, hd, hk, rfl⟩ := yields_bind.1 h
  obtain ⟨hr, rfl⟩ := yields_rulesOf.1 hd
  cases r with
  | none =>
    obtain ⟨rfl, rfl⟩ := yields_pure.1 hk
    exact ⟨rfl, hr⟩
  | some r =>
    dsimp only at hk
    split at hk
    next x hs =>
      obtain ⟨rfl, rfl⟩ := yields_pure.1 hk
      rw [hselect hs] at hr
      exact ⟨rfl, hr⟩
    next => exact absurd hk yields_fail

theorem Yields.noRules {target : String} {c : FieldConstraints} {ts : List Target} {u : Unit}
    (h : Yields (noRules target c) u ts) : ts = [] ∧ c.rules = .ok none := by
  obtain ⟨r, us, vs, hr, h, rfl⟩ := yields_bind.1 h
  obtain ⟨hrules, rfl⟩ := yields_rulesOf.1 hr
  cases r with
  | none =>
    obtain ⟨-, rfl⟩ := yields_pure.1 h
    exact ⟨rfl, hrules⟩
  | some r => exact absurd h yields_fail

end Generation

end ProtoSchema
