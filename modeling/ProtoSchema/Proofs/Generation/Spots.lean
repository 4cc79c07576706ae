import ProtoSchema.Proofs.Generation.WellFormed

/-!
# Fields and their parts

A field and each of its parts has a type and constraints.  What it means that these are at fault is
said for each cause of a fault, without a draft; such a type is not well-formed.
-/

namespace ProtoSchema.Generation

/-! ## 1. Parts of a field -/

/-- A part of a field that has a type of its own. -/
inductive FieldPart
  | items
  | values
  | keys
deriving DecidableEq

def FieldPart.segment : FieldPart → String
  | items => "items"
  | values => "values"
  | keys => "keys"

/-- A type and the constraints that apply to it. -/
structure Spot where
  type : FieldType
  constraints : FieldConstraints

/-- An element has the type of a field that holds nothing else. -/
def elementType : ElementType → FieldType
  | .scalar kind => .scalar kind
  | .enum name => .enum name
  | .message name => .message name

/-- The field as a whole or a part of it: a list has items, and a map has values and keys. -/
def spot? (f : Field) : Option FieldPart → Option Spot
  | none => some ⟨f.type, f.constraints.inForce⟩
  | some part =>
    let c := f.constraints.inForce
    match part, f.type with
    | .items, .repeated item =>
      some ⟨elementType item, partConstraints (c.repeated.bind (·.items))⟩
    | .values, .map _ value => some ⟨elementType value, partConstraints (c.map.bind (·.values))⟩
    | .keys, .map key _ => some ⟨.scalar key, partConstraints (c.map.bind (·.keys))⟩
    | _, _ => none

section Spots

variable {f : Field} {item value : ElementType} {key : ScalarKind}

theorem spot?_items (h : f.type = .repeated item) : spot? f (some .items) =
    some ⟨elementType item, partConstraints (f.constraints.inForce.repeated.bind (·.items))⟩ := by
  unfold spot?
  rw [h]

theorem spot?_values (h : f.type = .map key value) : spot? f (some .values) =
    some ⟨elementType value, partConstraints (f.constraints.inForce.map.bind (·.values))⟩ := by
  unfold spot?
  rw [h]

theorem spot?_keys (h : f.type = .map key value) : spot? f (some .keys) =
    some ⟨.scalar key, partConstraints (f.constraints.inForce.map.bind (·.keys))⟩ := by
  unfold spot?
  rw [h]

end Spots

/-- The type is a message that the pool declares, and none of the well-known ones. -/
def Embeds (p : Pool) (t : FieldType) (m : Message) : Prop :=
  ∃ name, t = .message name ∧ WellKnownType.ofName? name = none ∧ p.message? name = some m

/-! ## 2. Faults of a spot -/

/-- The key of the rules that a well-known type takes, if it takes any. -/
def wellKnownRulesKey? : WellKnownType → Option String
  | .any => some "any"
  | .duration => some "duration"
  | .timestamp => some "timestamp"
  | t => (wrapped? t).map (·.name)

/-- The key of the rules that a type takes, if it takes any. -/
def rulesKey? : FieldType → Option String
  | .scalar kind => some kind.name
  | .enum _ => some "enum"
  | .map _ _ => some "map"
  | .repeated _ => some "repeated"
  | .message name => (WellKnownType.ofName? name).bind wellKnownRulesKey?

/-- What faults call a type. -/
def title : FieldType → String
  | .scalar kind => kind.name
  | .enum _ => "enum"
  | .map _ _ => "map"
  | .repeated _ => "repeated"
  | .message name =>
    match WellKnownType.ofName? name with
    | some t => ((wrapped? t).map (·.name)).getD t.key
    | none => "message"

/-- The constraints give these rules, which are the ones that the type takes. -/
structure Spot.RuledBy (s : Spot) (r : Rules) : Prop where
  told : s.constraints.rules = .ok (some r)
  own : rulesKey? s.type = some r.name

/-- The numbers that rules on an enum ask names for. -/
def asked (r : EnumRules) : List Int :=
  match r.equals with
  | some number => [number]
  | none => r.allow

/-- The type or the constraints are at fault, in the way that the cause tells. -/
inductive AtFault (p : Pool) : Spot → Cause → Prop
  | unresolvedEnum {name : String} {c : FieldConstraints} (h : p.enum? name = none) :
      AtFault p ⟨.enum name, c⟩ (.unresolvedEnum name)
  | unresolvedMessage {name : String} {c : FieldConstraints}
      (hdeclared : WellKnownType.ofName? name = none) (h : p.message? name = none) :
      AtFault p ⟨.message name, c⟩ (.unresolvedMessage name)
  | mapKey {key : ScalarKind} {value : ElementType} {c : FieldConstraints}
      (h : key.isMapKey = false) : AtFault p ⟨.map key value, c⟩ (.mapKey key)
  | rules {s : Spot} {fault : RulesFault} (h : s.constraints.rules = .error fault) :
      AtFault p s (.rules fault)
  | misapplied {s : Spot} {r : ProtoSchema.Rules} (htold : s.constraints.rules = .ok (some r))
      (hother : rulesKey? s.type ≠ some r.name) : AtFault p s (.misapplied r.name (title s.type))
  | unknownEnumValue {name : String} {c : FieldConstraints} {e : EnumType} {r : EnumRules}
      {number : Int} (he : p.enum? name = some e)
      (hr : Spot.RuledBy ⟨.enum name, c⟩ (.enumeration r)) (hasked : number ∈ asked r)
      (h : ¬ e.HasNumber number) :
      AtFault p ⟨.enum name, c⟩ (.unknownEnumValue e.fullName number)
  | pattern {s : Spot} {r : StringRules} {text : String} {fault : Pattern.ConversionFault}
      (hr : s.RuledBy (.string r)) (hpattern : r.pattern = some text)
      (h : Pattern.convert text = .error fault) : AtFault p s (.pattern text fault)
  | duration {s : Spot} {r : DurationRules} {d : Duration} {fault : Duration.Invalid}
      (hr : s.RuledBy (.duration r)) (hd : d ∈ r.equals.toList ++ r.allow ++ r.deny)
      (h : d.text = .error fault) : AtFault p s (.duration fault)
  | timestamp {s : Spot} {r : TimestampRules} {t : Timestamp} {fault : Timestamp.Invalid}
      (hr : s.RuledBy (.timestamp r)) (ht : r.equals = some t) (h : t.text = .error fault) :
      AtFault p s (.timestamp fault)

variable {p : Pool}

/-! ## 3. Faults and well-formed types -/

/-- The type takes the rules, which say nothing that cannot be followed. -/
def TypeTakes (p : Pool) (t : FieldType) (r : Rules) : Prop :=
  match t with
  | .scalar kind => kind.Takes r
  | .enum name => ∃ e, p.enum? name = some e ∧ e.Takes r
  | .message name => ∃ w, WellKnownType.ofName? name = some w ∧ WellKnownTakes w r
  | .map _ _ => ∃ x, r = .map x
  | .repeated _ => ∃ x, r = .repeated x

/-- The rules of a well-formed type are told, and the type takes them. -/
theorem TypeWellFormed.ruled {t : FieldType} {c : FieldConstraints} (h : TypeWellFormed p t c) :
    c.Ruled (TypeTakes p t) := by
  cases t with
  | scalar kind => exact h
  | enum name =>
    obtain ⟨e, he, o, ho, htakes⟩ := h
    exact ⟨o, ho, fun r hr => ⟨e, he, htakes r hr⟩⟩
  | message name =>
    change EmbeddedWellFormed p name c at h
    unfold EmbeddedWellFormed at h
    cases hname : WellKnownType.ofName? name with
    | some w =>
      rw [hname] at h
      obtain ⟨o, ho, htakes⟩ := h
      exact ⟨o, ho, fun r hr => ⟨w, hname, htakes r hr⟩⟩
    | none =>
      rw [hname] at h
      obtain ⟨-, o, ho, htakes⟩ := h
      exact ⟨o, ho, fun r hr => (htakes r hr).elim⟩
  | map key value =>
    obtain ⟨-, o, ho, -⟩ := h
    refine ⟨_, ho, fun r hr => ?_⟩
    obtain ⟨x, -, rfl⟩ := Option.map_eq_some_iff.1 hr
    exact ⟨x, rfl⟩
  | repeated item =>
    obtain ⟨o, ho, -⟩ := h
    refine ⟨_, ho, fun r hr => ?_⟩
    obtain ⟨x, -, rfl⟩ := Option.map_eq_some_iff.1 hr
    exact ⟨x, rfl⟩

/-- Rules that a scalar takes bear its name. -/
theorem takes_name {kind : ScalarKind} {r : Rules} (h : kind.Takes r) : r.name = kind.name := by
  cases kind <;> cases r <;> first | exact h.elim | rfl | exact congrArg NumericKind.name h

theorem wellKnownTakes_key {w : WellKnownType} {r : Rules} (h : WellKnownTakes w r) :
    wellKnownRulesKey? w = some r.name := by
  unfold WellKnownTakes at h
  split at h
  · rfl
  · rfl
  · rfl
  · obtain ⟨kind, hkind, hr⟩ := h
    cases w <;> cases hkind <;> exact congrArg some (takes_name hr).symm

/-- Rules that a type takes bear its key. -/
theorem TypeTakes.key {t : FieldType} {r : Rules} (h : TypeTakes p t r) :
    rulesKey? t = some r.name := by
  cases t with
  | scalar kind => exact congrArg some (takes_name h).symm
  | enum name =>
    obtain ⟨e, -, h⟩ := h
    cases r with
    | enumeration x => rfl
    | _ => exact h.elim
  | message name =>
    obtain ⟨w, hw, h⟩ := h
    exact Option.bind_eq_some_iff.2 ⟨w, hw, wellKnownTakes_key h⟩
  | map key value =>
    obtain ⟨x, rfl⟩ := h
    rfl
  | repeated item =>
    obtain ⟨x, rfl⟩ := h
    rfl

/-- Patterns in the rules have counterparts, and durations and timestamps are in range. -/
def Meaningful : Rules → Prop
  | .string r => ∀ x ∈ r.pattern, ∃ e, Pattern.convert x = .ok e
  | .duration r => ∀ d ∈ r.equals.toList ++ r.allow ++ r.deny, d.InRange
  | .timestamp r => ∀ t ∈ r.equals, t.InRange
  | _ => True

theorem takes_meaningful {kind : ScalarKind} {r : Rules} (h : kind.Takes r) : Meaningful r := by
  cases kind <;> cases r <;> first | exact h.elim | exact trivial | exact h

theorem wellKnownTakes_meaningful {w : WellKnownType} {r : Rules} (h : WellKnownTakes w r) :
    Meaningful r := by
  unfold WellKnownTakes at h
  split at h
  · exact trivial
  · exact h
  · exact h
  · obtain ⟨kind, -, htakes⟩ := h
    exact takes_meaningful htakes

theorem TypeTakes.meaningful {t : FieldType} {r : Rules} (h : TypeTakes p t r) :
    Meaningful r := by
  cases t with
  | scalar kind => exact takes_meaningful h
  | enum name =>
    obtain ⟨e, -, h⟩ := h
    cases r with
    | enumeration x => exact trivial
    | _ => exact h.elim
  | message name =>
    obtain ⟨w, -, h⟩ := h
    exact wellKnownTakes_meaningful h
  | map key value =>
    obtain ⟨x, rfl⟩ := h
    exact trivial
  | repeated item =>
    obtain ⟨x, rfl⟩ := h
    exact trivial

/-- A spot that is at fault is not well-formed. -/
theorem AtFault.not_wellFormed {s : Spot} {cause : Cause} (h : AtFault p s cause) :
    ¬ TypeWellFormed p s.type s.constraints := by
  intro hwell
  obtain ⟨o, ho, htakes⟩ := hwell.ruled
  -- The rules that are told are taken, so none of those that a fault is about are.
  have htaken : ∀ r, s.constraints.rules = .ok (some r) → TypeTakes p s.type r := by
    intro r hr
    cases hr.symm.trans ho
    exact htakes r rfl
  cases h with
  | unresolvedEnum h =>
    obtain ⟨e, he, -⟩ := hwell
    cases h.symm.trans he
  | @unresolvedMessage name c hdeclared h =>
    change EmbeddedWellFormed p name c at hwell
    unfold EmbeddedWellFormed at hwell
    rw [hdeclared] at hwell
    obtain ⟨⟨m, hm⟩, -⟩ := hwell
    cases h.symm.trans hm
  | mapKey h =>
    obtain ⟨hkey, -⟩ := hwell
    cases h.symm.trans hkey
  | rules h => cases h.symm.trans ho
  | misapplied htold hother => exact hother (htaken _ htold).key
  | unknownEnumValue he hr hasked h =>
    obtain ⟨e', he', hnamed⟩ := htaken _ hr.told
    obtain rfl := Option.some.inj (he.symm.trans he')
    refine h ?_
    change EnumRules.NamedIn _ _ at hnamed
    unfold EnumRules.NamedIn at hnamed
    unfold asked at hasked
    split at hasked
    next number hequals =>
      rw [hequals] at hnamed
      rwa [List.mem_singleton.1 hasked]
    next hequals =>
      rw [hequals] at hnamed
      exact hnamed _ hasked
  | pattern hr hpattern h =>
    obtain ⟨e, he⟩ := (htaken _ hr.told).meaningful _ hpattern
    cases h.symm.trans he
  | duration hr hd h =>
    obtain ⟨text, htext⟩ := Duration.exists_text_iff.2 ((htaken _ hr.told).meaningful _ hd)
    cases h.symm.trans htext
  | timestamp hr ht h =>
    obtain ⟨text, htext⟩ := Timestamp.exists_text_iff.2 ((htaken _ hr.told).meaningful _ ht)
    cases h.symm.trans htext

end ProtoSchema.Generation
