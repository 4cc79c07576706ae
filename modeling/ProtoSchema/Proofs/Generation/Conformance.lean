import ProtoSchema.Proofs.Generation.Forms
import ProtoSchema.Proofs.Schema.Semantics

/-!
# Which values conform to a type

Conformance is a recursion over a JSON value along the declarations of a pool: it knows of no
definitions and no references.  The patterns and formats that rules on strings come to are read by a
dialect.
-/

namespace ProtoSchema

open Generation

/-! ## 1. Scalars -/

/-- The text satisfies all rules on strings.  A bound on the length stands in for an exact length on
its side. -/
@[mk_iff]
structure StringRules.Admits (δ : Dialect) (r : StringRules) (text : String) : Prop where
  equals : ∀ s ∈ r.equals, text = s
  allow : r.allow = [] ∨ text ∈ r.allow
  deny : text ∉ r.deny
  minLength : ∀ k ∈ r.minLength <|> r.length, k ≤ text.length
  maxLength : ∀ k ∈ r.maxLength <|> r.length, text.length ≤ k
  contains : ∀ s ∈ r.contains, δ.Matches (patternOf s.toList).text text
  excludes : ∀ s ∈ r.excludes, ¬ δ.Matches (patternOf s.toList).text text
  pattern : ∀ p ∈ r.pattern, ∀ q, Pattern.convert p = .ok q → δ.Matches q.text text
  edges : ∀ q ∈ edges? r.startsWith r.endsWith, δ.Matches q.text text
  shape : ∀ shape ∈ r.wellKnown, ∃ f ∈ (formatOf? shape).toList ++ formatsOf shape,
    δ.HasFormat f text

/-- The number belongs to a domain and satisfies all rules on numbers. -/
@[mk_iff]
structure NumericRules.Admits (domain : NumberDomain) (r : NumberRules) (n : Number) : Prop where
  integral : domain ≠ .real → n.Integral
  natural : domain = .natural → r.gte = none → Number.zero.AtMost n
  equals : ∀ x ∈ r.equals, n.Same x
  allow : r.allow = [] ∨ ∃ x ∈ r.allow, n.Same x
  deny : ∀ x ∈ r.deny, ¬ n.Same x
  gt : ∀ x ∈ r.gt, x.Less n
  gte : ∀ x ∈ r.gte, x.AtMost n
  lt : ∀ x ∈ r.lt, n.Less x
  lte : ∀ x ∈ r.lte, n.AtMost x

/-- A number under rules, or a decimal string if the kind has these, whatever the rules. -/
def NumericConforms (δ : Dialect) (kind : NumericKind) (r : NumberRules) (v : Json) : Prop :=
  (∃ n, v = .number n ∧ r.Admits kind.domain n) ∨
    ∃ pattern ∈ kind.decimalPattern?, ∃ text, v = .string text ∧ δ.Matches pattern text

/-- A scalar under the rules that are told. -/
def ScalarConforms (δ : Dialect) : ScalarKind → Option Rules → Json → Prop
  | .bool, some (.bool r), v => ∃ b, v = .bool b ∧ ∀ x ∈ r.equals, b = x
  | .bool, _, v => ∃ b, v = .bool b
  | .bytes, _, v =>
    ∃ text, v = .string text ∧ (δ.Matches standardBase64 text ∨ δ.Matches urlSafeBase64 text)
  | .string, some (.string r), v => ∃ text, v = .string text ∧ r.Admits δ text
  | .string, _, v => ∃ text, v = .string text
  | .numeric kind, some (.numeric _ r), v => NumericConforms δ kind r v
  | .numeric kind, _, v => NumericConforms δ kind {} v

/-- The default of a kind, in any of its spellings; bytes have none. -/
def IsDefault : ScalarKind → Json → Prop
  | .bool, v => v = .bool false
  | .string, v => v = .string ""
  | .bytes, _ => False
  | .numeric kind, v =>
    (∃ n, v = .number n ∧ n.Same .zero) ∨ (kind.decimalPattern?.isSome ∧ v = .string "0")

/-- A scalar under constraints: its rules are satisfied, or they are skipped for the default. -/
def ScalarUseConforms (δ : Dialect) (kind : ScalarKind) (c : FieldConstraints) (v : Json) : Prop :=
  ∃ o, c.rules = .ok o ∧
    (ScalarConforms δ kind o v ∨ (c.skipsDefault = true ∧ o.isSome ∧ IsDefault kind v))

/-! ## 2. Enums -/

/-- A name that the enum declares; an enum without values leaves its names open. -/
def EnumType.Declares (e : EnumType) (name : String) : Prop :=
  e.values = [] ∨ ∃ x ∈ e.values, x.name = name

/-- A name that the rules pick out: that of one number, those of a list of numbers, or all but those
of a list of numbers, whichever is given first. -/
def EnumRules.Permits (r : EnumRules) (e : EnumType) (name : String) : Prop :=
  match r.equals with
  | some number => e.firstName? number = some name
  | none =>
    if r.allow ≠ [] then ∃ number ∈ r.allow, e.firstName? number = some name
    else if r.deny ≠ [] then ∃ x ∈ e.values, x.number ∉ r.deny ∧ x.name = name
    else e.Declares name

/-- The name of an enum under constraints. -/
def EnumConforms (p : Pool) (name : String) (c : FieldConstraints) (v : Json) : Prop :=
  ∃ e text, p.enum? name = some e ∧ v = .string text ∧
    ((c.enumeration.getD {}).Permits e text ∨
      (c.skipsDefault = true ∧ e.firstName? 0 = some text))

/-! ## 3. Well-known types -/

/-- Whether the object, if it names its type, names one of a list. -/
def NamesTypeAmong (types : List String) (members : List (String × Json)) : Prop :=
  ∀ w, (typeMember, w) ∈ members → ∃ text ∈ types, w = .string text

/-- A shared type without rules. -/
def SharedConforms (δ : Dialect) : SharedType → Json → Prop
  | .any, v => ∃ members, v = .object members ∧ ∀ w, (typeMember, w) ∈ members →
      ∃ text, w = .string text ∧ δ.HasFormat .uriReference text
  | .empty, v => v = .object []
  | .listValue, v => ∃ items, v = .array items
  | .struct, v => ∃ members, v = .object members
  | .value, _ => True

/-- A dynamically typed message under rules. -/
def AnyConforms (δ : Dialect) (r : AnyRules) (v : Json) : Prop :=
  SharedConforms δ .any v ∧ ∃ members, v = .object members ∧
    (r.allow = [] ∨ NamesTypeAmong r.allow members) ∧
      (r.deny = [] ∨ ¬ NamesTypeAmong r.deny members)

/-- A duration under rules. -/
def DurationConforms (δ : Dialect) (r : DurationRules) (v : Json) : Prop :=
  ∃ text, v = .string text ∧ δ.Matches durationPattern text ∧
    (∀ d ∈ r.equals, d.text = .ok text) ∧ (r.allow = [] ∨ ∃ d ∈ r.allow, d.text = .ok text) ∧
      ∀ d ∈ r.deny, d.text ≠ .ok text

/-- A timestamp under rules. -/
def TimestampConforms (δ : Dialect) (r : TimestampRules) (v : Json) : Prop :=
  ∃ text, v = .string text ∧ δ.HasFormat .dateTime text ∧ ∀ t ∈ r.equals, t.text = .ok text

/-- A well-known type under constraints; a wrapper is the scalar that it wraps and is never the
default. -/
def WellKnownConforms (δ : Dialect) (t : WellKnownType) (c : FieldConstraints) (v : Json) : Prop :=
  match t with
  | .any => AnyConforms δ (c.any.getD {}) v
  | .duration => DurationConforms δ (c.duration.getD {}) v
  | .timestamp => TimestampConforms δ (c.timestamp.getD {}) v
  | .empty => SharedConforms δ .empty v
  | .listValue => SharedConforms δ .listValue v
  | .struct => SharedConforms δ .struct v
  | .value => SharedConforms δ .value v
  | wrapper => ∃ kind o, wrapped? wrapper = some kind ∧ c.rules = .ok o ∧ ScalarConforms δ kind o v

/-! ## 4. Messages -/

/-- The key of a map under the constraints on keys, which only bear on strings. -/
def KeyConforms (δ : Dialect) (kind : ScalarKind) (keys : Option FieldConstraints) (key : String) :
    Prop :=
  ∀ c ∈ keys, kind = .string → c.inForce.string.isSome →
    ScalarUseConforms δ kind c.inForce (.string key)

/-- A field that is to be present: it is required, neither its default nor everything is ignored, it
is not explicitly optional, and it is no member of a oneof. -/
structure Field.MustBePresent (f : Field) : Prop where
  required : f.constraints.required = true
  ignoreEmpty : f.constraints.ignoreEmpty = false
  ignore : f.constraints.ignore ≠ .ifDefaultValue ∧ f.constraints.ignore ≠ .always
  isOptional : f.isOptional = false
  oneof : f.oneof = none

theorem isRequired_iff {f : Field} : isRequired f = true ↔ f.MustBePresent := by
  simp only [isRequired, FieldConstraints.isRequired, Bool.and_eq_true, Bool.not_eq_true',
    bne_iff_ne, Option.isNone_iff_eq_none]
  constructor
  · rintro ⟨⟨⟨⟨⟨hrequired, hempty⟩, hdefault⟩, halways⟩, hoptional⟩, honeof⟩
    exact ⟨hrequired, hempty, ⟨hdefault, halways⟩, hoptional, honeof⟩
  · rintro ⟨hrequired, hempty, ⟨hdefault, halways⟩, hoptional, honeof⟩
    exact ⟨⟨⟨⟨⟨hrequired, hempty⟩, hdefault⟩, halways⟩, hoptional⟩, honeof⟩

/-- A member of the object has the name. -/
def Present (members : List (String × Json)) (name : String) : Prop := ∃ w, (name, w) ∈ members

theorem sizeOf_member_lt {members : List (String × Json)} {x : String × Json}
    (h : x ∈ members) : sizeOf x.2 < sizeOf (Json.object members) := by
  have hx := List.sizeOf_lt_of_mem h
  obtain ⟨key, w⟩ := x
  simp only [Prod.mk.sizeOf_spec, Json.object.sizeOf_spec] at hx ⊢
  omega

theorem sizeOf_item_lt {items : List Json} {w : Json} (h : w ∈ items) :
    sizeOf w < sizeOf (Json.array items) := by
  have hw := List.sizeOf_lt_of_mem h
  simp only [Json.array.sizeOf_spec]
  omega

section

variable (δ : Dialect) (p : Pool)

mutual

/-- An object of a message: each member is a field and conforms to its type, the fields that are to
be present are, and of each required oneof exactly one member is. -/
def MessageConforms (m : Message) (v : Json) : Prop :=
  match v with
  | .object members =>
    (∀ x ∈ members, ∃ f ∈ m.fields, f.jsonName = x.1 ∧
      FieldConforms f.type f.constraints.inForce x.2) ∧
    (∀ f ∈ m.fields, f.MustBePresent → Present members f.jsonName) ∧
    ∀ o ∈ m.oneofs, o.required = true →
      ∃! name, name ∈ (m.members o).map (·.jsonName) ∧ Present members name
  | _ => False
termination_by (sizeOf v, 0)
decreasing_by exact Prod.Lex.left _ _ (sizeOf_member_lt (by assumption))

/-- A message that is used as a type; the name of a well-known type always stands for that type. -/
def EmbeddedConforms (name : String) (c : FieldConstraints) (v : Json) : Prop :=
  match WellKnownType.ofName? name with
  | some t => WellKnownConforms δ t c v
  | none => ∃ m, p.message? name = some m ∧ MessageConforms m v
termination_by (sizeOf v, 1)

/-- An item of a list or a value of a map. -/
def ElementConforms (t : ElementType) (c : FieldConstraints) (v : Json) : Prop :=
  match t with
  | .scalar kind => ScalarUseConforms δ kind c v
  | .enum name => EnumConforms p name c v
  | .message name => EmbeddedConforms name c v
termination_by (sizeOf v, 2)

/-- The value of a field under the constraints that apply. -/
def FieldConforms (t : FieldType) (c : FieldConstraints) (v : Json) : Prop :=
  match t, v with
  | .scalar kind, v => ScalarUseConforms δ kind c v
  | .enum name, v => EnumConforms p name c v
  | .message name, v => EmbeddedConforms name c v
  | .map key value, .object members =>
    let r := c.map.getD {}
    (∀ x ∈ members, KeyConforms δ key r.keys x.1 ∧
      ElementConforms value (partConstraints r.values) x.2) ∧
    (∀ k ∈ r.minPairs, k ≤ members.length) ∧ ∀ k ∈ r.maxPairs, members.length ≤ k
  | .repeated item, .array items =>
    let r := c.repeated.getD {}
    (∀ w ∈ items, ElementConforms item (partConstraints r.items) w) ∧
    (∀ k ∈ r.minItems, k ≤ items.length) ∧ (∀ k ∈ r.maxItems, items.length ≤ k) ∧
    (r.unique = true → items.Pairwise fun a b => ¬ a.Same b)
  | _, _ => False
termination_by (sizeOf v, 3)
decreasing_by
  · exact Prod.Lex.right _ (by decide)
  · exact Prod.Lex.left _ _ (sizeOf_member_lt (by assumption))
  · exact Prod.Lex.left _ _ (sizeOf_item_lt (by assumption))

end

end

end ProtoSchema
