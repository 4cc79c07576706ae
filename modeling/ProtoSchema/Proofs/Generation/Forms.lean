import ProtoSchema.Proofs.Generation.Links

/-!
# The forms of drafts

What a draft that succeeds looks like, for each sort of type: which rules were given, which schema
was drafted and which types it uses.  All that is said about documents is derived from these forms.
-/

namespace ProtoSchema.Generation

open Draft
open Pattern (Ecma)

/-! ## 1. Scalars -/

/-- The pattern that a rule gives and its counterpart. -/
def Counterparts (pattern : Option String) (given : List Ecma) : Prop :=
  List.Forall₂ (fun p e => Pattern.convert p = .ok e) pattern.toList given

theorem Yields.rulePattern {pattern : Option String} {given : List Ecma} {ts : List Target}
    (h : Yields (rulePattern pattern) given ts) : ts = [] ∧ Counterparts pattern given := by
  cases pattern with
  | none =>
    obtain ⟨rfl, rfl⟩ := yields_pure.1 h
    exact ⟨rfl, .nil⟩
  | some p =>
    obtain ⟨e, us, vs, hd, hk, rfl⟩ := yields_bind.1 h
    obtain ⟨he, rfl⟩ := yields_ofExcept.1 hd
    obtain ⟨rfl, rfl⟩ := yields_pure.1 hk
    exact ⟨rfl, .cons he .nil⟩

/-- The schema of strings under all rules, given the counterpart of their pattern. -/
def stringUnder (r : StringRules) (given : List Ecma) : Schema :=
  .conjunction (.string (stringKeywords r (stringPatterns r given)) ::
    (stringOperands r ++ patternOperands (stringPatterns r given)))

/-- The schema that a scalar has under its rules, if it may have these. -/
inductive ScalarForm : ScalarKind → Option Rules → Schema → Prop
  | bool : ScalarForm .bool none (.boolean {})
  | boolRules (r : BoolRules) : ScalarForm .bool (some (.bool r)) (.boolean { equals := r.equals })
  | bytes : ScalarForm .bytes none bytesSchema
  | bytesRules (r : BytesRules) : ScalarForm .bytes (some (.bytes r)) bytesSchema
  | string : ScalarForm .string none (.string {})
  | stringRules (r : StringRules) (given : List Ecma) (h : Counterparts r.pattern given) :
      ScalarForm .string (some (.string r)) (stringUnder r given)
  | numeric (kind : NumericKind) : ScalarForm (.numeric kind) none (numericSchema kind {})
  | numericRules (kind : NumericKind) (bounds : NumberRules) :
      ScalarForm (.numeric kind) (some (.numeric kind bounds)) (numericSchema kind bounds)

theorem Yields.stringSchema {r : StringRules} {s : Schema} {ts : List Target}
    (h : Yields (stringSchema r) s ts) :
    ts = [] ∧ ∃ given, Counterparts r.pattern given ∧ s = stringUnder r given := by
  obtain ⟨given, us, vs, hd, hk, rfl⟩ := yields_bind.1 h
  obtain ⟨rfl, hg⟩ := Yields.rulePattern hd
  obtain ⟨rfl, rfl⟩ := yields_pure.1 hk
  exact ⟨rfl, given, hg, rfl⟩

theorem Yields.strictScalar {kind : ScalarKind} {c : FieldConstraints} {s : Schema}
    {ts : List Target} (h : Yields (strictScalarSchema kind c) s ts) :
    ts = [] ∧ ∃ o, c.rules = .ok o ∧ ScalarForm kind o s := by
  obtain ⟨o, us, vs, hd, hk, rfl⟩ := yields_bind.1 h
  obtain ⟨ho, rfl⟩ := yields_rulesOf.1 hd
  suffices hs : vs = [] ∧ ScalarForm kind o s from ⟨by rw [hs.1]; rfl, o, ho, hs.2⟩
  clear h hd
  -- One case for each kind with its own rules; numbers need rules of their own kind, and any other
  -- rules are a fault.
  split at hk
  next =>
    obtain ⟨rfl, rfl⟩ := yields_pure.1 hk
    exact ⟨rfl, .bool⟩
  next r =>
    obtain ⟨rfl, rfl⟩ := yields_pure.1 hk
    exact ⟨rfl, .boolRules r⟩
  next =>
    obtain ⟨rfl, rfl⟩ := yields_pure.1 hk
    exact ⟨rfl, .bytes⟩
  next r =>
    obtain ⟨rfl, rfl⟩ := yields_pure.1 hk
    exact ⟨rfl, .bytesRules r⟩
  next =>
    obtain ⟨rfl, rfl⟩ := yields_pure.1 hk
    exact ⟨rfl, .string⟩
  next r =>
    obtain ⟨rfl, given, hg, rfl⟩ := Yields.stringSchema hk
    exact ⟨rfl, .stringRules r given hg⟩
  next kind =>
    obtain ⟨rfl, rfl⟩ := yields_pure.1 hk
    exact ⟨rfl, .numeric kind⟩
  next kind given bounds =>
    split at hk
    next he =>
      obtain ⟨rfl, rfl⟩ := yields_pure.1 hk
      subst he
      exact ⟨rfl, .numericRules given bounds⟩
    next => exact absurd hk yields_fail
  next => exact absurd hk yields_fail

/-- The schema with the defaults let in, where the rules are skipped for them. -/
def withDefaults (kind : ScalarKind) (c : FieldConstraints) (o : Option Rules) (s : Schema) :
    Schema :=
  if c.skipsDefault && o.isSome && !(defaultSchemas kind).isEmpty then
    .disjunction (defaultSchemas kind ++ [s])
  else s

/-- The schema of a use of a scalar. -/
inductive ScalarUse (kind : ScalarKind) (c : FieldConstraints) : Schema → Prop
  | intro (o : Option Rules) (hrules : c.rules = .ok o) (s : Schema) (hs : ScalarForm kind o s) :
      ScalarUse kind c (withDefaults kind c o s)

theorem Yields.scalar {kind : ScalarKind} {c : FieldConstraints} {s : Schema} {ts : List Target}
    (h : Yields (scalarSchema kind c) s ts) : ts = [] ∧ ScalarUse kind c s := by
  obtain ⟨s₀, us, vs, hd, hk, rfl⟩ := yields_bind.1 h
  obtain ⟨rfl, o, ho, hform⟩ := Yields.strictScalar hd
  obtain ⟨o', us, ws, hd', hk', rfl⟩ := yields_bind.1 hk
  obtain ⟨ho', rfl⟩ := yields_rulesOf.1 hd'
  cases ho.symm.trans ho'
  suffices hs : ws = [] ∧ s = withDefaults kind c o s₀ by
    rw [hs.1, hs.2]
    exact ⟨rfl, .intro o ho s₀ hform⟩
  unfold withDefaults
  clear h hk hd'
  split at hk'
  next hc =>
    obtain ⟨rfl, rfl⟩ := yields_pure.1 hk'
    exact ⟨rfl, (if_pos hc).symm⟩
  next hc =>
    obtain ⟨rfl, rfl⟩ := yields_pure.1 hk'
    exact ⟨rfl, (if_neg hc).symm⟩

/-! ## 2. Enums -/

/-- The schema of the names that the rules allow: one name, the names of a list of numbers, or all
names but those of a list of numbers. -/
inductive NamesForm (e : EnumType) (r : EnumRules) : Option Schema → Prop
  | equals (number : Int) (name : String) (h : r.equals = some number)
      (hname : e.firstName? number = some name) : NamesForm e r (some (.ofString name))
  | allow (names : List String) (h : r.equals = none) (hallow : r.allow ≠ [])
      (hnames : List.Forall₂ (fun n name => e.firstName? n = some name) r.allow names) :
      NamesForm e r (some (.ofNames names))
  | deny (h : r.equals = none) (hallow : r.allow = []) (hdeny : r.deny ≠ []) (names : List String)
      (hnames : names = (e.values.filter fun v => !r.deny.contains v.number).map (·.name)) :
      NamesForm e r (some (if names.isEmpty then .never else .ofNames names))
  | every (h : r.equals = none) (hallow : r.allow = []) (hdeny : r.deny = []) : NamesForm e r none

theorem Yields.ruleName {e : EnumType} {number : Int} {name : String} {ts : List Target}
    (h : Yields (ruleName e number) name ts) : e.firstName? number = some name ∧ ts = [] := by
  unfold Generation.ruleName at h
  split at h
  next x hx =>
    obtain ⟨rfl, rfl⟩ := yields_pure.1 h
    exact ⟨hx, rfl⟩
  next => exact absurd h yields_fail

theorem Yields.allowedNames {e : EnumType} {r : EnumRules} {o : Option Schema} {ts : List Target}
    (h : Yields (allowedNames e r) o ts) : ts = [] ∧ NamesForm e r o := by
  unfold Generation.allowedNames at h
  split at h
  next number he =>
    obtain ⟨name, us, vs, hd, hk, rfl⟩ := yields_bind.1 h
    obtain ⟨hn, rfl⟩ := Yields.ruleName hd
    obtain ⟨rfl, rfl⟩ := yields_pure.1 hk
    exact ⟨rfl, .equals number name he hn⟩
  next he =>
    have hnone : r.equals = none := Option.eq_none_iff_forall_ne_some.2 he
    split at h
    next ha =>
      obtain ⟨names, us, vs, hd, hk, rfl⟩ := yields_bind.1 h
      obtain ⟨hnames, rfl⟩ := hd.mapM_silent fun _ _ _ => Yields.ruleName
      obtain ⟨rfl, rfl⟩ := yields_pure.1 hk
      exact ⟨rfl, .allow names hnone (by simpa using ha) hnames⟩
    next ha =>
      have hallow : r.allow = [] := by simpa using ha
      split at h
      next hd =>
        obtain ⟨rfl, rfl⟩ := yields_pure.1 h
        exact ⟨rfl, .every hnone hallow (by simpa using hd)⟩
      next hd =>
        obtain ⟨rfl, rfl⟩ := yields_pure.1 h
        exact ⟨rfl, .deny hnone hallow (by simpa using hd) _ rfl⟩

/-- The schema of a use of an enum and the types that the use leads to. -/
inductive EnumForm (p : Pool) (name : String) (c : FieldConstraints) :
    Schema → List Target → Prop
  | every (e : EnumType) (he : p.enum? name = some e) (o : Option EnumRules)
      (hrules : c.rules = .ok (o.map .enumeration)) (ho : ∀ r, o = some r → NamesForm e r none) :
      EnumForm p name c (.ref (.definition (Target.enum e).key)) [.enum e]
  | picked (e : EnumType) (he : p.enum? name = some e) (r : EnumRules)
      (hrules : c.rules = .ok (some (.enumeration r))) (s : Schema)
      (hs : NamesForm e r (some s)) :
      EnumForm p name c
        (match e.firstName? 0 with
          | some zero => if c.skipsDefault then .disjunction [.ofString zero, s] else s
          | none => s) []

theorem Yields.enum {p : Pool} {name : String} {c : FieldConstraints} {s : Schema}
    {ts : List Target} (h : Yields (enumSchema p name c) s ts) : EnumForm p name c s ts := by
  unfold enumSchema at h
  split at h
  next => exact absurd h yields_fail
  next e he =>
    -- The rules decide whether names are picked; if not, the definition is referred to.
    obtain ⟨o, us, vs, hd, hk, rfl⟩ := yields_bind.1 h
    obtain ⟨rfl, hrules⟩ := Yields.rulesFor .enumeration
      (fun {r x} hr => by cases r <;> cases hr; rfl) hd
    cases o with
    | none =>
      simp only [pure_bind] at hk
      obtain ⟨rfl, rfl⟩ := yields_reference.1 hk
      exact .every e he none hrules fun r hr => by cases hr
    | some r =>
      obtain ⟨allowed, us, ws, ha, hs, rfl⟩ := yields_bind.1 hk
      obtain ⟨rfl, hform⟩ := Yields.allowedNames ha
      cases allowed with
      | none =>
        obtain ⟨rfl, rfl⟩ := yields_reference.1 hs
        refine .every e he (some r) hrules fun r' hr => ?_
        cases hr
        exact hform
      | some s' =>
        have hpicked : EnumForm p name c _ [] := .picked e he r hrules s' hform
        cases hzero : e.firstName? 0 with
        | none =>
          rw [hzero] at hs hpicked
          obtain ⟨rfl, rfl⟩ := yields_pure.1 hs
          exact hpicked
        | some zero =>
          rw [hzero] at hs hpicked
          obtain ⟨rfl, rfl⟩ := yields_pure.1 hs
          exact hpicked

/-! ## 3. Embedded messages -/

/-- The kind of the scalars that a wrapper holds. -/
def wrapped? : WellKnownType → Option ScalarKind
  | .boolValue => some .bool
  | .bytesValue => some .bytes
  | .stringValue => some .string
  | .doubleValue => some (.numeric .double)
  | .floatValue => some (.numeric .float)
  | .int32Value => some (.numeric .int32)
  | .int64Value => some (.numeric .int64)
  | .uint32Value => some (.numeric .uint32)
  | .uint64Value => some (.numeric .uint64)
  | _ => none

/-- The schema of dynamically typed messages under rules. -/
def anyUnder (r : AnyRules) : Schema :=
  .conjunction (.ref (.definition (Target.shared .any).key) ::
    ((if r.allow.isEmpty then [] else [typeAmong r.allow]) ++
      (if r.deny.isEmpty then [] else [.not (typeAmong r.deny)])))

/-- The schema of a use of a well-known type and the types that the use leads to. -/
inductive WellKnownForm (c : FieldConstraints) : WellKnownType → Schema → List Target → Prop
  | any (o : Option AnyRules) (hrules : c.rules = .ok (o.map .any)) :
      WellKnownForm c .any (anyUnder (o.getD {})) [.shared .any]
  | duration (o : Option DurationRules) (hrules : c.rules = .ok (o.map .duration))
      (equals : Option String) (allow deny : List String)
      (hequals : Option.Rel (fun d s => Duration.text d = .ok s) (o.getD {}).equals equals)
      (hallow : List.Forall₂ (fun d s => Duration.text d = .ok s) (o.getD {}).allow allow)
      (hdeny : List.Forall₂ (fun d s => Duration.text d = .ok s) (o.getD {}).deny deny) :
      WellKnownForm c .duration (durationTexts equals allow deny) []
  | timestamp (o : Option TimestampRules) (hrules : c.rules = .ok (o.map .timestamp))
      (equals : Option String)
      (hequals : Option.Rel (fun t s => Timestamp.text t = .ok s) (o.bind (·.equals)) equals) :
      WellKnownForm c .timestamp (timestampTexts equals) []
  | shared (t : SharedType) (ht : t ≠ .any) (hrules : c.rules = .ok none) :
      WellKnownForm c t.wellKnown (.ref (.definition (Target.shared t).key)) [.shared t]
  | wrapper (t : WellKnownType) (kind : ScalarKind) (hkind : wrapped? t = some kind)
      (o : Option Rules) (hrules : c.rules = .ok o) (s : Schema) (hs : ScalarForm kind o s) :
      WellKnownForm c t s []

theorem Yields.any {o : Option AnyRules} {s : Schema} {ts : List Target}
    (h : Yields (anySchema o) s ts) : s = anyUnder (o.getD {}) ∧ ts = [.shared .any] := by
  obtain ⟨shared, us, vs, hd, hk, rfl⟩ := yields_bind.1 h
  obtain ⟨rfl, rfl⟩ := yields_reference.1 hd
  obtain ⟨rfl, rfl⟩ := yields_pure.1 hk
  exact ⟨rfl, rfl⟩

/-- The texts of a schema of durations are those of the durations in the rules. -/
theorem yields_durationSchema {o : Option DurationRules} {s : Schema} {ts : List Target}
    (h : Yields (durationSchema o) s ts) :
    ∃ equals allow deny, Option.Rel (fun d s => Duration.text d = .ok s) (o.getD {}).equals equals ∧
      List.Forall₂ (fun d s => Duration.text d = .ok s) (o.getD {}).allow allow ∧
      List.Forall₂ (fun d s => Duration.text d = .ok s) (o.getD {}).deny deny ∧
      s = durationTexts equals allow deny ∧ ts = [] := by
  have htext : ∀ d s us, Yields (durationText d) s us → Duration.text d = .ok s ∧ us = [] :=
    fun _ _ _ => yields_ofExcept.1
  obtain ⟨equals, us₁, vs₁, hd₁, hk₁, rfl⟩ := yields_bind.1 h
  obtain ⟨hequals, rfl⟩ := hd₁.option_silent htext
  obtain ⟨allow, us₂, vs₂, hd₂, hk₂, rfl⟩ := yields_bind.1 hk₁
  obtain ⟨hallow, rfl⟩ := hd₂.mapM_silent htext
  obtain ⟨deny, us₃, vs₃, hd₃, hk₃, rfl⟩ := yields_bind.1 hk₂
  obtain ⟨hdeny, rfl⟩ := hd₃.mapM_silent htext
  obtain ⟨rfl, rfl⟩ := yields_pure.1 hk₃
  exact ⟨equals, allow, deny, hequals, hallow, hdeny, rfl, rfl⟩

theorem Yields.duration {c : FieldConstraints} {o : Option DurationRules}
    (hrules : c.rules = .ok (o.map .duration)) {s : Schema} {ts : List Target}
    (h : Yields (durationSchema o) s ts) : WellKnownForm c .duration s ts := by
  obtain ⟨equals, allow, deny, hequals, hallow, hdeny, rfl, rfl⟩ := yields_durationSchema h
  exact .duration o hrules equals allow deny hequals hallow hdeny

theorem Yields.timestamp {c : FieldConstraints} {o : Option TimestampRules}
    (hrules : c.rules = .ok (o.map .timestamp)) {s : Schema} {ts : List Target}
    (h : Yields (timestampSchema o) s ts) : WellKnownForm c .timestamp s ts := by
  obtain ⟨equals, us, vs, hd, hk, rfl⟩ := yields_bind.1 h
  obtain ⟨hequals, rfl⟩ := hd.option_silent fun _ _ _ => yields_ofExcept.1
  obtain ⟨rfl, rfl⟩ := yields_pure.1 hk
  exact .timestamp o hrules equals hequals

theorem Yields.shared {t : SharedType} (ht : t ≠ .any) {c : FieldConstraints} {s : Schema}
    {ts : List Target} (h : Yields (sharedSchema t c) s ts) :
    WellKnownForm c t.wellKnown s ts := by
  obtain ⟨u, us, vs, hd, hk, rfl⟩ := yields_bind.1 h
  obtain ⟨rfl, hrules⟩ := Yields.noRules hd
  obtain ⟨rfl, rfl⟩ := yields_reference.1 hk
  exact .shared t ht hrules

theorem Yields.wrapper {t : WellKnownType} {kind : ScalarKind} (hkind : wrapped? t = some kind)
    {c : FieldConstraints} {s : Schema} {ts : List Target}
    (h : Yields (strictScalarSchema kind c) s ts) : WellKnownForm c t s ts := by
  obtain ⟨rfl, o, hrules, hs⟩ := Yields.strictScalar h
  exact .wrapper t kind hkind o hrules s hs

theorem Yields.wellKnown {t : WellKnownType} {c : FieldConstraints} {s : Schema}
    {ts : List Target} (h : Yields (wellKnownSchema t c) s ts) : WellKnownForm c t s ts := by
  cases t with
  | any =>
    obtain ⟨o, us, vs, hd, hk, rfl⟩ := yields_bind.1 h
    obtain ⟨rfl, hrules⟩ := Yields.rulesFor .any
      (fun {r x} hr => by cases r <;> cases hr; rfl) hd
    obtain ⟨rfl, rfl⟩ := Yields.any hk
    exact .any o hrules
  | duration =>
    obtain ⟨o, us, vs, hd, hk, rfl⟩ := yields_bind.1 h
    obtain ⟨rfl, hrules⟩ := Yields.rulesFor .duration
      (fun {r x} hr => by cases r <;> cases hr; rfl) hd
    exact Yields.duration hrules hk
  | timestamp =>
    obtain ⟨o, us, vs, hd, hk, rfl⟩ := yields_bind.1 h
    obtain ⟨rfl, hrules⟩ := Yields.rulesFor .timestamp
      (fun {r x} hr => by cases r <;> cases hr; rfl) hd
    exact Yields.timestamp hrules hk
  | empty => exact Yields.shared (t := .empty) (by decide) h
  | listValue => exact Yields.shared (t := .listValue) (by decide) h
  | struct => exact Yields.shared (t := .struct) (by decide) h
  | value => exact Yields.shared (t := .value) (by decide) h
  | boolValue | bytesValue | stringValue | doubleValue | floatValue | int32Value | int64Value
  | uint32Value | uint64Value => exact Yields.wrapper rfl h

/-- The schema of a use of a message and the types that the use leads to. -/
inductive EmbeddedForm (p : Pool) (name : String) (c : FieldConstraints) :
    Schema → List Target → Prop
  | wellKnown (t : WellKnownType) (ht : WellKnownType.ofName? name = some t) (s : Schema)
      (ts : List Target) (hs : WellKnownForm c t s ts) : EmbeddedForm p name c s ts
  | declared (ht : WellKnownType.ofName? name = none) (m : Message)
      (hm : p.message? name = some m) (hrules : c.rules = .ok none) :
      EmbeddedForm p name c (.ref (.definition (Target.message m).key)) [.message m]

theorem Yields.embedded {p : Pool} {name : String} {c : FieldConstraints} {s : Schema}
    {ts : List Target} (h : Yields (embeddedSchema p name c) s ts) : EmbeddedForm p name c s ts := by
  unfold embeddedSchema at h
  split at h
  next t ht => exact .wellKnown t ht s ts (Yields.wellKnown h)
  next ht =>
    split at h
    next => exact absurd h yields_fail
    next m hm =>
      obtain ⟨u, us, vs, hd, hk, rfl⟩ := yields_bind.1 h
      obtain ⟨rfl, hrules⟩ := Yields.noRules hd
      obtain ⟨rfl, rfl⟩ := yields_reference.1 hk
      exact .declared ht m hm hrules

/-! ## 4. Fields -/

/-- The schema of an item of a list or a value of a map and the types that it leads to. -/
inductive ElementForm (p : Pool) (c : FieldConstraints) :
    ElementType → Schema → List Target → Prop
  | scalar (kind : ScalarKind) (s : Schema) (hs : ScalarUse kind c s) :
      ElementForm p c (.scalar kind) s []
  | enum (name : String) (s : Schema) (ts : List Target) (hs : EnumForm p name c s ts) :
      ElementForm p c (.enum name) s ts
  | message (name : String) (s : Schema) (ts : List Target) (hs : EmbeddedForm p name c s ts) :
      ElementForm p c (.message name) s ts

/-- The schema of the keys of a map, if they are constrained as strings. -/
inductive KeyForm (key : ScalarKind) : Option FieldConstraints → Option Schema → Prop
  | none : KeyForm key none none
  | some (c : FieldConstraints) (s : Schema) (hs : ScalarUse key c.inForce s) :
      KeyForm key (some c) (if key = .string ∧ c.inForce.string.isSome then some s else none)

/-- The schema of a field under the constraints that apply and the types that it leads to. -/
inductive FieldForm (p : Pool) (c : FieldConstraints) : FieldType → Schema → List Target → Prop
  | scalar (kind : ScalarKind) (s : Schema) (hs : ScalarUse kind c s) :
      FieldForm p c (.scalar kind) s []
  | enum (name : String) (s : Schema) (ts : List Target) (hs : EnumForm p name c s ts) :
      FieldForm p c (.enum name) s ts
  | message (name : String) (s : Schema) (ts : List Target) (hs : EmbeddedForm p name c s ts) :
      FieldForm p c (.message name) s ts
  | map (key : ScalarKind) (value : ElementType) (o : Option (MapRules FieldConstraints))
      (hrules : c.rules = .ok (o.map .map)) (values : Schema) (ts : List Target)
      (hvalues : ElementForm p (partConstraints (o.getD {}).values) value values ts)
      (names : Option Schema) (hnames : KeyForm key (o.getD {}).keys names) :
      FieldForm p c (.map key value) (.object
        { additionalProperties := some values, propertyNames := names
          minProperties := (o.getD {}).minPairs, maxProperties := (o.getD {}).maxPairs }) ts
  | repeated (item : ElementType) (o : Option (RepeatedRules FieldConstraints))
      (hrules : c.rules = .ok (o.map .repeated)) (items : Schema) (ts : List Target)
      (hitems : ElementForm p (partConstraints (o.getD {}).items) item items ts) :
      FieldForm p c (.repeated item) (.array
        { items := some items, minItems := (o.getD {}).minItems
          maxItems := (o.getD {}).maxItems, uniqueItems := (o.getD {}).unique }) ts

theorem Yields.element {p : Pool} {t : ElementType} {c : FieldConstraints} {s : Schema}
    {ts : List Target} (h : Yields (elementSchema p t c) s ts) : ElementForm p c t s ts := by
  cases t with
  | scalar kind =>
    obtain ⟨rfl, hs⟩ := Yields.scalar h
    exact .scalar kind s hs
  | enum name => exact .enum name s ts (Yields.enum h)
  | message name => exact .message name s ts (Yields.embedded h)

theorem Yields.key {key : ScalarKind} {c : Option FieldConstraints} {names : Option Schema}
    {ts : List Target} (h : Yields (keySchema key c) names ts) :
    ts = [] ∧ KeyForm key c names := by
  cases c with
  | none =>
    obtain ⟨rfl, rfl⟩ := yields_pure.1 h
    exact ⟨rfl, .none⟩
  | some c =>
    obtain ⟨s, us, vs, hd, hk, rfl⟩ := yields_bind.1 h
    obtain ⟨rfl, hs⟩ := Yields.scalar (yields_inside.1 hd)
    obtain ⟨rfl, rfl⟩ := yields_pure.1 hk
    exact ⟨rfl, .some c s hs⟩

theorem Yields.repeated {p : Pool} {item : ElementType} {c : FieldConstraints} {s : Schema}
    {ts : List Target} (h : Yields (repeatedSchema p item c) s ts) :
    FieldForm p c (.repeated item) s ts := by
  obtain ⟨o, us, vs, hd, hk, rfl⟩ := yields_bind.1 h
  obtain ⟨rfl, hrules⟩ := Yields.rulesFor .repeated
    (fun {r x} hr => by cases r <;> cases hr; rfl) hd
  obtain ⟨items, us, ws, hd', hk', rfl⟩ := yields_bind.1 hk
  obtain ⟨rfl, rfl⟩ := yields_pure.1 hk'
  rw [List.nil_append, List.append_nil]
  exact .repeated item o hrules items us (Yields.element (yields_inside.1 hd'))

theorem Yields.map {p : Pool} {key : ScalarKind} {value : ElementType} {c : FieldConstraints}
    {s : Schema} {ts : List Target} (h : Yields (mapSchema p key value c) s ts) :
    FieldForm p c (.map key value) s ts := by
  unfold mapSchema at h
  split at h
  next =>
    obtain ⟨u, us, vs, hd, -, -⟩ := yields_bind.1 h
    exact absurd hd yields_fail
  next =>
    obtain ⟨o, us, vs, hd, hk, rfl⟩ := yields_bind.1 h
    obtain ⟨rfl, hrules⟩ := Yields.rulesFor .map
      (fun {r x} hr => by cases r <;> cases hr; rfl) hd
    obtain ⟨values, us, ws, hd', hk', rfl⟩ := yields_bind.1 hk
    obtain ⟨names, us', ws', hn, hk'', rfl⟩ := yields_bind.1 hk'
    obtain ⟨rfl, hnames⟩ := Yields.key hn
    obtain ⟨rfl, rfl⟩ := yields_pure.1 hk''
    rw [List.nil_append, List.nil_append, List.append_nil]
    exact .map key value o hrules values us (Yields.element (yields_inside.1 hd')) names hnames

theorem Yields.field {p : Pool} {f : Field} {s : Schema} {ts : List Target}
    (h : Yields (fieldSchema p f) s ts) : FieldForm p f.constraints.inForce f.type s ts := by
  unfold fieldSchema at h
  generalize f.type = t at h ⊢
  cases t with
  | scalar kind =>
    obtain ⟨rfl, hs⟩ := Yields.scalar h
    exact .scalar kind s hs
  | enum name => exact .enum name s ts (Yields.enum h)
  | message name => exact .message name s ts (Yields.embedded h)
  | map key value => exact Yields.map h
  | repeated item => exact Yields.repeated h

/-! ## 5. The types that a form leads to -/

theorem NamesForm.picks {e : EnumType} {r : EnumRules} {o : Option Schema}
    (h : NamesForm e r o) : r.picks = o.isSome := by
  unfold EnumRules.picks
  cases h with
  | equals number name he hname => simp [he]
  | allow names he hallow hnames => simp [hallow]
  | deny he hallow hdeny names hnames => simp [hdeny]
  | every he hallow hdeny => simp [he, hallow, hdeny]

theorem EnumForm.links {p : Pool} {name : String} {c : FieldConstraints} {s : Schema}
    {ts : List Target} (h : EnumForm p name c s ts) : ts = enumLinks p name c := by
  unfold enumLinks
  cases h with
  | every e he o hrules ho =>
    have hpicks : c.enumeration.any (·.picks) = false := by
      rw [FieldConstraints.enumeration_eq_of_rules hrules]
      cases o with
      | none => rfl
      | some r => exact (ho r rfl).picks
    rw [hpicks, he]
    rfl
  | picked e he r hrules s hs =>
    rw [FieldConstraints.enumeration_eq_of_rules (o := some r) hrules, Option.any_some, hs.picks]
    rfl

theorem WellKnownForm.links {c : FieldConstraints} {t : WellKnownType} {s : Schema}
    {ts : List Target} (h : WellKnownForm c t s ts) :
    ts = (SharedType.ofWellKnown? t).toList.map .shared := by
  cases h with
  | any => rfl
  | duration => rfl
  | timestamp => rfl
  | shared t => cases t <;> rfl
  | wrapper t kind hkind => cases t <;> first | rfl | cases hkind

theorem EmbeddedForm.links {p : Pool} {name : String} {c : FieldConstraints} {s : Schema}
    {ts : List Target} (h : EmbeddedForm p name c s ts) : ts = messageLinks p name := by
  unfold messageLinks
  cases h with
  | wellKnown t ht s ts hs =>
    rw [ht]
    exact hs.links
  | declared ht m hm hrules =>
    rw [ht, hm]
    rfl

theorem ElementForm.links {p : Pool} {c : FieldConstraints} {t : ElementType} {s : Schema}
    {ts : List Target} (h : ElementForm p c t s ts) : ts = elementLinks p t c := by
  cases h with
  | scalar => rfl
  | enum name s ts hs => exact hs.links
  | message name s ts hs => exact hs.links

theorem FieldForm.links {p : Pool} {c : FieldConstraints} {t : FieldType} {s : Schema}
    {ts : List Target} (h : FieldForm p c t s ts) : ts = typeLinks p t c := by
  cases h with
  | scalar => rfl
  | enum name s ts hs => exact hs.links
  | message name s ts hs => exact hs.links
  | map key value o hrules values ts hvalues names hnames =>
    rw [hvalues.links]
    unfold typeLinks
    rw [FieldConstraints.map_eq_of_rules hrules]
    cases o <;> rfl
  | repeated item o hrules items ts hitems =>
    rw [hitems.links]
    unfold typeLinks
    rw [FieldConstraints.repeated_eq_of_rules hrules]
    cases o <;> rfl

/-! ## 6. Messages and shared types -/

/-- The property of a field. -/
inductive PropertyForm (p : Pool) (f : Field) : String × Schema → Prop
  | intro (s : Schema) (hs : FieldForm p f.constraints.inForce f.type s (fieldLinks p f)) :
      PropertyForm p f (f.jsonName, s)

/-- The object of a message with the choices among members of oneofs. -/
def messageUnder (m : Message) (properties : List (String × Schema)) : Schema :=
  .conjunction (.object
    { properties, required := (m.fields.filter isRequired).map (·.jsonName)
      additionalProperties := some .never } :: oneofChoices m)

/-- The schema of a type that a document defines. -/
inductive TargetForm (p : Pool) : Target → Schema → Prop
  | message (m : Message) (properties : List (String × Schema))
      (h : List.Forall₂ (PropertyForm p) m.fields properties) :
      TargetForm p (.message m) (messageUnder m properties)
  | enum (e : EnumType) : TargetForm p (.enum e) (EnumType.schema e)
  | shared (t : SharedType) (s : Schema) (h : t.schema.result = .ok s) :
      TargetForm p (.shared t) s

theorem Yields.property {p : Pool} {f : Field} {x : String × Schema} {ts : List Target}
    (h : Yields (property p f) x ts) : PropertyForm p f x ∧ ts = fieldLinks p f := by
  obtain ⟨s, us, vs, hd, hk, rfl⟩ := yields_bind.1 h
  obtain ⟨rfl, rfl⟩ := yields_pure.1 hk
  have hform := Yields.field (yields_inside.1 hd)
  have hlinks : us = fieldLinks p f := hform.links
  rw [List.append_nil]
  exact ⟨.intro s (hlinks ▸ hform), hlinks⟩

theorem Yields.message {p : Pool} {m : Message} {s : Schema} {ts : List Target}
    (h : Yields (messageSchema p m) s ts) :
    TargetForm p (.message m) s ∧ ts = (Target.message m).links p := by
  obtain ⟨properties, us, vs, hd, hk, rfl⟩ := yields_bind.1 h
  obtain ⟨rfl, rfl⟩ := yields_pure.1 hk
  obtain ⟨hall, rfl⟩ := hd.mapM
  refine ⟨.message m properties (hall.imp fun f x hx => (Yields.property hx.choose_spec).1), ?_⟩
  rw [List.append_nil]
  refine List.flatMap_congr fun f hf => ?_
  obtain ⟨x, -, us, hx⟩ := forall₂_exists_right hall hf
  exact hx.2.trans (Yields.property hx).2

/-- A type that can be drafted uses exactly its links, in their order. -/
theorem Yields.target {p : Pool} {t : Target} {s : Schema} {ts : List Target}
    (h : Yields (t.draft p) s ts) : TargetForm p t s ∧ ts = t.links p := by
  cases t with
  | message m => exact Yields.message (yields_inside.1 h)
  | enum e =>
    obtain ⟨rfl, rfl⟩ := yields_pure.1 h
    exact ⟨.enum e, rfl⟩
  | shared t =>
    refine ⟨.shared t s h.1, h.2.symm.trans ?_⟩
    cases t <;> rfl

end ProtoSchema.Generation
