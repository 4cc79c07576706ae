import ProtoSchema.Proofs.Generation.Success
import ProtoSchema.Proofs.Time.Range

/-!
# Well-formed fields

Whether a field can be drafted is said of its declaration alone: its names resolve, and the rules
that apply are those of its type and can be followed.  A message has a document exactly if every
field of every message that it reaches is well-formed, so no rules are left out or taken for others.
-/

namespace ProtoSchema

/-! ## 1. Rules that a type takes -/

/-- The rules can be told, and the type takes them if there are any. -/
def FieldConstraints.Ruled (c : FieldConstraints) (takes : Rules → Prop) : Prop :=
  ∃ o, c.rules = .ok o ∧ ∀ r ∈ o, takes r

/-- A scalar takes the rules of its own kind; a pattern among them has to have a counterpart. -/
def ScalarKind.Takes : ScalarKind → Rules → Prop
  | bool, .bool _ => True
  | bytes, .bytes _ => True
  | string, .string r => ∀ p ∈ r.pattern, ∃ e, Pattern.convert p = .ok e
  | numeric kind, .numeric given _ => given = kind
  | _, _ => False

/-- The enum declares a value with the number. -/
def EnumType.HasNumber (e : EnumType) (number : Int) : Prop := ∃ v ∈ e.values, v.number = number

/-- The numbers that the rules ask names for are declared: the one that is fixed, or if there is none
those of the list. -/
def EnumRules.NamedIn (r : EnumRules) (e : EnumType) : Prop :=
  match r.equals with
  | some number => e.HasNumber number
  | none => ∀ number ∈ r.allow, e.HasNumber number

/-- An enum takes rules on enums whose numbers have names. -/
def EnumType.Takes (e : EnumType) : Rules → Prop
  | .enumeration r => r.NamedIn e
  | _ => False

namespace Generation

open Draft

/-- A well-known type takes the rules that are its own, with values in range, and a wrapper those of
the scalar that it wraps. -/
def WellKnownTakes : WellKnownType → Rules → Prop
  | .any, .any _ => True
  | .duration, .duration r => ∀ d ∈ r.equals.toList ++ r.allow ++ r.deny, d.InRange
  | .timestamp, .timestamp r => ∀ t ∈ r.equals, t.InRange
  | t, r => ∃ kind, wrapped? t = some kind ∧ kind.Takes r

/-! ## 2. Well-formed fields -/

variable (p : Pool)

/-- An enum resolves and takes the rules. -/
def EnumWellFormed (name : String) (c : FieldConstraints) : Prop :=
  ∃ e, p.enum? name = some e ∧ c.Ruled e.Takes

/-- A message is a well-known type that takes the rules, or it resolves and there are none. -/
def EmbeddedWellFormed (name : String) (c : FieldConstraints) : Prop :=
  match WellKnownType.ofName? name with
  | some t => c.Ruled (WellKnownTakes t)
  | none => (∃ m, p.message? name = some m) ∧ c.Ruled fun _ => False

/-- An item of a list or a value of a map under the constraints that apply. -/
def ElementWellFormed (t : ElementType) (c : FieldConstraints) : Prop :=
  match t with
  | .scalar kind => c.Ruled kind.Takes
  | .enum name => EnumWellFormed p name c
  | .message name => EmbeddedWellFormed p name c

/-- A type of fields under the constraints that apply.  Lists and maps take rules of their own, and
what these say of items, values and keys has to be well-formed too. -/
def TypeWellFormed (t : FieldType) (c : FieldConstraints) : Prop :=
  match t with
  | .scalar kind => c.Ruled kind.Takes
  | .enum name => EnumWellFormed p name c
  | .message name => EmbeddedWellFormed p name c
  | .map key value => key.isMapKey ∧ ∃ o : Option (MapRules FieldConstraints),
      c.rules = .ok (o.map .map) ∧
        ElementWellFormed p value (partConstraints (o.bind (·.values))) ∧
        ∀ keys ∈ o.bind (·.keys), keys.inForce.Ruled key.Takes
  | .repeated item => ∃ o : Option (RepeatedRules FieldConstraints),
      c.rules = .ok (o.map .repeated) ∧
        ElementWellFormed p item (partConstraints (o.bind (·.items)))

/-- A field under the constraints that apply. -/
def FieldWellFormed (f : Field) : Prop := TypeWellFormed p f.type f.constraints.inForce

variable {p}

/-! ## 3. Rules -/

theorem result_rulesOf {c : FieldConstraints} {o : Option Rules} :
    (rulesOf c).result = .ok o ↔ c.rules = .ok o :=
  result_ofExcept

theorem succeeds_noRules {target : String} {c : FieldConstraints} :
    (noRules target c).Succeeds ↔ c.Ruled fun _ => False := by
  unfold noRules
  rw [succeeds_bind]
  refine exists_congr fun o => ?_
  rw [result_rulesOf]
  refine and_congr_right fun _ => ?_
  cases o with
  | none => exact iff_of_true (succeeds_pure _) (by simp)
  | some r => exact iff_of_false (not_succeeds_fail _) (by simp)

/-- Where rules of one sort are selected, they are told exactly if the rules are of that sort. -/
theorem result_rulesFor {α : Type} {target : String} {select : Rules → Option α} (wrap : α → Rules)
    (hselect : ∀ r x, select r = some x ↔ r = wrap x) {c : FieldConstraints} {o : Option α} :
    (rulesFor target select c).result = .ok o ↔ c.rules = .ok (o.map wrap) := by
  constructor
  · intro h
    exact (Yields.rulesFor wrap (fun hr => (hselect _ _).1 hr) ⟨h, rfl⟩).2
  · intro h
    have hresult : Yields (rulesOf c) (o.map wrap) [] := yields_rulesOf.2 ⟨h, rfl⟩
    suffices hy : Yields (rulesFor target select c) o [] from hy.1
    refine yields_bind.2 ⟨_, [], [], hresult, ?_, rfl⟩
    cases o with
    | none => exact yields_pure.2 ⟨rfl, rfl⟩
    | some x =>
      dsimp only [Option.map_some]
      rw [(hselect _ _).2 rfl]
      exact yields_pure.2 ⟨rfl, rfl⟩

/-- What follows rules of one sort succeeds if the rules are told and of that sort. -/
theorem succeeds_rulesFor {α β : Type} {target : String} {select : Rules → Option α}
    (wrap : α → Rules) (hselect : ∀ r x, select r = some x ↔ r = wrap x) {c : FieldConstraints}
    {f : Option α → Draft β} :
    (rulesFor target select c >>= f).Succeeds ↔
      ∃ o : Option α, c.rules = .ok (o.map wrap) ∧ (f o).Succeeds := by
  rw [succeeds_bind]
  exact exists_congr fun o => and_congr_left' (result_rulesFor wrap hselect)

/-- Where the type takes rules of one sort, they are ruled so if they are told and of that sort. -/
theorem ruled_iff {α : Type} {wrap : α → Rules} {takes : Rules → Prop} {P : α → Prop}
    (hwrap : ∀ x, takes (wrap x) ↔ P x) (hsort : ∀ r, takes r → ∃ x, r = wrap x)
    {c : FieldConstraints} :
    c.Ruled takes ↔ ∃ o : Option α, c.rules = .ok (o.map wrap) ∧ ∀ x ∈ o, P x := by
  constructor
  · rintro ⟨o, ho, htakes⟩
    cases o with
    | none => exact ⟨none, ho, by simp⟩
    | some r =>
      obtain ⟨x, rfl⟩ := hsort r (htakes r rfl)
      refine ⟨some x, ho, fun y hy => ?_⟩
      cases hy
      exact (hwrap x).1 (htakes _ rfl)
  · rintro ⟨o, ho, hP⟩
    refine ⟨o.map wrap, ho, fun r hr => ?_⟩
    obtain ⟨x, hx, rfl⟩ := Option.map_eq_some_iff.1 hr
    exact (hwrap x).2 (hP x hx)

/-! ## 4. Scalars and enums -/

theorem succeeds_rulePattern {pattern : Option String} :
    (rulePattern pattern).Succeeds ↔ ∀ p ∈ pattern, ∃ e, Pattern.convert p = .ok e := by
  cases pattern with
  | none => exact iff_of_true (succeeds_pure _) (by simp)
  | some p =>
    unfold rulePattern
    rw [succeeds_bind_of_forall fun _ => succeeds_pure _, succeeds_ofExcept]
    simp

theorem succeeds_stringSchema {r : StringRules} :
    (stringSchema r).Succeeds ↔ ∀ p ∈ r.pattern, ∃ e, Pattern.convert p = .ok e := by
  unfold stringSchema
  rw [succeeds_bind_of_forall fun _ => succeeds_pure _]
  exact succeeds_rulePattern

theorem succeeds_strictScalar {kind : ScalarKind} {c : FieldConstraints} :
    (strictScalarSchema kind c).Succeeds ↔ c.Ruled kind.Takes := by
  unfold strictScalarSchema
  rw [succeeds_bind]
  refine exists_congr fun o => ?_
  rw [result_rulesOf]
  refine and_congr_right fun _ => ?_
  -- Without rules every kind has a schema; with rules there is one case for each kind with its own.
  cases o with
  | none =>
    refine iff_of_true ?_ (by simp)
    cases kind <;> exact succeeds_pure _
  | some r =>
    simp only [Option.mem_def, Option.some.injEq, forall_eq']
    cases kind with
    | bool =>
      cases r with
      | bool r => exact iff_of_true (succeeds_pure _) trivial
      | _ => exact iff_of_false (not_succeeds_fail _) id
    | bytes =>
      cases r with
      | bytes r => exact iff_of_true (succeeds_pure _) trivial
      | _ => exact iff_of_false (not_succeeds_fail _) id
    | string =>
      cases r with
      | string r => exact succeeds_stringSchema
      | _ => exact iff_of_false (not_succeeds_fail _) id
    | numeric kind =>
      cases r with
      | numeric given bounds =>
        change (if given = kind then pure _ else fail _ : Draft Schema).Succeeds ↔ given = kind
        split
        next h => exact iff_of_true (succeeds_pure _) h
        next h => exact iff_of_false (not_succeeds_fail _) h
      | _ => exact iff_of_false (not_succeeds_fail _) id

theorem succeeds_scalar {kind : ScalarKind} {c : FieldConstraints} :
    (scalarSchema kind c).Succeeds ↔ c.Ruled kind.Takes := by
  rw [← succeeds_strictScalar]
  unfold scalarSchema
  rw [succeeds_bind]
  constructor
  · rintro ⟨s, hs, -⟩
    exact ⟨s, hs⟩
  · rintro ⟨s, hs⟩
    -- Rules that were told once are told again, and then both branches have a schema.
    obtain ⟨o, ho, -⟩ := succeeds_strictScalar.1 ⟨s, hs⟩
    refine ⟨s, hs, succeeds_bind.2 ⟨o, result_rulesOf.2 ho, ?_⟩⟩
    split
    · exact succeeds_pure _
    · exact succeeds_pure _

theorem EnumType.exists_firstName {e : EnumType} {number : Int} :
    (∃ name, e.firstName? number = some name) ↔ e.HasNumber number := by
  unfold EnumType.firstName? EnumType.HasNumber
  simp only [Option.map_eq_some_iff]
  constructor
  · rintro ⟨name, v, hv, -⟩
    exact ⟨v, List.mem_of_find?_eq_some hv, by simpa using List.find?_some hv⟩
  · rintro ⟨v, hv, hn⟩
    obtain ⟨w, hw⟩ := Option.isSome_iff_exists.1
      (List.find?_isSome (p := fun x => decide (x.number = number)).2 ⟨v, hv, by simpa using hn⟩)
    exact ⟨w.name, w, hw, rfl⟩

theorem succeeds_ruleName {e : EnumType} {number : Int} :
    (ruleName e number).Succeeds ↔ e.HasNumber number := by
  rw [← EnumType.exists_firstName]
  unfold ruleName
  split
  next name h => exact iff_of_true (succeeds_pure _) ⟨name, h⟩
  next h =>
    refine iff_of_false (not_succeeds_fail _) ?_
    rintro ⟨name, hname⟩
    rw [h] at hname
    cases hname

theorem succeeds_allowedNames {e : EnumType} {r : EnumRules} :
    (allowedNames e r).Succeeds ↔ r.NamedIn e := by
  unfold allowedNames EnumRules.NamedIn
  cases r.equals with
  | some number =>
    change (ruleName e number >>= _).Succeeds ↔ _
    rw [succeeds_bind_of_forall fun _ => succeeds_pure _]
    exact succeeds_ruleName
  | none =>
    dsimp only
    split
    next =>
      rw [succeeds_bind_of_forall fun _ => succeeds_pure _, succeeds_mapM]
      exact forall₂_congr fun _ _ => succeeds_ruleName
    next h =>
      -- An empty list asks for no names, and what is left out needs none.
      have hallow : r.allow = [] := by simpa using h
      refine iff_of_true ?_ (by simp [hallow])
      split
      · exact succeeds_pure _
      · exact succeeds_pure _

theorem succeeds_enum {name : String} {c : FieldConstraints} :
    (enumSchema p name c).Succeeds ↔ EnumWellFormed p name c := by
  unfold enumSchema EnumWellFormed
  cases p.enum? name with
  | none => exact iff_of_false (not_succeeds_fail _) (by simp)
  | some e =>
    simp only [Option.some.injEq, exists_eq_left']
    have hsort : ∀ r, e.Takes r → ∃ x, r = .enumeration x := by
      intro r hr
      cases r with
      | enumeration x => exact ⟨x, rfl⟩
      | _ => cases hr
    rw [ruled_iff (P := fun r : EnumRules => r.NamedIn e) (fun _ => Iff.rfl) hsort]
    refine (succeeds_rulesFor .enumeration fun r x => by cases r <;> simp).trans ?_
    refine exists_congr fun o => and_congr_right fun _ => ?_
    cases o with
    | none => exact iff_of_true (succeeds_reference _) (by simp)
    | some r =>
      -- Once the names are told, a schema is chosen, with or without them.
      refine (succeeds_bind_of_forall fun allowed => ?_).trans ?_
      · cases allowed with
        | none => exact succeeds_reference _
        | some s =>
          cases e.firstName? 0 with
          | none => exact succeeds_pure _
          | some zero => exact succeeds_pure _
      · simp only [Option.mem_def, Option.some.injEq, forall_eq']
        exact succeeds_allowedNames

/-! ## 5. Embedded messages -/

theorem succeeds_durationText {d : Duration} : (durationText d).Succeeds ↔ d.InRange := by
  unfold durationText
  rw [succeeds_ofExcept]
  exact Duration.exists_text_iff

theorem succeeds_durationSchema {o : Option DurationRules} :
    (durationSchema o).Succeeds ↔
      ∀ r ∈ o, ∀ d ∈ r.equals.toList ++ r.allow ++ r.deny, d.InRange := by
  unfold durationSchema
  have htexts : ∀ ds : List Duration, (ds.mapM durationText).Succeeds ↔ ∀ d ∈ ds, d.InRange :=
    fun ds => succeeds_mapM.trans (forall₂_congr fun _ _ => succeeds_durationText)
  have hequals : ∀ d : Option Duration,
      (d.mapM durationText).Succeeds ↔ ∀ x ∈ d.toList, x.InRange := by
    intro d
    rw [succeeds_option]
    simp only [Option.mem_toList, Option.mem_def, succeeds_durationText]
  -- Each of the three steps succeeds on its own, whatever the others come to.
  have hsteps : ∀ r : DurationRules, (do
      let equals ← r.equals.mapM durationText
      let allow ← r.allow.mapM durationText
      let deny ← r.deny.mapM durationText
      return durationTexts equals allow deny : Draft Schema).Succeeds ↔
        ∀ d ∈ r.equals.toList ++ r.allow ++ r.deny, d.InRange := by
    intro r
    rw [succeeds_bind_and fun _ => succeeds_bind_and fun _ =>
      succeeds_bind_of_forall fun _ => succeeds_pure _]
    rw [hequals, htexts, htexts, List.forall_mem_append, List.forall_mem_append, and_assoc]
  cases o with
  | none => exact (hsteps {}).trans (by simp)
  | some r => exact (hsteps r).trans (by simp)

theorem succeeds_timestampSchema {o : Option TimestampRules} :
    (timestampSchema o).Succeeds ↔ ∀ r ∈ o, ∀ t ∈ r.equals, t.InRange := by
  unfold timestampSchema
  rw [succeeds_bind_of_forall fun _ => succeeds_pure _, succeeds_option]
  simp only [succeeds_ofExcept, Timestamp.exists_text_iff]
  cases o <;> simp

theorem succeeds_anySchema (o : Option AnyRules) : (anySchema o).Succeeds := by
  unfold anySchema
  rw [succeeds_bind_of_forall fun _ => succeeds_pure _]
  exact succeeds_reference _

theorem succeeds_sharedSchema {t : SharedType} {c : FieldConstraints} :
    (sharedSchema t c).Succeeds ↔ c.Ruled fun _ => False := by
  unfold sharedSchema
  rw [succeeds_bind_of_forall fun _ => succeeds_reference _]
  exact succeeds_noRules

theorem ruled_congr {takes takes' : Rules → Prop} (h : ∀ r, takes r ↔ takes' r)
    {c : FieldConstraints} : c.Ruled takes ↔ c.Ruled takes' := by
  rw [funext fun r => propext (h r)]

theorem succeeds_wellKnown {t : WellKnownType} {c : FieldConstraints} :
    (wellKnownSchema t c).Succeeds ↔ c.Ruled (WellKnownTakes t) := by
  cases t with
  | any =>
    have hsort : ∀ r, WellKnownTakes .any r → ∃ x, r = .any x := by
      intro r hr
      cases r with
      | any x => exact ⟨x, rfl⟩
      | _ => simp [WellKnownTakes, wrapped?] at hr
    rw [ruled_iff (P := fun _ => True) (fun _ => Iff.rfl) hsort]
    refine (succeeds_rulesFor .any fun r x => by cases r <;> simp).trans ?_
    refine exists_congr fun o => and_congr_right fun _ => ?_
    exact iff_of_true (succeeds_anySchema o) (by simp)
  | duration =>
    have hsort : ∀ r, WellKnownTakes .duration r → ∃ x, r = .duration x := by
      intro r hr
      cases r with
      | duration x => exact ⟨x, rfl⟩
      | _ => simp [WellKnownTakes, wrapped?] at hr
    rw [ruled_iff (fun _ => Iff.rfl) hsort]
    refine (succeeds_rulesFor .duration fun r x => by cases r <;> simp).trans ?_
    exact exists_congr fun o => and_congr_right fun _ => succeeds_durationSchema
  | timestamp =>
    have hsort : ∀ r, WellKnownTakes .timestamp r → ∃ x, r = .timestamp x := by
      intro r hr
      cases r with
      | timestamp x => exact ⟨x, rfl⟩
      | _ => simp [WellKnownTakes, wrapped?] at hr
    rw [ruled_iff (fun _ => Iff.rfl) hsort]
    refine (succeeds_rulesFor .timestamp fun r x => by cases r <;> simp).trans ?_
    exact exists_congr fun o => and_congr_right fun _ => succeeds_timestampSchema
  | empty | listValue | struct | value =>
    refine succeeds_sharedSchema.trans (ruled_congr fun r => ?_)
    simp [WellKnownTakes, wrapped?]
  | boolValue | bytesValue | stringValue | doubleValue | floatValue | int32Value | int64Value
  | uint32Value | uint64Value =>
    refine succeeds_strictScalar.trans (ruled_congr fun r => ?_)
    simp [WellKnownTakes, wrapped?]

theorem succeeds_embedded {name : String} {c : FieldConstraints} :
    (embeddedSchema p name c).Succeeds ↔ EmbeddedWellFormed p name c := by
  unfold embeddedSchema EmbeddedWellFormed
  cases WellKnownType.ofName? name with
  | some t => exact succeeds_wellKnown
  | none =>
    cases p.message? name with
    | none => exact iff_of_false (not_succeeds_fail _) (by simp)
    | some m =>
      change (noRules "message" c >>= fun _ => reference (.message m)).Succeeds ↔ _
      rw [succeeds_bind_of_forall fun _ => succeeds_reference _, succeeds_noRules]
      simp

/-! ## 6. Fields -/

theorem succeeds_element {t : ElementType} {c : FieldConstraints} :
    (elementSchema p t c).Succeeds ↔ ElementWellFormed p t c := by
  cases t with
  | scalar kind => exact succeeds_scalar
  | enum name => exact succeeds_enum
  | message name => exact succeeds_embedded

theorem succeeds_key {key : ScalarKind} {c : Option FieldConstraints} :
    (keySchema key c).Succeeds ↔ ∀ k ∈ c, k.inForce.Ruled key.Takes := by
  cases c with
  | none => exact iff_of_true (succeeds_pure _) (by simp)
  | some k =>
    unfold keySchema
    rw [succeeds_bind_of_forall fun _ => succeeds_pure _, succeeds_inside, succeeds_scalar]
    simp

theorem succeeds_repeated {item : ElementType} {c : FieldConstraints} :
    (repeatedSchema p item c).Succeeds ↔ TypeWellFormed p (.repeated item) c := by
  refine (succeeds_rulesFor .repeated fun r x => by cases r <;> simp).trans ?_
  refine exists_congr fun o => and_congr_right fun _ => ?_
  rw [succeeds_bind_of_forall fun _ => succeeds_pure _, succeeds_inside, succeeds_element]
  cases o <;> rfl

theorem succeeds_map {key : ScalarKind} {value : ElementType} {c : FieldConstraints} :
    (mapSchema p key value c).Succeeds ↔ TypeWellFormed p (.map key value) c := by
  change _ ↔ key.isMapKey = true ∧ ∃ o : Option (MapRules FieldConstraints), _
  unfold mapSchema
  cases key.isMapKey with
  | false =>
    refine iff_of_false (fun h => ?_) (by simp)
    obtain ⟨u, hu, -⟩ := succeeds_bind.1 h
    exact not_succeeds_fail _ ⟨u, hu⟩
  | true =>
    rw [and_iff_right rfl]
    refine (succeeds_rulesFor .map fun r x => by cases r <;> simp).trans ?_
    refine exists_congr fun o => and_congr_right fun _ => ?_
    rw [succeeds_bind_and fun _ => succeeds_bind_of_forall fun _ => succeeds_pure _,
      succeeds_inside, succeeds_element, succeeds_key]
    cases o <;> rfl

theorem succeeds_field {f : Field} : (fieldSchema p f).Succeeds ↔ FieldWellFormed p f := by
  unfold fieldSchema FieldWellFormed
  generalize f.type = t
  cases t with
  | scalar kind => exact succeeds_scalar
  | enum name => exact succeeds_enum
  | message name => exact succeeds_embedded
  | map key value => exact succeeds_map
  | repeated item => exact succeeds_repeated

theorem succeeds_message {m : Message} :
    (messageSchema p m).Succeeds ↔ ∀ f ∈ m.fields, FieldWellFormed p f := by
  unfold messageSchema
  rw [succeeds_bind_of_forall fun _ => succeeds_pure _, succeeds_mapM]
  refine forall₂_congr fun f _ => ?_
  unfold property
  rw [succeeds_bind_of_forall fun _ => succeeds_pure _, succeeds_inside]
  exact succeeds_field

/-! ## 7. Documents -/

/-- A message has a document exactly if every field of every message that it reaches, its own fields
among them, is well-formed. -/
theorem document_ok_iff {set : DescriptorSet} {p : Pool} (hset : Pool.ofSet set = .ok p)
    {m : Message} (hm : m ∈ p.messages) :
    (∃ d, document p m = .ok d) ↔
      ∀ m', Reaches p (.message m) (.message m') → ∀ f ∈ m'.fields, FieldWellFormed p f := by
  rw [document_ok_iff_drafts (Pool.ofSet_sound hset) hm]
  exact forall₂_congr fun _ _ => succeeds_message

/-! ## 8. Rules on a field of another type -/

/-- A text under rules on truth values. -/
def noteDescriptor : FieldDescriptor :=
  { plainField "note" (.scalar .string) with constraints := some { bool := some {} } }

/-- An order has lines, and these lead back to the order. -/
def orderSet : DescriptorSet where
  filesToGenerate := []
  files := [
    { name := "order.proto", package := "acme", enums := []
      messages := [
        { name := "Order", oneofs := [], messages := [], enums := []
          fields := [plainField "lines" (.repeated (.message "acme.Line"))] },
        { name := "Line", oneofs := [], messages := [], enums := []
          fields := [plainField "order" (.message "acme.Order"), noteDescriptor] }] }]

def orderMessage : Message where
  fullName := ".acme.Order"
  name := "Order"
  oneofs := []
  fields := [.ofDescriptor (plainField "lines" (.repeated (.message "acme.Line")))]

def lineMessage : Message where
  fullName := ".acme.Line"
  name := "Line"
  oneofs := []
  fields := [.ofDescriptor (plainField "order" (.message "acme.Order")),
    .ofDescriptor noteDescriptor]

def orderPool : Pool := ⟨[orderMessage, lineMessage], [], [".acme.Order", ".acme.Line"]⟩

theorem orderPool_built : Pool.ofSet orderSet = .ok orderPool := by
  simp only [Pool.ofSet, orderSet, DescriptorSet.declarations, messageDeclarations,
    enumDeclarations, List.flatMap_cons, List.flatMap_nil]
  rfl

/-- The order itself has no rules, but it has no document because of those of its lines. -/
theorem order_no_document :
    orderMessage ∈ orderPool.messages ∧ ¬ ∃ d, document orderPool orderMessage = .ok d := by
  have hmem : orderMessage ∈ orderPool.messages := List.mem_cons_self
  refine ⟨hmem, fun hdocument => ?_⟩
  have hlinks : (Target.message orderMessage).links orderPool = [.message lineMessage] := rfl
  have hline : Reaches orderPool (.message orderMessage) (.message lineMessage) :=
    .single (by rw [hlinks]; exact List.mem_singleton_self _)
  have hnote : FieldWellFormed orderPool (.ofDescriptor noteDescriptor) :=
    (document_ok_iff orderPool_built hmem).1 hdocument lineMessage hline _
      (List.mem_cons_of_mem _ List.mem_cons_self)
  obtain ⟨o, ho, htakes⟩ := hnote
  have hrules : (Field.ofDescriptor noteDescriptor).constraints.inForce.rules =
      .ok (some (.bool {})) := rfl
  cases hrules.symm.trans ho
  exact htakes _ rfl

end Generation

end ProtoSchema
