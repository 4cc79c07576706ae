import ProtoSchema.Proofs.Constraint.Rules
import ProtoSchema.Proofs.Generation.Spots

/-!
# What the draft of a field comes to

A draft stays within the field that it is for: the messages that it uses are embedded there, and
where it fails, the field or the part of it that is drafted is at fault, in the way that the cause
tells.
-/

namespace ProtoSchema.Generation

open Draft

/-! ## 1. What drafts come to -/

variable {p : Pool} {α β ε : Type}

namespace Draft

/-- All that the draft uses has a property, and so has the fault with which it may end. -/
structure Meets (P : Use → Prop) (Q : Fault → Prop) (d : Draft α) : Prop where
  uses : ∀ u ∈ d.uses, P u
  fault : ∀ f, d.result = .error f → Q f

variable {P : Use → Prop} {Q : Fault → Prop}

theorem meets_pure (x : α) : Meets P Q (pure x) where
  uses := by
    rintro u ⟨⟩
  fault := by
    rintro f ⟨⟩

theorem meets_fail {cause : Cause} (h : Q ⟨[], cause⟩) : Meets P Q (fail cause : Draft α) where
  uses := by
    rintro u ⟨⟩
  fault := by
    rintro f ⟨⟩
    exact h

theorem meets_ofExcept {r : Except ε α} {cause : ε → Cause}
    (h : ∀ e, r = .error e → Q ⟨[], cause e⟩) : Meets P Q (ofExcept r cause) := by
  cases r with
  | error e => exact meets_fail (h e rfl)
  | ok x => exact meets_pure x

theorem meets_reference {t : Target} (h : P ⟨t, []⟩) : Meets P Q (reference t) where
  uses := by
    intro u hu
    rw [List.mem_singleton.1 hu]
    exact h
  fault := by
    rintro f ⟨⟩

theorem Meets.bind {d : Draft α} {f : α → Draft β} (hd : Meets P Q d)
    (hf : ∀ x, d.result = .ok x → Meets P Q (f x)) : Meets P Q (d >>= f) := by
  show Meets P Q (d.andThen f)
  cases h : d.result with
  | error e =>
    rw [andThen_error h]
    refine ⟨hd.uses, ?_⟩
    rintro _ ⟨⟩
    exact hd.fault e h
  | ok x =>
    rw [andThen_ok h]
    exact ⟨List.forall_mem_append.2 ⟨hd.uses, (hf x h).uses⟩, (hf x h).fault⟩

theorem Meets.inside {segment : String} {d : Draft α}
    (h : Meets (fun u => P { u with path := segment :: u.path })
      (fun f => Q { f with path := segment :: f.path }) d) : Meets P Q (d.inside segment) where
  uses := by
    intro u hu
    obtain ⟨v, hv, rfl⟩ := List.mem_map.1 hu
    exact h.uses v hv
  fault := by
    intro f hf
    change d.result.mapError _ = _ at hf
    cases hd : d.result with
    | ok x =>
      rw [hd] at hf
      cases hf
    | error e =>
      rw [hd] at hf
      cases hf
      exact h.fault e hd

theorem meets_mapM {f : α → Draft β} {xs : List α} (h : ∀ x ∈ xs, Meets P Q (f x)) :
    Meets P Q (xs.mapM f) := by
  induction xs with
  | nil =>
    rw [List.mapM_nil]
    exact meets_pure []
  | cons x xs ih =>
    obtain ⟨hhead, htail⟩ := List.forall_mem_cons.1 h
    rw [List.mapM_cons]
    exact hhead.bind fun y _ => (ih htail).bind fun ys _ => meets_pure _

theorem meets_option {f : α → Draft β} {o : Option α} (h : ∀ x ∈ o, Meets P Q (f x)) :
    Meets P Q (o.mapM f) := by
  cases o with
  | none =>
    rw [Option.mapM_none]
    exact meets_pure none
  | some x =>
    rw [Option.mapM_some, map_eq_pure_bind]
    exact (h x rfl).bind fun y _ => meets_pure _

theorem Meets.imp {P' : Use → Prop} {Q' : Fault → Prop} {d : Draft α} (h : Meets P Q d)
    (hP : ∀ u, P u → P' u) (hQ : ∀ f, Q f → Q' f) : Meets P' Q' d :=
  ⟨fun u hu => hP u (h.uses u hu), fun f hf => hQ f (h.fault f hf)⟩

end Draft

/-- The draft stays at a spot: a message that it uses is embedded there, and its fault is one of the
spot. -/
def StaysAt (p : Pool) (s : Spot) (d : Draft α) : Prop :=
  Meets (fun u => u.path = [] ∧ ∀ m, u.target = .message m → Embeds p s.type m)
    (fun f => f.path = [] ∧ AtFault p s f.cause) d

/-! ## 2. Drafts of leaves -/

section Rules

variable {s : Spot}

theorem staysAt_fail {cause : Cause} (h : AtFault p s cause) :
    StaysAt p s (fail cause : Draft α) :=
  meets_fail ⟨rfl, h⟩

theorem staysAt_reference {t : Target} (h : ∀ m, t = .message m → Embeds p s.type m) :
    StaysAt p s (reference t) :=
  meets_reference ⟨rfl, h⟩

theorem staysAt_rulesOf : StaysAt p s (rulesOf s.constraints) :=
  meets_ofExcept fun _ he => ⟨rfl, .rules he⟩

/-- Rules that are not selected are those of another type. -/
theorem staysAt_rulesFor {target key : String} {select : Rules → Option α}
    (htarget : target = title s.type) (hkey : rulesKey? s.type = some key)
    (hselect : ∀ r, r.name = key → select r ≠ none) :
    StaysAt p s (rulesFor target select s.constraints) := by
  refine staysAt_rulesOf.bind fun o ho => ?_
  cases o with
  | none => exact meets_pure none
  | some r =>
    dsimp only
    cases hr : select r with
    | some x => exact meets_pure _
    | none =>
      subst htarget
      refine staysAt_fail (.misapplied (result_rulesOf.1 ho) fun h => ?_)
      exact hselect r (Option.some.inj (h.symm.trans hkey)) hr

theorem staysAt_noRules {target : String} (htarget : target = title s.type)
    (hnone : rulesKey? s.type = none) : StaysAt p s (noRules target s.constraints) := by
  refine staysAt_rulesOf.bind fun o ho => ?_
  cases o with
  | none => exact meets_pure _
  | some r =>
    subst htarget
    refine staysAt_fail (.misapplied (result_rulesOf.1 ho) ?_)
    rw [hnone]
    exact (Option.some_ne_none _).symm

theorem staysAt_stringSchema {r : StringRules} (hr : s.RuledBy (.string r)) :
    StaysAt p s (stringSchema r) := by
  refine Meets.bind ?_ fun given _ => meets_pure _
  unfold rulePattern
  cases hpattern : r.pattern with
  | none => exact meets_pure _
  | some text =>
    refine Meets.bind (meets_ofExcept fun fault h => ?_) fun e _ => meets_pure _
    exact ⟨rfl, .pattern hr hpattern h⟩

theorem numericName_injective : Function.Injective NumericKind.name := by
  intro k k' h
  cases k <;> cases k' <;> first | rfl | exact absurd h (by decide)

/-- No kind of numbers bears the name of other rules. -/
theorem numericName_ne (kind : NumericKind) :
    kind.name ≠ "bool" ∧ kind.name ≠ "string" ∧ kind.name ≠ "bytes" ∧ kind.name ≠ "enum" ∧
      kind.name ≠ "repeated" ∧ kind.name ≠ "map" ∧ kind.name ≠ "any" ∧ kind.name ≠ "duration" ∧
      kind.name ≠ "timestamp" := by
  cases kind <;> decide

/-- A type that takes the rules of a scalar and bears its name is drafted as the scalar. -/
theorem staysAt_strictScalar {kind : ScalarKind} (hkey : rulesKey? s.type = some kind.name)
    (htitle : title s.type = kind.name) :
    StaysAt p s (strictScalarSchema kind s.constraints) := by
  refine staysAt_rulesOf.bind fun o ho => ?_
  have htold := result_rulesOf.1 ho
  cases o with
  | none => cases kind <;> exact meets_pure _
  | some r =>
    have hother (hname : r.name ≠ kind.name) :
        StaysAt p s (fail (.misapplied r.name kind.name) : Draft Schema) := by
      rw [← htitle]
      refine staysAt_fail (.misapplied htold fun h => hname ?_)
      exact Option.some.inj (h.symm.trans hkey)
    cases kind with
    | bool =>
      cases r with
      | bool r => exact meets_pure _
      | _ => exact hother (by simp [Rules.name, ScalarKind.name, numericName_ne])
    | bytes =>
      cases r with
      | bytes r => exact meets_pure _
      | _ => exact hother (by simp [Rules.name, ScalarKind.name, numericName_ne])
    | string =>
      cases r with
      | string r => exact staysAt_stringSchema ⟨htold, hkey⟩
      | _ => exact hother (by simp [Rules.name, ScalarKind.name, numericName_ne])
    | numeric kind =>
      cases r with
      | numeric given bounds =>
        change StaysAt p s (if given = kind then pure _ else fail _)
        split
        next => exact meets_pure _
        next hkind => exact hother fun h => hkind (numericName_injective h)
      | _ => exact hother (Ne.symm (by simp [Rules.name, ScalarKind.name, numericName_ne]))

/-- The rules that a scalar skips for the default are told a second time, with the same result. -/
theorem staysAt_scalar {kind : ScalarKind} (hkey : rulesKey? s.type = some kind.name)
    (htitle : title s.type = kind.name) : StaysAt p s (scalarSchema kind s.constraints) := by
  refine (staysAt_strictScalar hkey htitle).bind fun _ _ => staysAt_rulesOf.bind fun o _ => ?_
  split
  · exact meets_pure _
  · exact meets_pure _

theorem staysAt_durationSchema {o : Option DurationRules}
    (hr : ∀ r ∈ o, s.RuledBy (.duration r)) : StaysAt p s (durationSchema o) := by
  have htext : ∀ d ∈ (o.getD {}).equals.toList ++ (o.getD {}).allow ++ (o.getD {}).deny,
      StaysAt p s (durationText d) := by
    intro d hd
    refine meets_ofExcept fun fault h => ⟨rfl, ?_⟩
    cases o with
    | none => cases hd
    | some r => exact .duration (hr r rfl) hd h
  rw [List.forall_mem_append, List.forall_mem_append] at htext
  obtain ⟨⟨hequals, hallow⟩, hdeny⟩ := htext
  refine (meets_option fun d hd => hequals d (Option.mem_toList.2 hd)).bind fun _ _ => ?_
  exact (meets_mapM hallow).bind fun _ _ => (meets_mapM hdeny).bind fun _ _ => meets_pure _

theorem staysAt_timestampSchema {o : Option TimestampRules}
    (hr : ∀ r ∈ o, s.RuledBy (.timestamp r)) : StaysAt p s (timestampSchema o) := by
  refine (meets_option fun t ht => meets_ofExcept fun fault h => ?_).bind fun _ _ => meets_pure _
  obtain ⟨r, hr', ht⟩ := Option.mem_bind_iff.1 ht
  exact ⟨rfl, .timestamp (hr r hr') ht h⟩

/-- Rules that are selected by their sort are those that the type takes. -/
theorem ruledBy_of_result {target : String} {select : Rules → Option α} (wrap : α → Rules)
    (hselect : ∀ r x, select r = some x ↔ r = wrap x)
    (hkey : ∀ x, rulesKey? s.type = some (wrap x).name) {o : Option α}
    (h : (rulesFor target select s.constraints).result = .ok o) : ∀ x ∈ o, s.RuledBy (wrap x) := by
  rintro x rfl
  exact ⟨(result_rulesFor wrap hselect).1 h, hkey x⟩

theorem staysAt_shared {t : SharedType} (htitle : t.wellKnown.key = title s.type)
    (hnone : rulesKey? s.type = none) : StaysAt p s (sharedSchema t s.constraints) :=
  (staysAt_noRules htitle hnone).bind fun _ _ => staysAt_reference fun _ h => by cases h

theorem staysAt_wellKnown {name : String} {t : WellKnownType} {c : FieldConstraints}
    (hname : WellKnownType.ofName? name = some t) :
    StaysAt p ⟨.message name, c⟩ (wellKnownSchema t c) := by
  let s : Spot := ⟨.message name, c⟩
  have htitle : title s.type = ((wrapped? t).map (·.name)).getD t.key := by
    simp only [s, title, hname]
  have hrules : rulesKey? s.type = wellKnownRulesKey? t := by
    simp only [s, rulesKey?, hname, Option.bind_some]
  cases t with
  | any =>
    have hkey : rulesKey? s.type = some "any" := hrules
    refine Meets.bind (staysAt_rulesFor (s := s) htitle.symm hkey ?_) fun o _ => ?_
    · intro r
      cases r <;> simp [Rules.name, numericName_ne]
    · refine Meets.bind (staysAt_reference ?_) fun _ _ => meets_pure _
      rintro m ⟨⟩
  | duration =>
    have hkey : rulesKey? s.type = some "duration" := hrules
    refine Meets.bind (staysAt_rulesFor (s := s) htitle.symm hkey ?_) fun o ho => ?_
    · intro r
      cases r <;> simp [Rules.name, numericName_ne]
    · exact staysAt_durationSchema
        (ruledBy_of_result .duration (fun r x => by cases r <;> simp) (fun _ => hkey) ho)
  | timestamp =>
    have hkey : rulesKey? s.type = some "timestamp" := hrules
    refine Meets.bind (staysAt_rulesFor (s := s) htitle.symm hkey ?_) fun o ho => ?_
    · intro r
      cases r <;> simp [Rules.name, numericName_ne]
    · exact staysAt_timestampSchema
        (ruledBy_of_result .timestamp (fun r x => by cases r <;> simp) (fun _ => hkey) ho)
  | empty | listValue | struct | value =>
    exact staysAt_shared (s := s) htitle.symm hrules
  | boolValue | bytesValue | stringValue | doubleValue | floatValue | int32Value | int64Value
  | uint32Value | uint64Value =>
    exact staysAt_strictScalar (s := s) hrules htitle

theorem staysAt_ruleName {name : String} {c : FieldConstraints} {e : EnumType} {r : EnumRules}
    {number : Int} (he : p.enum? name = some e)
    (hr : Spot.RuledBy ⟨.enum name, c⟩ (.enumeration r)) (hasked : number ∈ asked r) :
    StaysAt p ⟨.enum name, c⟩ (ruleName e number) := by
  unfold ruleName
  split
  next => exact meets_pure _
  next hnumber =>
    refine staysAt_fail (.unknownEnumValue he hr hasked fun h => ?_)
    obtain ⟨first, hfirst⟩ := EnumType.exists_firstName.2 h
    exact Option.some_ne_none _ (hfirst.symm.trans hnumber)

theorem staysAt_allowedNames {name : String} {c : FieldConstraints} {e : EnumType} {r : EnumRules}
    (he : p.enum? name = some e) (hr : Spot.RuledBy ⟨.enum name, c⟩ (.enumeration r)) :
    StaysAt p ⟨.enum name, c⟩ (allowedNames e r) := by
  have hnames : ∀ number ∈ asked r, StaysAt p ⟨.enum name, c⟩ (ruleName e number) :=
    fun _ hasked => staysAt_ruleName he hr hasked
  unfold asked at hnames
  unfold allowedNames
  cases hequals : r.equals with
  | some number =>
    rw [hequals] at hnames
    exact (hnames number (List.mem_singleton_self _)).bind fun _ _ => meets_pure _
  | none =>
    rw [hequals] at hnames
    dsimp only
    split
    · exact (meets_mapM hnames).bind fun _ _ => meets_pure _
    · split
      · exact meets_pure _
      · exact meets_pure _

theorem staysAt_enum {name : String} {c : FieldConstraints} :
    StaysAt p ⟨.enum name, c⟩ (enumSchema p name c) := by
  let s : Spot := ⟨.enum name, c⟩
  have hreference (e : EnumType) : StaysAt p s (reference (.enum e)) :=
    staysAt_reference fun m h => by cases h
  unfold enumSchema
  cases he : p.enum? name with
  | none => exact staysAt_fail (.unresolvedEnum he)
  | some e =>
    refine Meets.bind (staysAt_rulesFor (s := s) rfl rfl ?_) fun o ho => ?_
    · intro r
      cases r <;> simp [Rules.name, numericName_ne]
    · have hruled := ruledBy_of_result (s := s) .enumeration (fun r x => by cases r <;> simp)
        (fun _ => rfl) ho
      cases o with
      | none => exact hreference e
      | some r =>
        refine Meets.bind (staysAt_allowedNames he (hruled r rfl)) fun allowed _ => ?_
        cases allowed with
        | none => exact hreference e
        | some names =>
          cases e.firstName? 0 with
          | none => exact meets_pure _
          | some zero => exact meets_pure _

theorem staysAt_embedded {name : String} {c : FieldConstraints} :
    StaysAt p ⟨.message name, c⟩ (embeddedSchema p name c) := by
  let s : Spot := ⟨.message name, c⟩
  unfold embeddedSchema
  cases hname : WellKnownType.ofName? name with
  | some t => exact staysAt_wellKnown hname
  | none =>
    cases hm : p.message? name with
    | none => exact staysAt_fail (.unresolvedMessage hname hm)
    | some m =>
      have htitle : title s.type = "message" := by simp only [s, title, hname]
      have hkey : rulesKey? s.type = none := by
        simp only [s, rulesKey?, hname, Option.bind_none]
      refine Meets.bind (staysAt_noRules (s := s) htitle.symm hkey) fun _ _ => ?_
      refine staysAt_reference fun m' h => ?_
      cases h
      exact ⟨name, rfl, hname, hm⟩

theorem staysAt_element {t : ElementType} {c : FieldConstraints} :
    StaysAt p ⟨elementType t, c⟩ (elementSchema p t c) := by
  cases t with
  | scalar kind => exact staysAt_scalar (s := ⟨.scalar kind, c⟩) rfl rfl
  | enum name => exact staysAt_enum
  | message name => exact staysAt_embedded

end Rules

/-! ## 3. Drafts of fields -/

/-- Within a field the draft stays at the field or at one of its parts. -/
def StaysWithin (p : Pool) (f : Field) (d : Draft α) : Prop :=
  Meets
    (fun u => ∃ part s, spot? f part = some s ∧ u.path = (part.map FieldPart.segment).toList ∧
      ∀ m, u.target = .message m → Embeds p s.type m)
    (fun fault => ∃ part s, spot? f part = some s ∧
      fault.path = (part.map FieldPart.segment).toList ∧ AtFault p s fault.cause) d

theorem StaysAt.staysWithin {f : Field} {d : Draft α}
    (h : StaysAt p ⟨f.type, f.constraints.inForce⟩ d) : StaysWithin p f d :=
  h.imp (fun _ ⟨hpath, hm⟩ => ⟨none, _, rfl, hpath, hm⟩)
    (fun _ ⟨hpath, hfault⟩ => ⟨none, _, rfl, hpath, hfault⟩)

theorem StaysAt.inside {f : Field} {d : Draft α} {s : Spot} (part : FieldPart)
    (h : StaysAt p s d) (hs : spot? f (some part) = some s) :
    StaysWithin p f (d.inside part.segment) := by
  refine Meets.inside (h.imp ?_ ?_)
  · rintro u ⟨hpath, hm⟩
    exact ⟨some part, s, hs, congrArg (part.segment :: ·) hpath, hm⟩
  · rintro fault ⟨hpath, hfault⟩
    exact ⟨some part, s, hs, congrArg (part.segment :: ·) hpath, hfault⟩

section Fields

variable {f : Field}

/-- The rules of a field that has parts, told as what they say of its parts. -/
theorem staysWithin_repeated {item : ElementType} (htype : f.type = .repeated item) :
    StaysWithin p f (repeatedSchema p item f.constraints.inForce) := by
  let s : Spot := ⟨f.type, f.constraints.inForce⟩
  have htitle : "repeated" = title s.type := by simp only [s, htype, title]
  have hkey : rulesKey? s.type = some "repeated" := by simp only [s, htype, rulesKey?]
  refine Meets.bind (StaysAt.staysWithin (staysAt_rulesFor (s := s) htitle hkey ?_)) ?_
  · intro r
    cases r <;> simp [Rules.name, numericName_ne]
  · intro o ho
    have hrules : f.constraints.inForce.repeated = o := FieldConstraints.repeated_eq_of_rules
      ((result_rulesFor .repeated (fun r x => by cases r <;> simp)).1 ho)
    refine Meets.bind (StaysAt.inside .items staysAt_element ?_) fun _ _ => meets_pure _
    rw [spot?_items htype, hrules]
    cases o <;> rfl

theorem staysWithin_key {key : ScalarKind} {value : ElementType} (htype : f.type = .map key value)
    {o : Option (MapRules FieldConstraints)} (hrules : f.constraints.inForce.map = o) :
    StaysWithin p f (keySchema key (o.bind (·.keys))) := by
  cases hkeys : o.bind (·.keys) with
  | none => exact meets_pure _
  | some c =>
    let s : Spot := ⟨.scalar key, c.inForce⟩
    have hdraft : StaysAt p s (scalarSchema key c.inForce) := staysAt_scalar rfl rfl
    refine Meets.bind (StaysAt.inside .keys hdraft ?_) fun _ _ => meets_pure _
    rw [spot?_keys htype, hrules, hkeys]
    rfl

theorem staysWithin_map {key : ScalarKind} {value : ElementType} (htype : f.type = .map key value) :
    StaysWithin p f (mapSchema p key value f.constraints.inForce) := by
  let s : Spot := ⟨f.type, f.constraints.inForce⟩
  unfold mapSchema
  cases hkind : key.isMapKey with
  | false =>
    have hfault : AtFault p s (.mapKey key) := by
      simp only [s, htype]
      exact .mapKey hkind
    refine Meets.bind (StaysAt.staysWithin (staysAt_fail hfault)) ?_
    rintro _ ⟨⟩
  | true =>
    have htitle : "map" = title s.type := by simp only [s, htype, title]
    have hkey : rulesKey? s.type = some "map" := by simp only [s, htype, rulesKey?]
    refine Meets.bind (StaysAt.staysWithin (staysAt_rulesFor (s := s) htitle hkey ?_)) ?_
    · intro r
      cases r <;> simp [Rules.name, numericName_ne]
    · intro o ho
      have hrules : f.constraints.inForce.map = o := FieldConstraints.map_eq_of_rules
        ((result_rulesFor .map (fun r x => by cases r <;> simp)).1 ho)
      refine Meets.bind (StaysAt.inside .values staysAt_element ?_) fun values _ => ?_
      · rw [spot?_values htype, hrules]
        cases o <;> rfl
      · have hgiven : (o.getD {}).keys = o.bind (·.keys) := by cases o <;> rfl
        rw [hgiven]
        exact (staysWithin_key htype hrules).bind fun _ _ => meets_pure _

theorem staysWithin_field : StaysWithin p f (fieldSchema p f) := by
  unfold fieldSchema
  cases htype : f.type with
  | scalar kind =>
    exact StaysAt.staysWithin (staysAt_scalar (by rw [htype]; rfl) (by rw [htype]; rfl))
  | enum name =>
    apply StaysAt.staysWithin
    rw [htype]
    exact staysAt_enum
  | message name =>
    apply StaysAt.staysWithin
    rw [htype]
    exact staysAt_embedded
  | map key value => exact staysWithin_map htype
  | repeated item => exact staysWithin_repeated htype

end Fields

end ProtoSchema.Generation
