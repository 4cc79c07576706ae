import ProtoSchema.Proofs.Generation.Walk

/-!
# What a draft depends on

A draft looks up the names that its type mentions and no others.  So pools that agree on these names
give the same draft.  Whether or not it succeeds, all that it uses is what these names stand for, or
shared.
-/

namespace ProtoSchema

/-! ## 1. Names that a message leads to -/

/-- A mention of a declared type. -/
inductive Mention
  | message (name : String)
  | enum (name : String)
deriving DecidableEq

/-- The full name of the type. -/
def Mention.fullName : Mention → String
  | message name => TypeName.inFull name
  | enum name => TypeName.inFull name

/-- The types that an item or a value mentions.  The name of a well-known type is no mention of a
declared one. -/
def ElementType.mentions : ElementType → List Mention
  | scalar _ => []
  | enum name => [.enum name]
  | message name => if (WellKnownType.ofName? name).isSome then [] else [.message name]

/-- The types that a field mentions. -/
def FieldType.mentions : FieldType → List Mention
  | scalar _ => []
  | enum name => ElementType.mentions (.enum name)
  | message name => ElementType.mentions (.message name)
  | map _ value => value.mentions
  | repeated item => item.mentions

def Message.mentions (m : Message) : List Mention := m.fields.flatMap (·.type.mentions)

namespace Pool

/-- The message of the first name mentions the second type. -/
inductive Mentions (p : Pool) : Mention → Mention → Prop
  | intro {name : String} {m : Message} {next : Mention} (hm : p.message? name = some m)
      (hnext : next ∈ m.mentions) : Mentions p (.message name) next

/-- One type leads to another by any number of mentions. -/
def LeadsTo (p : Pool) : Mention → Mention → Prop := Relation.ReflTransGen p.Mentions

/-- Both pools declare the type with the same content, or neither declares it. -/
def Agree (p q : Pool) : Mention → Prop
  | .message name => p.message? name = q.message? name
  | .enum name => p.enum? name = q.enum? name

end Pool

namespace Generation

open Draft

variable {p q : Pool} {α β : Type}

def Target.mentions : Target → List Mention
  | message m => m.mentions
  | enum _ | shared _ => []

/-! ## 2. Drafts in pools that agree -/

theorem enumSchema_congr {name : String} (h : p.Agree q (.enum name)) (c : FieldConstraints) :
    enumSchema p name c = enumSchema q name c := by
  unfold enumSchema
  rw [show p.enum? name = q.enum? name from h]

theorem embeddedSchema_congr {name : String}
    (h : ∀ r ∈ ElementType.mentions (.message name), p.Agree q r) (c : FieldConstraints) :
    embeddedSchema p name c = embeddedSchema q name c := by
  unfold embeddedSchema
  cases hname : WellKnownType.ofName? name with
  | some t => rfl
  | none =>
    have hmention : Mention.message name ∈ ElementType.mentions (.message name) := by
      rw [ElementType.mentions, hname]
      exact List.mem_singleton_self _
    rw [show p.message? name = q.message? name from h _ hmention]

theorem elementSchema_congr {t : ElementType} (h : ∀ r ∈ t.mentions, p.Agree q r)
    (c : FieldConstraints) : elementSchema p t c = elementSchema q t c := by
  cases t with
  | scalar kind => rfl
  | enum name => exact enumSchema_congr (h _ (List.mem_singleton_self _)) c
  | message name => exact embeddedSchema_congr h c

theorem fieldSchema_congr {f : Field} (h : ∀ r ∈ f.type.mentions, p.Agree q r) :
    fieldSchema p f = fieldSchema q f := by
  unfold fieldSchema
  generalize f.type = t at h
  cases t with
  | scalar kind => rfl
  | enum name => exact enumSchema_congr (h _ (List.mem_singleton_self _)) _
  | message name => exact embeddedSchema_congr h _
  | map key value =>
    show mapSchema p key value _ = mapSchema q key value _
    simp only [mapSchema, elementSchema_congr h]
  | repeated item =>
    show repeatedSchema p item _ = repeatedSchema q item _
    simp only [repeatedSchema, elementSchema_congr h]

/-- Steps that do the same for each element of a list do the same for the list. -/
theorem mapM_congr {m : Type → Type} [Monad m] [LawfulMonad m] {f g : α → m β} {xs : List α}
    (h : ∀ x ∈ xs, f x = g x) : xs.mapM f = xs.mapM g := by
  induction xs with
  | nil => rfl
  | cons x xs ih =>
    obtain ⟨hhead, htail⟩ := List.forall_mem_cons.1 h
    rw [List.mapM_cons, List.mapM_cons, hhead, ih htail]

theorem messageSchema_congr {m : Message} (h : ∀ r ∈ m.mentions, p.Agree q r) :
    messageSchema p m = messageSchema q m := by
  have hproperties : m.fields.mapM (property p) = m.fields.mapM (property q) := by
    apply mapM_congr
    intro f hf
    unfold property
    rw [fieldSchema_congr fun r hr => h r (List.mem_flatMap.2 ⟨f, hf, hr⟩)]
  unfold messageSchema
  rw [hproperties]

theorem Target.draft_congr {t : Target} (h : ∀ r ∈ t.mentions, p.Agree q r) :
    t.draft p = t.draft q := by
  cases t with
  | message m =>
    show (messageSchema p m).inside _ = (messageSchema q m).inside _
    rw [messageSchema_congr h]
  | enum e => rfl
  | shared s => rfl

/-! ## 3. What drafts use -/

namespace Draft

/-- All that the draft uses has a property, whether or not the draft succeeds. -/
def UsesOnly (P : Target → Prop) (d : Draft α) : Prop := ∀ u ∈ d.uses, P u.target

variable {P : Target → Prop}

theorem usesOnly_pure (x : α) : UsesOnly P (pure x) := by
  rintro u ⟨⟩

theorem usesOnly_fail (cause : Cause) : UsesOnly P (fail cause : Draft α) := by
  rintro u ⟨⟩

theorem usesOnly_ofExcept {ε : Type} (r : Except ε α) (cause : ε → Cause) :
    UsesOnly P (ofExcept r cause) := by
  cases r with
  | error e => exact usesOnly_fail (cause e)
  | ok x => exact usesOnly_pure x

theorem usesOnly_reference {t : Target} (h : P t) : UsesOnly P (reference t) := by
  intro u hu
  rw [List.mem_singleton.1 hu]
  exact h

theorem UsesOnly.bind {d : Draft α} {f : α → Draft β} (hd : UsesOnly P d)
    (hf : ∀ x, UsesOnly P (f x)) : UsesOnly P (d >>= f) := by
  show UsesOnly P (d.andThen f)
  cases h : d.result with
  | error e =>
    rw [andThen_error h]
    exact hd
  | ok x =>
    rw [andThen_ok h]
    exact List.forall_mem_append.2 ⟨hd, hf x⟩

theorem UsesOnly.inside {segment : String} {d : Draft α} (h : UsesOnly P d) :
    UsesOnly P (d.inside segment) := by
  intro u hu
  obtain ⟨v, hv, rfl⟩ := List.mem_map.1 hu
  exact h v hv

theorem usesOnly_mapM {f : α → Draft β} {xs : List α} (h : ∀ x ∈ xs, UsesOnly P (f x)) :
    UsesOnly P (xs.mapM f) := by
  induction xs with
  | nil =>
    rw [List.mapM_nil]
    exact usesOnly_pure []
  | cons x xs ih =>
    obtain ⟨hhead, htail⟩ := List.forall_mem_cons.1 h
    rw [List.mapM_cons]
    exact hhead.bind fun y => (ih htail).bind fun ys => usesOnly_pure _

theorem usesOnly_option {f : α → Draft β} (h : ∀ x, UsesOnly P (f x)) (o : Option α) :
    UsesOnly P (o.mapM f) := by
  cases o with
  | none =>
    rw [Option.mapM_none]
    exact usesOnly_pure none
  | some x =>
    rw [Option.mapM_some, map_eq_pure_bind]
    exact (h x).bind fun y => usesOnly_pure _

end Draft

section Silent

variable {P : Target → Prop}

theorem usesOnly_rulesOf (c : FieldConstraints) : UsesOnly P (rulesOf c) := usesOnly_ofExcept _ _

theorem usesOnly_rulesFor (target : String) (select : Rules → Option α) (c : FieldConstraints) :
    UsesOnly P (rulesFor target select c) := by
  refine .bind (usesOnly_rulesOf c) fun o => ?_
  cases o with
  | none => exact usesOnly_pure none
  | some r =>
    dsimp only
    cases select r with
    | none => exact usesOnly_fail _
    | some x => exact usesOnly_pure _

theorem usesOnly_noRules (target : String) (c : FieldConstraints) :
    UsesOnly P (noRules target c) := by
  refine .bind (usesOnly_rulesOf c) fun o => ?_
  cases o with
  | none => exact usesOnly_pure _
  | some r => exact usesOnly_fail _

theorem usesOnly_stringSchema (r : StringRules) : UsesOnly P (stringSchema r) := by
  unfold stringSchema rulePattern
  cases r.pattern with
  | none => exact (usesOnly_pure _).bind fun patterns => usesOnly_pure _
  | some pattern =>
    refine .bind ?_ fun patterns => usesOnly_pure _
    exact .bind (usesOnly_ofExcept _ _) fun e => usesOnly_pure _

theorem usesOnly_strictScalar (kind : ScalarKind) (c : FieldConstraints) :
    UsesOnly P (strictScalarSchema kind c) := by
  refine .bind (usesOnly_rulesOf c) fun o => ?_
  split
  case h_6 r => exact usesOnly_stringSchema r
  case h_8 given bounds =>
    split
    · exact usesOnly_pure _
    · exact usesOnly_fail _
  case h_9 r _ _ _ _ => exact usesOnly_fail _
  all_goals exact usesOnly_pure _

theorem usesOnly_scalar (kind : ScalarKind) (c : FieldConstraints) :
    UsesOnly P (scalarSchema kind c) := by
  refine .bind (usesOnly_strictScalar kind c) fun s => .bind (usesOnly_rulesOf c) fun o => ?_
  split
  · exact usesOnly_pure _
  · exact usesOnly_pure _

theorem usesOnly_ruleName (e : EnumType) (number : Int) : UsesOnly P (ruleName e number) := by
  unfold ruleName
  split
  · exact usesOnly_pure _
  · exact usesOnly_fail _

theorem usesOnly_allowedNames (e : EnumType) (r : EnumRules) : UsesOnly P (allowedNames e r) := by
  unfold allowedNames
  split
  · exact .bind (usesOnly_ruleName e _) fun name => usesOnly_pure _
  · split
    · refine .bind (usesOnly_mapM fun number _ => usesOnly_ruleName e number) fun names => ?_
      exact usesOnly_pure _
    · split
      · exact usesOnly_pure _
      · exact usesOnly_pure _

theorem usesOnly_durationSchema (o : Option DurationRules) : UsesOnly P (durationSchema o) := by
  have htext : ∀ d, UsesOnly P (durationText d) := fun d => usesOnly_ofExcept _ _
  refine .bind (usesOnly_option htext _) fun equals => ?_
  refine .bind (usesOnly_mapM fun d _ => htext d) fun allow => ?_
  exact .bind (usesOnly_mapM fun d _ => htext d) fun deny => usesOnly_pure _

theorem usesOnly_timestampSchema (o : Option TimestampRules) :
    UsesOnly P (timestampSchema o) :=
  .bind (usesOnly_option (fun _ => usesOnly_ofExcept _ _) _) fun _ => usesOnly_pure _

end Silent

/-- The type is what a mention stands for in the pool, or it is shared. -/
inductive Target.StandsFor (p : Pool) (mentions : Mention → Prop) : Target → Prop
  | message {name : String} {m : Message} (h : mentions (.message name))
      (hm : p.message? name = some m) : StandsFor p mentions (.message m)
  | enum {name : String} {e : EnumType} (h : mentions (.enum name))
      (he : p.enum? name = some e) : StandsFor p mentions (.enum e)
  | shared (t : SharedType) : StandsFor p mentions (.shared t)

theorem Target.StandsFor.known {mentions : Mention → Prop} {t : Target}
    (h : t.StandsFor p mentions) : t.Known p := by
  cases h with
  | message _ hm => exact List.mem_of_find?_eq_some hm
  | enum _ he => exact List.mem_of_find?_eq_some he
  | shared t => exact trivial

section Mentioned

variable {mentions : Mention → Prop}

theorem usesOnly_enum {name : String} (h : mentions (.enum name)) (c : FieldConstraints) :
    UsesOnly (Target.StandsFor p mentions) (enumSchema p name c) := by
  unfold enumSchema
  cases he : p.enum? name with
  | none => exact usesOnly_fail _
  | some e =>
    refine .bind (usesOnly_rulesFor _ _ c) fun rules => ?_
    cases rules with
    | none => exact usesOnly_reference (.enum h he)
    | some r =>
      refine .bind (usesOnly_allowedNames e r) fun allowed => ?_
      cases allowed with
      | none => exact usesOnly_reference (.enum h he)
      | some s =>
        cases e.firstName? 0 with
        | none => exact usesOnly_pure _
        | some zero => exact usesOnly_pure _

theorem usesOnly_shared (t : SharedType) (c : FieldConstraints) :
    UsesOnly (Target.StandsFor p mentions) (sharedSchema t c) :=
  .bind (usesOnly_noRules _ c) fun _ => usesOnly_reference (.shared t)

theorem usesOnly_wellKnown (t : WellKnownType) (c : FieldConstraints) :
    UsesOnly (Target.StandsFor p mentions) (wellKnownSchema t c) := by
  cases t with
  | any =>
    refine .bind (usesOnly_rulesFor _ _ c) fun o => ?_
    exact .bind (usesOnly_reference (.shared .any)) fun s => usesOnly_pure _
  | duration => exact .bind (usesOnly_rulesFor _ _ c) usesOnly_durationSchema
  | timestamp => exact .bind (usesOnly_rulesFor _ _ c) usesOnly_timestampSchema
  | empty | listValue | struct | value => exact usesOnly_shared _ c
  | boolValue | bytesValue | stringValue | doubleValue | floatValue | int32Value | int64Value
  | uint32Value | uint64Value => exact usesOnly_strictScalar _ c

theorem usesOnly_embedded {name : String}
    (h : ∀ r ∈ ElementType.mentions (.message name), mentions r) (c : FieldConstraints) :
    UsesOnly (Target.StandsFor p mentions) (embeddedSchema p name c) := by
  unfold embeddedSchema
  cases hname : WellKnownType.ofName? name with
  | some t => exact usesOnly_wellKnown t c
  | none =>
    rw [ElementType.mentions, hname] at h
    cases hm : p.message? name with
    | none => exact usesOnly_fail _
    | some m =>
      refine .bind (usesOnly_noRules _ c) fun _ => usesOnly_reference (.message ?_ hm)
      exact h _ (List.mem_singleton_self _)

theorem usesOnly_element {t : ElementType} (h : ∀ r ∈ t.mentions, mentions r)
    (c : FieldConstraints) : UsesOnly (Target.StandsFor p mentions) (elementSchema p t c) := by
  cases t with
  | scalar kind => exact usesOnly_scalar kind c
  | enum name => exact usesOnly_enum (h _ (List.mem_singleton_self _)) c
  | message name => exact usesOnly_embedded h c

theorem usesOnly_key (key : ScalarKind) (c : Option FieldConstraints) :
    UsesOnly (Target.StandsFor p mentions) (keySchema key c) := by
  cases c with
  | none => exact usesOnly_pure none
  | some c => exact .bind (usesOnly_scalar key _).inside fun s => usesOnly_pure _

theorem usesOnly_field {f : Field} (h : ∀ r ∈ f.type.mentions, mentions r) :
    UsesOnly (Target.StandsFor p mentions) (fieldSchema p f) := by
  unfold fieldSchema
  generalize f.type = t at h
  cases t with
  | scalar kind => exact usesOnly_scalar kind _
  | enum name => exact usesOnly_enum (h _ (List.mem_singleton_self _)) _
  | message name => exact usesOnly_embedded h _
  | map key value =>
    show UsesOnly _ (mapSchema p key value _)
    unfold mapSchema
    cases key.isMapKey with
    | false => exact usesOnly_fail (.mapKey key)
    | true =>
      refine .bind (usesOnly_rulesFor _ _ _) fun o => ?_
      refine .bind (usesOnly_element h _).inside fun values => ?_
      exact .bind (usesOnly_key key _) fun names => usesOnly_pure _
  | repeated item =>
    refine .bind (usesOnly_rulesFor _ _ _) fun o => ?_
    exact .bind (usesOnly_element h _).inside fun items => usesOnly_pure _

/-- All that the draft of a type uses is what its mentions stand for, or shared. -/
theorem Target.draft_usesOnly {t : Target} (h : ∀ r ∈ t.mentions, mentions r) :
    UsesOnly (Target.StandsFor p mentions) (t.draft p) := by
  cases t with
  | message m =>
    apply UsesOnly.inside
    refine .bind (usesOnly_mapM fun f hf => ?_) fun properties => usesOnly_pure _
    refine .bind (usesOnly_field fun r hr => ?_).inside fun s => usesOnly_pure _
    exact h r (List.mem_flatMap.2 ⟨f, hf, hr⟩)
  | enum e => exact usesOnly_pure _
  | shared s =>
    cases s with
    | any | empty | value => exact usesOnly_pure _
    | listValue | struct =>
      exact .bind (usesOnly_reference (.shared .value)) fun values => usesOnly_pure _

end Mentioned

end Generation

end ProtoSchema
