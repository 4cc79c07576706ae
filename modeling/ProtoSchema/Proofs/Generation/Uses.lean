import ProtoSchema.Proofs.Generation.Forms
import ProtoSchema.Proofs.Schema.References

/-!
# What drafts refer to

A draft that succeeds refers to the definitions of the types that it uses and to nothing else.
-/

namespace ProtoSchema

namespace Generation

/-- Every reference in the schema is to the definition of one of the types. -/
def RefersTo (s : Schema) (ts : List Target) : Prop :=
  ∀ r ∈ s.references, ∃ t ∈ ts, r = .definition t.key

namespace RefersTo

variable {s : Schema} {ts : List Target}

theorem silent (h : s.references = []) : RefersTo s ts := by
  intro r hr
  rw [h] at hr
  cases hr

theorem mono {us : List Target} (h : RefersTo s ts) (hts : ts ⊆ us) : RefersTo s us := by
  intro r hr
  obtain ⟨t, ht, rfl⟩ := h r hr
  exact ⟨t, hts ht, rfl⟩

theorem reference (t : Target) : RefersTo (.ref (.definition t.key)) [t] := by
  intro r hr
  rw [Schema.references, List.mem_singleton] at hr
  exact ⟨t, List.mem_singleton_self t, hr⟩

theorem conjunction {operands : List Schema} (h : ∀ s ∈ operands, RefersTo s ts) :
    RefersTo (.conjunction operands) ts := by
  intro r hr
  obtain ⟨s, hs, hr⟩ := Schema.mem_references_conjunction hr
  exact h s hs r hr

theorem disjunction {operands : List Schema} (h : ∀ s ∈ operands, RefersTo s ts) :
    RefersTo (.disjunction operands) ts := by
  intro r hr
  obtain ⟨s, hs, hr⟩ := Schema.mem_references_disjunction hr
  exact h s hs r hr

theorem choice {operands : List Schema} (h : ∀ s ∈ operands, RefersTo s ts) :
    RefersTo (.choice operands) ts := by
  intro r hr
  obtain ⟨s, hs, hr⟩ := Schema.mem_references_choice hr
  exact h s hs r hr

end RefersTo

/-! ## 1. Scalars and enums -/

theorem stringOperands_silent (r : StringRules) :
    ∀ s ∈ stringOperands r, RefersTo s [] := by
  intro s hs
  unfold stringOperands at hs
  rw [List.mem_append, List.mem_append] at hs
  rcases hs with (hs | hs) | hs
  · split at hs
    · rw [List.mem_singleton.1 hs]
      exact .silent rfl
    · cases hs
  · split at hs
    · cases hs
    · rw [List.mem_singleton.1 hs]
      exact .silent rfl
  · split at hs
    · cases hs
    · cases hs
    · rw [List.mem_singleton.1 hs]
      refine .disjunction fun x hx => ?_
      obtain ⟨f, -, rfl⟩ := List.mem_map.1 hx
      exact .silent rfl

theorem patternOperands_silent (patterns : List Pattern.Ecma) :
    ∀ s ∈ patternOperands patterns, RefersTo s [] := by
  intro s hs
  unfold patternOperands at hs
  split at hs
  · cases hs
  · obtain ⟨e, -, rfl⟩ := List.mem_map.1 hs
    exact .silent rfl

theorem inDomain_references (domain : NumberDomain) (k : NumberKeywords) :
    (inDomain domain k).references = [] := by
  unfold inDomain
  split <;> rfl

theorem numericSchema_refersTo (kind : NumericKind) (r : NumberRules) :
    RefersTo (numericSchema kind r) [] := by
  refine .conjunction fun s hs => ?_
  rcases List.mem_cons.1 hs with rfl | hs
  · split
    · refine .choice fun x hx => ?_
      rcases List.mem_pair.1 hx with rfl | rfl
      · exact .silent (inDomain_references _ _)
      · exact .silent rfl
    · exact .silent (inDomain_references _ _)
  · split at hs
    · cases hs
    · rw [List.mem_singleton.1 hs]
      exact .silent rfl

theorem ScalarForm.refersTo {kind : ScalarKind} {o : Option Rules} {s : Schema}
    (h : ScalarForm kind o s) : RefersTo s [] := by
  cases h with
  | bool | boolRules | bytes | bytesRules | string => exact .silent rfl
  | stringRules r given =>
    refine .conjunction fun s hs => ?_
    rcases List.mem_cons.1 hs with rfl | hs
    · exact .silent rfl
    · rcases List.mem_append.1 hs with hs | hs
      · exact stringOperands_silent r s hs
      · exact patternOperands_silent _ s hs
  | numeric kind => exact numericSchema_refersTo kind {}
  | numericRules kind bounds => exact numericSchema_refersTo kind bounds

theorem defaultSchemas_silent (kind : ScalarKind) : ∀ s ∈ defaultSchemas kind, RefersTo s [] := by
  intro s hs
  cases kind with
  | bool | string =>
    rw [List.mem_singleton.1 hs]
    exact .silent rfl
  | bytes => cases hs
  | numeric kind =>
    rcases List.mem_cons.1 hs with rfl | hs
    · exact .silent (inDomain_references _ _)
    · split at hs
      · rw [List.mem_singleton.1 hs]
        exact .silent rfl
      · cases hs

theorem ScalarUse.refersTo {kind : ScalarKind} {c : FieldConstraints} {s : Schema}
    (h : ScalarUse kind c s) : RefersTo s [] := by
  obtain ⟨o, -, s, hs⟩ := h
  unfold withDefaults
  split
  · refine .disjunction fun x hx => ?_
    rcases List.mem_append.1 hx with hx | hx
    · exact defaultSchemas_silent kind x hx
    · rw [List.mem_singleton.1 hx]
      exact hs.refersTo
  · exact hs.refersTo

theorem NamesForm.references {e : EnumType} {r : EnumRules} {s : Schema}
    (h : NamesForm e r (some s)) : s.references = [] := by
  cases h with
  | equals | allow => rfl
  | deny => split <;> rfl

theorem EnumForm.refersTo {p : Pool} {name : String} {c : FieldConstraints} {s : Schema}
    {ts : List Target} (h : EnumForm p name c s ts) : RefersTo s ts := by
  cases h with
  | every e => exact .reference (.enum e)
  | picked e he r hrules s hs =>
    have hsilent : RefersTo s [] := .silent hs.references
    split
    next zero =>
      split
      · refine .disjunction fun x hx => ?_
        rcases List.mem_pair.1 hx with rfl | rfl
        · exact .silent rfl
        · exact hsilent
      · exact hsilent
    next => exact hsilent

/-! ## 2. Embedded messages -/

theorem durationTexts_refersTo (equals : Option String) (allow deny : List String) :
    RefersTo (durationTexts equals allow deny) [] := by
  refine .conjunction fun s hs => ?_
  rcases List.mem_cons.1 hs with rfl | hs
  · exact .silent rfl
  · split at hs
    · cases hs
    · rw [List.mem_singleton.1 hs]
      exact .silent rfl

theorem anyUnder_refersTo (r : AnyRules) : RefersTo (anyUnder r) [.shared .any] := by
  refine .conjunction fun s hs => ?_
  rcases List.mem_cons.1 hs with rfl | hs
  · exact .reference (.shared .any)
  · rcases List.mem_append.1 hs with hs | hs
    · split at hs
      · cases hs
      · rw [List.mem_singleton.1 hs]
        exact .silent rfl
    · split at hs
      · cases hs
      · rw [List.mem_singleton.1 hs]
        exact .silent rfl

theorem WellKnownForm.refersTo {c : FieldConstraints} {t : WellKnownType} {s : Schema}
    {ts : List Target} (h : WellKnownForm c t s ts) : RefersTo s ts := by
  cases h with
  | any o => exact anyUnder_refersTo (o.getD {})
  | duration o hrules equals allow deny => exact durationTexts_refersTo equals allow deny
  | timestamp => exact .silent rfl
  | shared t => exact .reference (.shared t)
  | wrapper t kind hkind o hrules s hs => exact hs.refersTo

theorem EmbeddedForm.refersTo {p : Pool} {name : String} {c : FieldConstraints} {s : Schema}
    {ts : List Target} (h : EmbeddedForm p name c s ts) : RefersTo s ts := by
  cases h with
  | wellKnown t ht s ts hs => exact hs.refersTo
  | declared ht m => exact .reference (.message m)

/-! ## 3. Types that a document defines -/

theorem ElementForm.refersTo {p : Pool} {c : FieldConstraints} {t : ElementType} {s : Schema}
    {ts : List Target} (h : ElementForm p c t s ts) : RefersTo s ts := by
  cases h with
  | scalar kind s hs => exact hs.refersTo
  | enum name s ts hs => exact hs.refersTo
  | message name s ts hs => exact hs.refersTo

theorem KeyForm.refersTo {key : ScalarKind} {c : Option FieldConstraints} {s : Schema}
    (h : KeyForm key c (.some s)) : RefersTo s [] := by
  generalize he : Option.some s = o at h
  cases h with
  | none => cases he
  | some c s' hs =>
    split at he
    · cases he
      exact hs.refersTo
    · cases he

theorem FieldForm.refersTo {p : Pool} {c : FieldConstraints} {t : FieldType} {s : Schema}
    {ts : List Target} (h : FieldForm p c t s ts) : RefersTo s ts := by
  cases h with
  | scalar kind s hs => exact hs.refersTo
  | enum name s ts hs => exact hs.refersTo
  | message name s ts hs => exact hs.refersTo
  | map key value o hrules values ts hvalues names hnames =>
    intro r hr
    rw [Schema.references, Schema.referencesNamed, List.nil_append, Schema.referencesOption,
      List.mem_append] at hr
    rcases hr with hr | hr
    · exact hvalues.refersTo r hr
    · cases names with
      | none => cases hr
      | some s =>
        obtain ⟨t, ht, -⟩ := hnames.refersTo r hr
        cases ht
  | repeated item o hrules items ts hitems =>
    intro r hr
    exact hitems.refersTo r hr

theorem oneofChoices_silent (m : Message) : ∀ s ∈ oneofChoices m, RefersTo s [] := by
  intro s hs
  obtain ⟨o, -, rfl⟩ := List.mem_map.1 hs
  refine .choice fun x hx => ?_
  obtain ⟨f, -, rfl⟩ := List.mem_map.1 hx
  exact .silent rfl

theorem messageUnder_refersTo {p : Pool} {m : Message} {properties : List (String × Schema)}
    (h : List.Forall₂ (PropertyForm p) m.fields properties) :
    RefersTo (messageUnder m properties) ((Target.message m).links p) := by
  refine .conjunction fun s hs => ?_
  rcases List.mem_cons.1 hs with rfl | hs
  · intro r hr
    rw [Schema.references, Schema.referencesNamed_eq, List.mem_append, List.mem_flatMap] at hr
    rcases hr with ⟨x, hx, hr⟩ | hr
    · obtain ⟨f, hf, s, hs⟩ := forall₂_exists_left h hx
      obtain ⟨t, ht, rfl⟩ := hs.refersTo r hr
      exact ⟨t, List.mem_flatMap.2 ⟨f, hf, ht⟩, rfl⟩
    · cases hr
  · exact (oneofChoices_silent m s hs).mono (List.nil_subset _)

/-- A type that can be drafted refers to the definitions of its links. -/
theorem TargetForm.refersTo {p : Pool} {t : Target} {s : Schema} (h : TargetForm p t s) :
    RefersTo s (t.links p) := by
  cases h with
  | message m properties h => exact messageUnder_refersTo h
  | enum e => exact .silent rfl
  | shared t s h =>
    cases t with
    | any | empty | value =>
      cases h
      exact .silent rfl
    | listValue | struct =>
      cases h
      exact RefersTo.reference (.shared .value)

end Generation

end ProtoSchema
