import ProtoSchema.Proofs.Generation.Acceptance
import ProtoSchema.Proofs.Generation.Exchange
import ProtoSchema.Proofs.Schema.Nodes

/-!
# The structure of documents

Every schema of a document is well formed at every node.  The object of a message has one property
for each field, in the order of the fields, and admits no others.
-/

namespace ProtoSchema

namespace Generation

open Schema

/-! ## 1. Scalars and enums -/

theorem wellFormed_string (k : StringKeywords) : (Schema.string k).WellFormed := .leaf trivial rfl

theorem wellFormed_not_string (k : StringKeywords) : (Schema.not (.string k)).WellFormed :=
  WellFormed.not_iff.2 (wellFormed_string k)

theorem wellFormed_stringOperands (r : StringRules) : ∀ s ∈ stringOperands r, s.WellFormed := by
  intro s hs
  unfold stringOperands at hs
  rw [List.mem_append, List.mem_append] at hs
  rcases hs with (hs | hs) | hs
  · split at hs
    · rw [List.mem_singleton.1 hs]
      exact wellFormed_not_string _
    · cases hs
  · split at hs
    · cases hs
    · rw [List.mem_singleton.1 hs]
      exact wellFormed_not_string _
  · split at hs
    · cases hs
    · cases hs
    · rw [List.mem_singleton.1 hs]
      apply WellFormed.disjunction
      intro x hx
      obtain ⟨format, -, rfl⟩ := List.mem_map.1 hx
      exact wellFormed_string _

theorem wellFormed_patternOperands (patterns : List Pattern.Ecma) :
    ∀ s ∈ patternOperands patterns, s.WellFormed := by
  intro s hs
  unfold patternOperands at hs
  split at hs
  · cases hs
  · obtain ⟨e, -, rfl⟩ := List.mem_map.1 hs
    exact wellFormed_string _

theorem wellFormed_inDomain (domain : NumberDomain) (k : NumberKeywords) :
    (inDomain domain k).WellFormed := by
  unfold inDomain
  by_cases hreal : domain = .real
  · rw [if_pos hreal]
    exact .leaf trivial rfl
  · rw [if_neg hreal]
    exact .leaf trivial rfl

theorem wellFormed_numericSchema (kind : NumericKind) (r : NumberRules) :
    (numericSchema kind r).WellFormed := by
  apply WellFormed.conjunction
  intro s hs
  rcases List.mem_cons.1 hs with rfl | hs
  · split
    · apply WellFormed.choice
      intro x hx
      rcases List.mem_pair.1 hx with rfl | rfl
      · exact wellFormed_inDomain _ _
      · exact wellFormed_string _
    · exact wellFormed_inDomain _ _
  · split at hs
    · cases hs
    · rw [List.mem_singleton.1 hs]
      exact WellFormed.not_iff.2 (.leaf trivial rfl)

theorem wellFormed_bytesSchema : bytesSchema.WellFormed := by
  apply WellFormed.disjunction
  intro s hs
  rcases List.mem_pair.1 hs with rfl | rfl
  · exact wellFormed_string _
  · exact wellFormed_string _

theorem ScalarForm.wellFormed {kind : ScalarKind} {o : Option Rules} {s : Schema}
    (h : ScalarForm kind o s) : s.WellFormed := by
  cases h with
  | bool | boolRules => exact .leaf trivial rfl
  | bytes | bytesRules => exact wellFormed_bytesSchema
  | string => exact wellFormed_string _
  | stringRules r given =>
    apply WellFormed.conjunction
    intro s hs
    rcases List.mem_cons.1 hs with rfl | hs
    · exact wellFormed_string _
    · rcases List.mem_append.1 hs with hs | hs
      · exact wellFormed_stringOperands r s hs
      · exact wellFormed_patternOperands _ s hs
  | numeric kind => exact wellFormed_numericSchema kind {}
  | numericRules kind bounds => exact wellFormed_numericSchema kind bounds

theorem wellFormed_defaultSchemas (kind : ScalarKind) :
    ∀ s ∈ defaultSchemas kind, s.WellFormed := by
  intro s hs
  cases kind with
  | bool =>
    rw [List.mem_singleton.1 hs]
    exact .leaf trivial rfl
  | string =>
    rw [List.mem_singleton.1 hs]
    exact wellFormed_string _
  | bytes => cases hs
  | numeric kind =>
    rcases List.mem_cons.1 hs with rfl | hs
    · exact wellFormed_inDomain _ _
    · split at hs
      · rw [List.mem_singleton.1 hs]
        exact wellFormed_string _
      · cases hs

theorem ScalarUse.wellFormed {kind : ScalarKind} {c : FieldConstraints} {s : Schema}
    (h : ScalarUse kind c s) : s.WellFormed := by
  obtain ⟨o, -, s, hs⟩ := h
  unfold withDefaults
  split
  · apply WellFormed.disjunction
    intro x hx
    rcases List.mem_append.1 hx with hx | hx
    · exact wellFormed_defaultSchemas kind x hx
    · rw [List.mem_singleton.1 hx]
      exact hs.wellFormed
  · exact hs.wellFormed

theorem NamesForm.wellFormed {e : EnumType} {r : EnumRules} {s : Schema}
    (h : NamesForm e r (some s)) : s.WellFormed := by
  cases h with
  | equals | allow => exact wellFormed_string _
  | deny =>
    split
    · exact .leaf trivial rfl
    · exact wellFormed_string _

theorem EnumForm.wellFormed {p : Pool} {name : String} {c : FieldConstraints} {s : Schema}
    {ts : List Target} (h : EnumForm p name c s ts) : s.WellFormed := by
  cases h with
  | every e => exact .leaf trivial rfl
  | picked e he r hrules s hs =>
    split
    next zero =>
      split
      · apply WellFormed.disjunction
        intro x hx
        rcases List.mem_pair.1 hx with rfl | rfl
        · exact wellFormed_string _
        · exact hs.wellFormed
      · exact hs.wellFormed
    next => exact hs.wellFormed

/-! ## 2. Embedded messages -/

theorem wellFormed_typeAmong (types : List String) : (typeAmong types).WellFormed := by
  apply WellFormed.object_iff.2
  refine ⟨⟨List.nodup_nil, List.nil_subset _⟩, fun x hx => ?_, .unused, .unused⟩
  rw [List.mem_singleton.1 hx]
  exact wellFormed_string _

theorem wellFormed_durationTexts (equals : Option String) (allow deny : List String) :
    (durationTexts equals allow deny).WellFormed := by
  apply WellFormed.conjunction
  intro s hs
  rcases List.mem_cons.1 hs with rfl | hs
  · exact wellFormed_string _
  · split at hs
    · cases hs
    · rw [List.mem_singleton.1 hs]
      exact wellFormed_not_string _

theorem wellFormed_anyUnder (r : AnyRules) : (anyUnder r).WellFormed := by
  apply WellFormed.conjunction
  intro s hs
  rcases List.mem_cons.1 hs with rfl | hs
  · exact .leaf trivial rfl
  · rcases List.mem_append.1 hs with hs | hs
    · split at hs
      · cases hs
      · rw [List.mem_singleton.1 hs]
        exact wellFormed_typeAmong _
    · split at hs
      · cases hs
      · rw [List.mem_singleton.1 hs]
        exact WellFormed.not_iff.2 (wellFormed_typeAmong _)

theorem WellKnownForm.wellFormed {c : FieldConstraints} {t : WellKnownType} {s : Schema}
    {ts : List Target} (h : WellKnownForm c t s ts) : s.WellFormed := by
  cases h with
  | any o => exact wellFormed_anyUnder (o.getD {})
  | duration o hrules equals allow deny => exact wellFormed_durationTexts equals allow deny
  | timestamp => exact wellFormed_string _
  | shared t => exact .leaf trivial rfl
  | wrapper t kind hkind o hrules s hs => exact hs.wellFormed

theorem EmbeddedForm.wellFormed {p : Pool} {name : String} {c : FieldConstraints} {s : Schema}
    {ts : List Target} (h : EmbeddedForm p name c s ts) : s.WellFormed := by
  cases h with
  | wellKnown t ht s ts hs => exact hs.wellFormed
  | declared => exact .leaf trivial rfl

theorem wellFormed_shared {t : SharedType} {s : Schema} (h : t.schema.result = .ok s) :
    s.WellFormed := by
  cases t with
  | any =>
    cases h
    apply WellFormed.object_iff.2
    refine ⟨⟨List.nodup_nil, List.nil_subset _⟩, fun x hx => ?_, fun s hs => ?_, .unused⟩
    · rw [List.mem_singleton.1 hx]
      exact wellFormed_string _
    · cases hs
      exact .leaf trivial rfl
  | empty =>
    cases h
    refine WellFormed.object_unnamed rfl rfl (fun s hs => ?_) .unused
    cases hs
    exact .leaf trivial rfl
  | listValue =>
    cases h
    apply WellFormed.array_iff.2
    intro s hs
    cases hs
    exact .leaf trivial rfl
  | struct =>
    cases h
    refine WellFormed.object_unnamed rfl rfl (fun s hs => ?_) .unused
    cases hs
    exact .leaf trivial rfl
  | value =>
    cases h
    exact .leaf trivial rfl

/-! ## 3. Fields and messages -/

theorem ElementForm.wellFormed {p : Pool} {c : FieldConstraints} {t : ElementType} {s : Schema}
    {ts : List Target} (h : ElementForm p c t s ts) : s.WellFormed := by
  cases h with
  | scalar kind s hs => exact hs.wellFormed
  | enum name s ts hs => exact hs.wellFormed
  | message name s ts hs => exact hs.wellFormed

theorem KeyForm.wellFormed {key : ScalarKind} {c : Option FieldConstraints} {names : Option Schema}
    (h : KeyForm key c names) : ∀ s ∈ names, s.WellFormed := by
  intro s hs
  cases h with
  | none => cases hs
  | some c s' hform =>
    split at hs
    · cases hs
      exact hform.wellFormed
    · cases hs

theorem FieldForm.wellFormed {p : Pool} {c : FieldConstraints} {t : FieldType} {s : Schema}
    {ts : List Target} (h : FieldForm p c t s ts) : s.WellFormed := by
  cases h with
  | scalar kind s hs => exact hs.wellFormed
  | enum name s ts hs => exact hs.wellFormed
  | message name s ts hs => exact hs.wellFormed
  | map key value o hrules values ts hvalues names hnames =>
    refine WellFormed.object_unnamed rfl rfl (fun s hs => ?_) hnames.wellFormed
    cases hs
    exact hvalues.wellFormed
  | repeated item o hrules items ts hitems =>
    apply WellFormed.array_iff.2
    intro s hs
    cases hs
    exact hitems.wellFormed

theorem wellFormed_presence (f : Field) : (presence f).WellFormed := by
  apply WellFormed.object_iff.2
  refine ⟨⟨List.nodup_singleton _, List.Subset.refl _⟩, fun x hx => ?_, .unused, .unused⟩
  rw [List.mem_singleton.1 hx]
  exact .leaf trivial rfl

theorem wellFormed_oneofChoices (m : Message) : ∀ s ∈ oneofChoices m, s.WellFormed := by
  intro s hs
  obtain ⟨o, -, rfl⟩ := List.mem_map.1 hs
  apply WellFormed.choice
  intro x hx
  obtain ⟨f, -, rfl⟩ := List.mem_map.1 hx
  exact wellFormed_presence f

theorem PropertyForm.keys {p : Pool} {m : Message} {properties : List (String × Schema)}
    (h : List.Forall₂ (PropertyForm p) m.fields properties) :
    properties.map (·.1) = m.fields.map (·.jsonName) := by
  refine map_eq_of_forall₂ (fun f x hx => ?_) h
  cases hx
  rfl

/-- What is required are JSON names of fields, so they are distinct and have properties. -/
theorem wellFormed_messageUnder {p : Pool} {m : Message} (hm : (m.fields.map (·.jsonName)).Nodup)
    {properties : List (String × Schema)}
    (h : List.Forall₂ (PropertyForm p) m.fields properties) :
    (messageUnder m properties).WellFormed := by
  have hkeys := PropertyForm.keys h
  have hrequired : ((m.fields.filter isRequired).map (·.jsonName)).Sublist
      (m.fields.map (·.jsonName)) := List.filter_sublist.map _
  apply WellFormed.conjunction
  intro s hs
  rcases List.mem_cons.1 hs with rfl | hs
  · apply WellFormed.object_iff.2
    refine ⟨⟨hrequired.nodup hm, ?_⟩, fun x hx => ?_, fun s hs => ?_, .unused⟩
    · show _ ⊆ properties.map (·.1)
      rw [hkeys]
      exact hrequired.subset
    · obtain ⟨f, -, s, hform⟩ := forall₂_exists_left h hx
      exact hform.wellFormed
    · cases hs
      exact .leaf trivial rfl
  · exact wellFormed_oneofChoices m s hs

/-- The schema of every known type is well formed. -/
theorem TargetForm.wellFormed {p : Pool} (hp : p.Sound) {t : Target} (ht : t.Known p) {s : Schema}
    (h : TargetForm p t s) : s.WellFormed := by
  cases h with
  | message m properties h => exact wellFormed_messageUnder (hp.jsonNames_nodup m ht) h
  | enum e => exact wellFormed_string _
  | shared t s h => exact wellFormed_shared h

theorem DocumentForm.wellFormed {p : Pool} (hp : p.Sound) {m : Message} (hm : m ∈ p.messages)
    {d : Document} (h : DocumentForm p m d) :
    d.root.WellFormed ∧ ∀ x ∈ d.definitions, x.2.WellFormed := by
  obtain ⟨order, horder, root, hroot, definitions, hdefinitions⟩ := h
  have hown : (Target.message m).Known p := hm
  constructor
  · exact (hroot.wellFormed hp hown).redirect _
  · intro x hx
    obtain ⟨t, ht, s, hs, rfl⟩ := forall₂_exists_left hdefinitions hx
    exact (hs.wellFormed hp (visits_known horder t ht)).redirect _

/-! ## 4. The objects of messages -/

/-- The object of a message in its schema, where it stands alone or before the choices that oneofs
demand. -/
def messageObject? : Schema → Option (ObjectKeywords Schema)
  | .object k => some k
  | .allOf (.object k :: _) => some k
  | _ => none

/-- A oneof of the message is required and has no members. -/
def Unfillable (n : Message) : Prop := ∃ o ∈ n.oneofs, o.required = true ∧ n.members o = []

/-- The object has one property for each field of the message, in the order of the fields, with the
schema of the field placed in the document of a key, and admits no others. -/
structure ObjectOf (p : Pool) (key : String) (n : Message) (k : ObjectKeywords Schema) : Prop where
  properties : List.Forall₂ (fun f x => ∃ s, (fieldSchema p f).result = .ok s ∧
    x = (f.jsonName, s.redirect (place key))) n.fields k.properties
  distinct : (k.properties.map (·.1)).Nodup
  closed : k.additionalProperties = some .never

/-- A schema accepts nothing if a oneof of its message cannot be filled, and otherwise holds the
object of the message. -/
def HoldsObject (p : Pool) (key : String) (n : Message) (s : Schema) : Prop :=
  Unfillable n ∧ s = .never ∨ ¬ Unfillable n ∧ ∃ k, messageObject? s = some k ∧ ObjectOf p key n k

/-- The object that a schema holds has a property for each field, with the schema of the field. -/
theorem HoldsObject.property {p : Pool} {key : String} {n : Message} {s : Schema}
    (h : HoldsObject p key n s) {k : ObjectKeywords Schema} (hk : messageObject? s = some k)
    {f : Field} (hf : f ∈ n.fields) :
    ∃ t, (fieldSchema p f).result = .ok t ∧ (f.jsonName, t.redirect (place key)) ∈ k.properties := by
  rcases h with ⟨-, hnever⟩ | ⟨-, k', hk', hobject⟩
  · rw [hnever] at hk
    cases hk
  · cases hk'.symm.trans hk
    obtain ⟨x, hx, t, ht, rfl⟩ := forall₂_exists_right hobject.properties hf
    exact ⟨t, ht, hx⟩

theorem choice_presence (fields : List Field) :
    (Schema.choice (fields.map presence)).isAlways = false ∧
      ((Schema.choice (fields.map presence)).isNever = true ↔ fields = []) := by
  match fields with
  | [] => exact ⟨rfl, iff_of_true rfl rfl⟩
  | [f] => exact ⟨rfl, iff_of_false Bool.false_ne_true (List.cons_ne_nil f [])⟩
  | f :: g :: rest =>
    exact ⟨rfl, iff_of_false Bool.false_ne_true (List.cons_ne_nil f (g :: rest))⟩

theorem oneofChoices_isNever (n : Message) :
    (oneofChoices n).any isNever = true ↔ Unfillable n := by
  unfold oneofChoices Unfillable
  rw [List.any_map, List.any_eq_true]
  simp only [List.mem_filter, Function.comp_apply, (choice_presence _).2, and_assoc]

/-- Nothing is dropped from the conjunction of a message, and it never holds only because of a
choice among no members. -/
theorem messageUnder_object (n : Message) (properties : List (String × Schema)) :
    Unfillable n ∧ messageUnder n properties = .never ∨
      ¬ Unfillable n ∧ ∃ k, messageObject? (messageUnder n properties) = some k ∧
        k.properties = properties ∧ k.additionalProperties = some .never := by
  let own : ObjectKeywords Schema :=
    { properties, required := (n.fields.filter isRequired).map (·.jsonName)
      additionalProperties := some .never }
  have hunder : messageUnder n properties = .conjunction (.object own :: oneofChoices n) := rfl
  have hany : (Schema.object own :: oneofChoices n).any isNever = true ↔ Unfillable n := by
    rw [List.any_cons, ← oneofChoices_isNever]
    rfl
  have hkept : (Schema.object own :: oneofChoices n).filter (!·.isAlways) =
      .object own :: oneofChoices n := by
    apply List.filter_eq_self.2
    intro s hs
    rcases List.mem_cons.1 hs with rfl | hs
    · rfl
    · obtain ⟨o, -, rfl⟩ := List.mem_map.1 hs
      rw [(choice_presence (n.members o)).1]
      rfl
  rw [hunder, Schema.conjunction]
  by_cases hn : Unfillable n
  · left
    rw [if_pos (hany.2 hn)]
    exact ⟨hn, rfl⟩
  · right
    rw [if_neg (hany.not.2 hn), hkept]
    refine ⟨hn, own, ?_, rfl, rfl⟩
    cases oneofChoices n <;> rfl

/-- A redirection keeps the object of a message. -/
theorem messageObject?_redirect (f : Reference → Reference) {s : Schema}
    {k : ObjectKeywords Schema} (h : messageObject? s = some k) :
    ∃ k', messageObject? (s.redirect f) = some k' ∧
      k'.properties = k.properties.map (fun x => (x.1, x.2.redirect f)) ∧
      k'.additionalProperties = redirectOption f k.additionalProperties := by
  have hobject : ∀ k : ObjectKeywords Schema, ∃ k', (Schema.object k).redirect f = .object k' ∧
      k'.properties = k.properties.map (fun x => (x.1, x.2.redirect f)) ∧
      k'.additionalProperties = redirectOption f k.additionalProperties := by
    rintro ⟨title, description, properties, required, additional, names, least, most⟩
    exact ⟨_, rfl, redirectNamed_eq f properties, rfl⟩
  unfold messageObject? at h
  split at h
  next k₀ =>
    cases h
    obtain ⟨k', hk', hproperties, hadditional⟩ := hobject k
    rw [hk']
    exact ⟨k', rfl, hproperties, hadditional⟩
  next k₀ rest =>
    cases h
    obtain ⟨k', hk', hproperties, hadditional⟩ := hobject k
    rw [redirect, redirectAll, hk']
    exact ⟨k', rfl, hproperties, hadditional⟩
  next => cases h

/-- The draft of a message drafts each of its fields. -/
theorem draft_message_eq_ok {p : Pool} {n : Message} {s : Schema}
    (h : ((Target.message n).draft p).result = .ok s) :
    ∃ properties, List.Forall₂ (fun f x => ∃ t, (fieldSchema p f).result = .ok t ∧
      x = (f.jsonName, t)) n.fields properties ∧ s = messageUnder n properties := by
  have hyields : Draft.Yields ((messageSchema p n).inside (TypeName.key n.fullName)) s _ :=
    ⟨h, rfl⟩
  obtain ⟨properties, us, vs, hd, hk, -⟩ := Draft.yields_bind.1 (Draft.yields_inside.1 hyields)
  obtain ⟨rfl, -⟩ := Draft.yields_pure.1 hk
  refine ⟨properties, hd.mapM.1.imp ?_, rfl⟩
  rintro f x ⟨us, hx⟩
  obtain ⟨t, us, vs, ht, hk, -⟩ := Draft.yields_bind.1 hx
  obtain ⟨rfl, -⟩ := Draft.yields_pure.1 hk
  exact ⟨t, (Draft.yields_inside.1 ht).1, rfl⟩

/-- The schema of a message that is drafted holds its object, in whichever document it is placed. -/
theorem holdsObject_of_draft {p : Pool} (hp : p.Sound) {n : Message} (hn : n ∈ p.messages)
    {s : Schema} (h : ((Target.message n).draft p).result = .ok s) (key : String) :
    HoldsObject p key n (s.redirect (place key)) := by
  obtain ⟨properties, hall, rfl⟩ := draft_message_eq_ok h
  rcases messageUnder_object n properties with
    ⟨hun, hnever⟩ | ⟨hun, k, hk, hproperties, hclosed⟩
  · left
    rw [hnever]
    exact ⟨hun, rfl⟩
  · right
    obtain ⟨k', hk', hproperties', hclosed'⟩ := messageObject?_redirect (place key) hk
    rw [hproperties] at hproperties'
    rw [hclosed] at hclosed'
    have hforall : List.Forall₂ (fun f x => ∃ s, (fieldSchema p f).result = .ok s ∧
        x = (f.jsonName, s.redirect (place key))) n.fields k'.properties := by
      rw [hproperties', List.forall₂_map_right_iff]
      refine hall.imp ?_
      rintro f x ⟨t, ht, rfl⟩
      exact ⟨t, ht, rfl⟩
    have hkeys : k'.properties.map (·.1) = n.fields.map (·.jsonName) := by
      refine map_eq_of_forall₂ ?_ hforall
      rintro f x ⟨t, -, rfl⟩
      rfl
    exact ⟨hun, k', hk', hforall, hkeys ▸ hp.jsonNames_nodup n hn, hclosed'⟩

/-! ## 5. Documents -/

/-- A document consists of the schemas of its message and of the types of a walk, and each of them
stands at the place of its type. -/
theorem document_placed {p : Pool} (hp : p.Sound) {m : Message} (hm : m ∈ p.messages)
    {d : Document} (hd : document p m = .ok d) :
    ∃ order, Visits Target.fullName (Target.links p) {m.fullName} ((Target.message m).links p)
        order ∧
      definitionKeys d = order.map Target.key ∧
      ∀ t, t = .message m ∨ t ∈ order → ∃ s, (t.draft p).result = .ok s ∧
        d.schemaAt? (spot m t) = some (s.redirect (place (Target.message m).key)) := by
  obtain ⟨order, hwalk, ⟨root, hroot, hplaced⟩, hdefinitions⟩ := document_parts hd
  obtain ⟨-, hvisits, -⟩ := walk_message hwalk
  obtain ⟨hnodup, hown⟩ := visits_keys hp hm hvisits
  have hkeys : d.definitions.map (·.1) = order.map Target.key := keys_of_drafts hdefinitions
  refine ⟨order, hvisits, hkeys, fun t ht => ?_⟩
  rcases ht with rfl | ht
  · refine ⟨root, hroot, ?_⟩
    rw [spot_own, ← hplaced]
    rfl
  · obtain ⟨x, hx, s, hs, rfl⟩ := forall₂_exists_right hdefinitions ht
    refine ⟨s, hs, ?_⟩
    rw [spot_of_mem hown ht]
    exact lookup_of_mem (hkeys ▸ hnodup) hx

/-- The document holds the object of every message that its own message reaches. -/
theorem holdsObject_of_reached {p : Pool} (hp : p.Sound) {m : Message} (hm : m ∈ p.messages)
    {d : Document} (hd : document p m = .ok d) {n : Message}
    (hn : Reaches p (.message m) (.message n)) :
    ∃ s, d.schemaAt? (spot m (.message n)) = some s ∧
      HoldsObject p (Target.message m).key n s := by
  have hknown : (Target.message n).Known p := hn.known hm
  obtain ⟨order, hvisits, -, hplaced⟩ := document_placed hp hm hd
  obtain ⟨s, hs, hat⟩ := hplaced _ (visits_reached_message hp hm hvisits hn rfl)
  exact ⟨_, hat, holdsObject_of_draft hp hknown hs _⟩

/-- Every schema of a document is well formed at every node, and the document holds the object of
every message that its own message reaches. -/
theorem document_wellFormed {set : DescriptorSet} {p : Pool} (hset : Pool.ofSet set = .ok p)
    {m : Message} (hm : m ∈ p.messages) {d : Document} (hd : document p m = .ok d) :
    (d.root.WellFormed ∧ ∀ x ∈ d.definitions, x.2.WellFormed) ∧
      ∀ n, Reaches p (.message m) (.message n) →
        ∃ s, d.schemaAt? (spot m (.message n)) = some s ∧
          HoldsObject p (Target.message m).key n s := by
  have hp := Pool.ofSet_sound hset
  constructor
  · exact (document_form hd).wellFormed hp hm
  · intro n hn
    exact holdsObject_of_reached hp hm hd hn

/-- A message with a field beside a oneof that must be filled. -/
def paymentSet : DescriptorSet where
  filesToGenerate := []
  files := [
    { name := "payment.proto", package := "acme", enums := []
      messages := [
        { name := "Payment", oneofs := [⟨"method", some ⟨true⟩⟩], messages := [], enums := []
          fields := [plainField "amount" (.scalar (.numeric .double)),
            { plainField "card" (.scalar .string) with oneof := some "method" },
            { plainField "iban" (.scalar .string) with oneof := some "method" }] }] }]

def paymentMessage : Message where
  fullName := ".acme.Payment"
  name := "Payment"
  oneofs := [⟨"method", true, [1, 2]⟩]
  fields := [.ofDescriptor (plainField "amount" (.scalar (.numeric .double))),
    .ofDescriptor { plainField "card" (.scalar .string) with oneof := some "method" },
    .ofDescriptor { plainField "iban" (.scalar .string) with oneof := some "method" }]

def paymentPool : Pool := ⟨[paymentMessage], [], [".acme.Payment"]⟩

theorem paymentPool_built : Pool.ofSet paymentSet = .ok paymentPool := by
  simp only [Pool.ofSet, paymentSet, DescriptorSet.declarations, messageDeclarations,
    enumDeclarations, List.flatMap_cons, List.flatMap_nil]
  rfl

theorem paymentPool_walk :
    walk paymentPool (without paymentMessage.fullName (definable paymentPool))
      (((Target.message paymentMessage).draft paymentPool).tasks []) = .ok [] := by
  have htasks : ((Target.message paymentMessage).draft paymentPool).tasks [] = [] := rfl
  rw [htasks, walk]

/-- The root of its document is a conjunction, and the object in it has the three properties. -/
theorem payment_wellFormed :
    ∃ d, document paymentPool paymentMessage = .ok d ∧ d.root.WellFormed ∧
      ∃ k, messageObject? d.root = some k ∧
        k.properties.map (·.1) = ["amount", "card", "iban"] := by
  have hmem : paymentMessage ∈ paymentPool.messages := List.mem_singleton_self _
  obtain ⟨d, hd, -⟩ := document_of_walk paymentPool_walk
  obtain ⟨⟨hroot, -⟩, hall⟩ := document_wellFormed paymentPool_built hmem hd
  refine ⟨d, hd, hroot, ?_⟩
  obtain ⟨s, hs, hholds⟩ := hall paymentMessage .refl
  rw [spot_own] at hs
  cases hs
  have hfilled : ¬ Unfillable paymentMessage := by
    rintro ⟨o, ho, -, hmembers⟩
    rw [List.mem_singleton.1 ho] at hmembers
    cases hmembers
  rcases hholds with ⟨hun, -⟩ | ⟨-, k, hk, hobject⟩
  · exact absurd hun hfilled
  · refine ⟨k, hk, ?_⟩
    have hkeys : k.properties.map (·.1) = paymentMessage.fields.map (·.jsonName) := by
      refine map_eq_of_forall₂ ?_ hobject.properties
      rintro f x ⟨t, -, rfl⟩
      rfl
    exact hkeys

end Generation

end ProtoSchema
