import ProtoSchema.Proofs.Generation.Definitions
import ProtoSchema.Proofs.Generation.Meaning

/-!
# What documents accept

A document accepts exactly the values that conform to its message.  Its references may lead in
circles, but each turn takes them to a smaller value, so there is one way to read them and it reads
them as the types that they stand for.
-/

namespace ProtoSchema

namespace Generation

variable {δ : Dialect} {refs : Reference → Json → Prop} {p : Pool}

/-! ## 1. Where types stand -/

/-- Where a type stands in the document of a message. -/
def spot (m : Message) (t : Target) : Reference :=
  place (Target.message m).key (.definition t.key)

theorem spot_own (m : Message) : spot m (.message m) = .root := if_pos rfl

/-- A type of the walk stands at its own key, which the message does not have. -/
theorem spot_of_mem {m : Message} {order : List Target}
    (hown : (Target.message m).key ∉ order.map Target.key) {t : Target} (ht : t ∈ order) :
    spot m t = .definition t.key := by
  apply if_neg
  intro he
  rw [← he] at hown
  exact hown (List.mem_map_of_mem ht)

/-- What holds of the places of a document: each type that the message reaches has a place of its
own with its schema, and there are no other places. -/
structure Layout (p : Pool) (m : Message) (d : Document) : Prop where
  schema : ∀ t, Reaches p (.message m) t → ∃ s, TargetForm p t s ∧
    d.schemaAt? (spot m t) = some (s.redirect (place (Target.message m).key))
  covers : ∀ r s, d.schemaAt? r = some s → ∃ t, Reaches p (.message m) t ∧ r = spot m t
  distinct : ∀ t u, Reaches p (.message m) t → Reaches p (.message m) u →
    spot m t = spot m u → t = u

/-- Where names tell apart what the message reaches, its document has such a layout. -/
theorem DocumentForm.layout (hp : p.Sound) {m : Message} (hm : m ∈ p.messages)
    (hnames : NamesApart p m) {d : Document} (h : DocumentForm p m d) : Layout p m d := by
  obtain ⟨order, horder, root, hroot, definitions, hdefinitions⟩ := h
  have hkeys := definitionKeys_eq hdefinitions
  obtain ⟨hnodup, hown⟩ := visits_keys hp hm horder
  have hmem : ∀ t, t ∈ order ↔ Reaches p (.message m) t ∧ t ≠ .message m := fun _ =>
    (hnames.visits hp hm horder).mem_iff
  have hspot : ∀ t ∈ order, spot m t = .definition t.key := fun _ => spot_of_mem hown
  have hcases : ∀ t, Reaches p (.message m) t → t = .message m ∨ t ∈ order := by
    intro t ht
    by_cases he : t = .message m
    · exact .inl he
    · exact .inr ((hmem t).2 ⟨ht, he⟩)
  refine ⟨fun t ht => ?_, fun r s hr => ?_, fun t u ht hu he => ?_⟩
  · rcases hcases t ht with rfl | ht
    · exact ⟨root, hroot, by rw [spot_own]; rfl⟩
    · obtain ⟨x, hx, s, hs, rfl⟩ := forall₂_exists_right hdefinitions ht
      refine ⟨s, hs, ?_⟩
      rw [hspot t ht]
      exact lookup_of_mem (hkeys ▸ hnodup) hx
  · cases r with
    | root => exact ⟨.message m, .refl, (spot_own m).symm⟩
    | definition key =>
      obtain ⟨t, ht, s', -, he⟩ := forall₂_exists_left hdefinitions (mem_of_lookup hr)
      cases he
      exact ⟨t, ((hmem t).1 ht).1, (hspot t ht).symm⟩
    | elsewhere text h => cases hr
  · -- Two types at one place: it is the root, or the keys of the definitions differ.
    rcases hcases t ht with rfl | ht' <;> rcases hcases u hu with rfl | hu'
    · rfl
    · rw [spot_own, hspot u hu'] at he
      cases he
    · rw [spot_own, hspot t ht'] at he
      cases he
    · rw [hspot t ht', hspot u hu'] at he
      exact List.inj_on_of_nodup_map hnodup ht' hu' (Reference.definition.inj he)

/-! ## 2. How references are read -/

/-- The interpretation reads every place of the document as the type that stands there. -/
def ReadsTypes (δ : Dialect) (p : Pool) (m : Message) (refs : Reference → Json → Prop) : Prop :=
  ∀ t, Reaches p (.message m) t → ∀ v, refs (spot m t) v ↔ TargetConforms δ p t v

/-- What stands at the place of a type means the type, if its links are read rightly for smaller
values. -/
theorem Layout.holds (hp : p.Sound) {m : Message} (hm : m ∈ p.messages) {t : Target}
    (ht : Reaches p (.message m) t) {s : Schema} (hs : TargetForm p t s) {v : Json}
    (hrefs : ∀ u, Reaches p (.message m) u → ∀ w : Json, sizeOf w < sizeOf v →
      (refs (spot m u) w ↔ TargetConforms δ p u w)) :
    (s.redirect (place (Target.message m).key)).Holds δ refs v ↔ TargetConforms δ p t v := by
  rw [Schema.holds_redirect]
  refine hs.holds hp (ht.known hm) fun u hu w hw => ?_
  exact hrefs u (.tail ht hu) w hw

/-- An interpretation that fits the document reads its places as types: by induction on the value,
since references lead to smaller values. -/
theorem Layout.readsTypes (hp : p.Sound) {m : Message} (hm : m ∈ p.messages) {d : Document}
    (hd : Layout p m d) (hrefs : d.Interprets δ refs) : ReadsTypes δ p m refs := by
  intro t ht v
  induction hsize : sizeOf v using Nat.strong_induction_on generalizing t v with
  | h size ih =>
    obtain ⟨s, hs, hplace⟩ := hd.schema t ht
    rw [hrefs, hplace]
    simp only [Option.some.injEq, exists_eq_left']
    refine Layout.holds hp hm ht hs fun u hu w hw => ?_
    exact ih (sizeOf w) (hsize ▸ hw) u hu w rfl

/-- There is an interpretation that fits the document. -/
theorem Layout.interprets (hp : p.Sound) {m : Message} (hm : m ∈ p.messages) {d : Document}
    (hd : Layout p m d) : ∃ refs, d.Interprets δ refs := by
  -- A reference means what conforms to a type that stands at its place.
  let refs : Reference → Json → Prop := fun r v =>
    ∃ t, Reaches p (.message m) t ∧ r = spot m t ∧ TargetConforms δ p t v
  have hreads : ReadsTypes δ p m refs := by
    intro t ht v
    constructor
    · rintro ⟨u, hu, he, hv⟩
      cases hd.distinct t u ht hu he
      exact hv
    · exact fun hv => ⟨t, ht, rfl, hv⟩
  refine ⟨refs, fun r v => ?_⟩
  constructor
  · rintro ⟨t, ht, rfl, hv⟩
    obtain ⟨s, hs, hplace⟩ := hd.schema t ht
    exact ⟨_, hplace, (Layout.holds hp hm ht hs fun u hu w _ => hreads u hu w).2 hv⟩
  · rintro ⟨x, hx, hv⟩
    obtain ⟨t, ht, rfl⟩ := hd.covers r x hx
    obtain ⟨s, hs, hplace⟩ := hd.schema t ht
    cases hplace.symm.trans hx
    exact ⟨t, ht, rfl, (Layout.holds hp hm ht hs fun u hu w _ => hreads u hu w).1 hv⟩

/-! ## 3. Documents -/

/-- Where no declared type bears the name of a well-known type, names tell types apart. -/
theorem namesApart_of_fresh (hfresh : ∀ name ∈ p.names, ∀ t : WellKnownType, name ≠ t.fullName)
    {m : Message} (hm : m ∈ p.messages) : NamesApart p m := by
  intro s _
  refine ⟨hfresh _ (List.mem_append_left _ (List.mem_map_of_mem hm)) _, fun e he => ?_⟩
  have hknown : (Target.enum e).Known p := he.known hm
  exact hfresh _ (List.mem_append_right _ (List.mem_map_of_mem hknown)) _

/-- There is a way to read the references of a document, and however they are read, the root accepts
exactly the values that conform to the message. -/
theorem document_accepts {set : DescriptorSet} {p : Pool} (hset : Pool.ofSet set = .ok p)
    (hfresh : ∀ name ∈ p.names, ∀ t : WellKnownType, name ≠ t.fullName) {m : Message}
    (hm : m ∈ p.messages) {d : Document} (hd : document p m = .ok d) (δ : Dialect) :
    (∃ refs, d.Interprets δ refs) ∧
      ∀ refs, d.Interprets δ refs → ∀ v, d.root.Holds δ refs v ↔ MessageConforms δ p m v := by
  have hp := Pool.ofSet_sound hset
  have hlayout := (document_form hd).layout hp hm (namesApart_of_fresh hfresh hm)
  refine ⟨hlayout.interprets hp hm, fun refs hrefs v => ?_⟩
  have hroot := hlayout.readsTypes hp hm hrefs (.message m) .refl v
  rw [spot_own, hrefs, Document.schemaAt?] at hroot
  simp only [Option.some.injEq, exists_eq_left'] at hroot
  exact hroot

/-! ## 4. A message that contains itself -/

/-- A message with a field of its own type and one of an enum. -/
def nodeSet : DescriptorSet where
  filesToGenerate := []
  files := [
    { name := "node.proto", package := "acme", enums := [⟨"Kind", [⟨"LEAF", 0⟩]⟩]
      messages := [
        { name := "Node", oneofs := [], messages := [], enums := []
          fields := [plainField "next" (.message "acme.Node"),
            plainField "kind" (.enum "acme.Kind")] }] }]

def nodeKind : EnumType := ⟨".acme.Kind", [⟨"LEAF", 0⟩]⟩

def nodeMessage : Message where
  fullName := ".acme.Node"
  name := "Node"
  oneofs := []
  fields := [.ofDescriptor (plainField "next" (.message "acme.Node")),
    .ofDescriptor (plainField "kind" (.enum "acme.Kind"))]

def nodePool : Pool := ⟨[nodeMessage], [nodeKind], [".acme.Node"]⟩

theorem nodePool_built : Pool.ofSet nodeSet = .ok nodePool := by
  simp only [Pool.ofSet, nodeSet, DescriptorSet.declarations, messageDeclarations,
    enumDeclarations, List.flatMap_cons, List.flatMap_nil]
  rfl

theorem nodePool_walk :
    walk nodePool (without nodeMessage.fullName (definable nodePool))
      (((Target.message nodeMessage).draft nodePool).tasks []) = .ok [.enum nodeKind] := by
  have htasks : ((Target.message nodeMessage).draft nodePool).tasks [] =
      [.visit ⟨.message nodeMessage, ["acme.Node", "next"]⟩,
        .visit ⟨.enum nodeKind, ["acme.Node", "kind"]⟩] := rfl
  have hkind : ((Target.enum nodeKind).draft nodePool).tasks ["acme.Node", "kind"] = [] := rfl
  rw [htasks, walk, if_neg (by decide), walk, if_pos (by decide), hkind, List.nil_append, walk]
  rfl

theorem node_next {v : Json} :
    FieldConforms δ nodePool (.message ".acme.Node") ({} : FieldConstraints).inForce v ↔
      MessageConforms δ nodePool nodeMessage v := by
  have hname : WellKnownType.ofName? ".acme.Node" = none := rfl
  have hfind : nodePool.message? ".acme.Node" = some nodeMessage := rfl
  rw [FieldConforms, EmbeddedConforms, hname, hfind]
  simp

theorem node_kind {v : Json} :
    FieldConforms δ nodePool (.enum ".acme.Kind") ({} : FieldConstraints).inForce v ↔
      v = .string "LEAF" := by
  have hfind : nodePool.enum? ".acme.Kind" = some nodeKind := rfl
  have hdefault : nodeKind.firstName? 0 = some "LEAF" := rfl
  rw [FieldConforms, EnumConforms, hfind]
  simp [EnumRules.Permits, EnumType.Declares, nodeKind, FieldConstraints.inForce,
    FieldConstraints.skipsDefault]

theorem node_conforms {members : List (String × Json)} :
    MessageConforms δ nodePool nodeMessage (.object members) ↔
      ∀ x ∈ members, x.1 = "next" ∧ MessageConforms δ nodePool nodeMessage x.2 ∨
        x.1 = "kind" ∧ x.2 = .string "LEAF" := by
  have hfields : ∀ P : Field → Prop, (∃ f ∈ nodeMessage.fields, P f) ↔
      P (.ofDescriptor (plainField "next" (.message "acme.Node"))) ∨
        P (.ofDescriptor (plainField "kind" (.enum "acme.Kind"))) := by
    intro P
    simp [nodeMessage]
  rw [MessageConforms]
  simp only [hfields]
  have hoptional : ∀ f ∈ nodeMessage.fields, isRequired f = false := by decide
  have hrequired : ∀ f ∈ nodeMessage.fields, f.MustBePresent → Present members f.jsonName := by
    intro f hf h
    rw [← isRequired_iff, hoptional f hf] at h
    cases h
  have honeofs : ∀ o ∈ nodeMessage.oneofs, o.required = true →
      ∃! name, name ∈ (nodeMessage.members o).map (·.jsonName) ∧ Present members name := by
    simp [nodeMessage]
  rw [and_iff_left ⟨hrequired, honeofs⟩]
  refine forall_congr' fun x => imp_congr_right fun _ => or_congr ?_ ?_
  · exact and_congr eq_comm node_next
  · exact and_congr eq_comm node_kind

/-- To check an enum inside two nodes takes reading three references, one of them to the root. -/
theorem node_accepts :
    ∃ d, document nodePool nodeMessage = .ok d ∧ ∀ δ refs, d.Interprets δ refs → ∀ name,
      d.root.Holds δ refs (.object [("next", .object [("next", .object [("kind",
        .string name)])])]) ↔ name = "LEAF" := by
  have hmem : nodeMessage ∈ nodePool.messages := List.mem_singleton_self _
  have hfresh : ∀ name ∈ nodePool.names, ∀ t : WellKnownType, name ≠ t.fullName := by
    intro name hname t
    revert name
    cases t <;> decide
  obtain ⟨d, hd, -⟩ := document_of_walk nodePool_walk
  refine ⟨d, hd, fun δ refs hrefs name => ?_⟩
  rw [(document_accepts nodePool_built hfresh hmem hd δ).2 refs hrefs]
  simp [node_conforms]

end Generation

end ProtoSchema
