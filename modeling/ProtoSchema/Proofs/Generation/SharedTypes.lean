import ProtoSchema.Proofs.Generation.Structure

/-!
# Shared types in documents

A use of a shared type refers to the definition of its name.  What stands there is the schema of the
shared type, unless a message or an enum bears its name: the message whose document it is, or an
enum that the document defines.
-/

namespace ProtoSchema

/-- The title of a schema that has one of its own. -/
def Schema.title? : Schema → Option String
  | object k => k.title
  | array k => k.title
  | generic k => k.title
  | string k => k.title
  | integer k => k.title
  | number k => k.title
  | boolean k => k.title
  | _ => none

namespace Generation

open Schema

/-! ## 1. What a use refers to -/

/-- A field is of a shared type, or its items or values are. -/
inductive UsesShared : FieldType → SharedType → Prop
  | message {name : String} {s : SharedType} (h : WellKnownType.ofName? name = some s.wellKnown) :
      UsesShared (.message name) s
  | item {name : String} {s : SharedType} (h : WellKnownType.ofName? name = some s.wellKnown) :
      UsesShared (.repeated (.message name)) s
  | value (key : ScalarKind) {name : String} {s : SharedType}
      (h : WellKnownType.ofName? name = some s.wellKnown) :
      UsesShared (.map key (.message name)) s

theorem SharedType.wellKnown_inj {s t : SharedType} (h : s.wellKnown = t.wellKnown) : s = t :=
  SharedType.fullName_inj (congrArg WellKnownType.fullName h)

/-- Rules narrow dynamically typed messages beside the reference, not in its place. -/
theorem anyUnder_references (r : AnyRules) :
    (anyUnder r).references = [.definition (Target.shared .any).key] := by
  let narrowing : List Schema := (if r.allow.isEmpty then [] else [typeAmong r.allow]) ++
    (if r.deny.isEmpty then [] else [.not (typeAmong r.deny)])
  have hunder : anyUnder r =
      .conjunction (.ref (.definition (Target.shared .any).key) :: narrowing) := rfl
  have hnarrowing : ∀ s ∈ narrowing, s.isNever = false ∧ s.references = [] := by
    intro s hs
    rcases List.mem_append.1 hs with hs | hs
    · split at hs
      · cases hs
      · rw [List.mem_singleton.1 hs]
        exact ⟨rfl, rfl⟩
    · split at hs
      · cases hs
      · rw [List.mem_singleton.1 hs]
        exact ⟨rfl, rfl⟩
  have hany : (Schema.ref (.definition (Target.shared .any).key) :: narrowing).any isNever =
      false := by
    rw [List.any_cons]
    exact List.any_eq_false.2 fun s hs => by rw [(hnarrowing s hs).1]; decide
  have hsilent : narrowing.flatMap references = [] :=
    List.flatMap_eq_nil_iff.2 fun s hs => (hnarrowing s hs).2
  rw [hunder, references_conjunction hany, List.flatMap_cons, hsilent]
  rfl

theorem WellKnownForm.shared_references {c : FieldConstraints} {t : WellKnownType} {fs : Schema}
    {ts : List Target} (h : WellKnownForm c t fs ts) {s : SharedType} (hs : t = s.wellKnown) :
    fs.references = [.definition (Target.shared s).key] := by
  cases h with
  | any o hrules =>
    have hany : SharedType.any = s := SharedType.wellKnown_inj hs
    rw [← hany]
    exact anyUnder_references (o.getD {})
  | duration => cases s <;> cases hs
  | timestamp => cases s <;> cases hs
  | shared u =>
    rw [SharedType.wellKnown_inj hs]
    rfl
  | wrapper t kind hkind =>
    rw [hs] at hkind
    cases s <;> cases hkind

theorem EmbeddedForm.shared_references {p : Pool} {name : String} {c : FieldConstraints}
    {fs : Schema} {ts : List Target} (h : EmbeddedForm p name c fs ts) {s : SharedType}
    (hs : WellKnownType.ofName? name = some s.wellKnown) :
    fs.references = [.definition (Target.shared s).key] := by
  cases h with
  | wellKnown t ht fs ts hform =>
    rw [hs] at ht
    exact hform.shared_references (Option.some.inj ht).symm
  | declared ht =>
    rw [hs] at ht
    cases ht

theorem ElementForm.shared_references {p : Pool} {name : String} {c : FieldConstraints}
    {fs : Schema} {ts : List Target} (h : ElementForm p c (.message name) fs ts) {s : SharedType}
    (hs : WellKnownType.ofName? name = some s.wellKnown) :
    fs.references = [.definition (Target.shared s).key] := by
  cases h with
  | message name fs ts hform => exact hform.shared_references hs

theorem KeyForm.silent {key : ScalarKind} {c : Option FieldConstraints} {names : Option Schema}
    (h : KeyForm key c names) : referencesOption names = [] := by
  cases names with
  | none => rfl
  | some s =>
    apply List.eq_nil_iff_forall_not_mem.2
    intro r hr
    obtain ⟨t, ht, -⟩ := h.refersTo r hr
    cases ht

/-- The schema of a field of a shared type has one reference, to the definition of that type. -/
theorem FieldForm.shared_references {p : Pool} {c : FieldConstraints} {t : FieldType} {fs : Schema}
    {ts : List Target} (h : FieldForm p c t fs ts) {s : SharedType} (hs : UsesShared t s) :
    fs.references = [.definition (Target.shared s).key] := by
  cases hs with
  | message hname =>
    cases h with
    | message name fs ts hform => exact hform.shared_references hname
  | item hname =>
    cases h with
    | repeated item o hrules items ts hitems => exact hitems.shared_references hname
  | value key hname =>
    cases h with
    | map key value o hrules values ts hvalues names hnames =>
      rw [references, referencesNamed, List.nil_append, referencesOption, hnames.silent,
        List.append_nil]
      exact hvalues.shared_references hname

theorem UsesShared.link {p : Pool} {f : Field} {s : SharedType} (h : UsesShared f.type s) :
    Target.shared s ∈ fieldLinks p f := by
  have hlinks : ∀ {name : String}, WellKnownType.ofName? name = some s.wellKnown →
      Target.shared s ∈ messageLinks p name := by
    intro name hname
    unfold messageLinks
    rw [hname]
    cases s <;> exact List.mem_singleton_self _
  unfold fieldLinks
  cases hf : f.type with
  | scalar | enum | message | map | repeated =>
    rw [hf] at h
    cases h <;> exact hlinks ‹_›

/-! ## 2. What stands at a place -/

theorem title?_redirect (f : Reference → Reference) (s : Schema) :
    (s.redirect f).title? = s.title? := by
  cases s with
  | object k =>
    obtain ⟨title, description, properties, required, additional, names, least, most⟩ := k
    rfl
  | array k =>
    obtain ⟨title, description, items, least, most, unique⟩ := k
    rfl
  | always | never | generic | string | integer | number | boolean | ref | allOf | anyOf | oneOf
  | not => rfl

theorem title?_messageUnder (n : Message) (properties : List (String × Schema)) :
    (messageUnder n properties).title? = none := by
  unfold messageUnder conjunction
  split
  · rfl
  · rw [List.filter_cons_of_pos rfl]
    cases (oneofChoices n).filter (!·.isAlways) <;> rfl

theorem title?_shared {s : SharedType} {c : Schema} (h : s.schema.result = .ok c) :
    c.title? ≠ none := by
  cases s <;> cases h <;> exact Option.some_ne_none _

/-- No declared type has the schema of a shared one. -/
theorem TargetForm.ne_shared {p : Pool} {t : Target} {x : Schema} (h : TargetForm p t x)
    (ht : ∀ u, t ≠ .shared u) {s : SharedType} {c : Schema} (hc : s.schema.result = .ok c)
    (f : Reference → Reference) : x.redirect f ≠ c := by
  intro he
  apply title?_shared hc
  rw [← he, title?_redirect]
  cases h with
  | message m properties => exact title?_messageUnder m properties
  | enum e => rfl
  | shared u => exact absurd rfl (ht u)

/-- A shared schema refers to the definitions of the types that it uses. -/
theorem references_shared (p : Pool) {s : SharedType} {c : Schema} (h : s.schema.result = .ok c) :
    c.references = ((Target.shared s).links p).map fun t => .definition t.key := by
  cases s <;> cases h <;> rfl

/-- Only the definition of the message itself is led to another place. -/
theorem place_fixed {key k : String} :
    place key (.definition k) = .definition k ↔ k ≠ key := by
  constructor
  · intro h
    rcases place_definition h with ⟨hroot, -⟩ | ⟨-, hne⟩
    · cases hroot
    · exact hne
  · exact fun hne => if_neg hne

/-- A shared schema stays as it is where none of its references is led to another place. -/
theorem redirect_shared {f : Reference → Reference} {s : SharedType} {c : Schema}
    (h : s.schema.result = .ok c) : c.redirect f = c ↔ ∀ r ∈ c.references, f r = r := by
  constructor
  · intro he r hr
    have hmap : c.references.map f = c.references := by
      rw [← references_redirect, he]
    exact List.map_inj_left.1 (hmap.trans (List.map_id _).symm) r hr
  · intro hf
    -- There is at most one reference, to the values of a list or of an object.
    have hvalue : Reference.definition (Target.shared .value).key ∈ c.references →
        f (.definition (Target.shared .value).key) = .definition (Target.shared .value).key := hf _
    cases s with
    | any | empty | value =>
      cases h
      rfl
    | listValue | struct =>
      cases h
      simp only [redirect, redirectOption, redirectNamed, hvalue (List.mem_singleton_self _)]

/-- A shared schema is placed unchanged unless the message bears the name of a type that it refers
to. -/
theorem redirect_shared_iff {p : Pool} (hp : p.Sound) {m : Message} (hm : m ∈ p.messages)
    {s : SharedType} {c : Schema} (hc : s.schema.result = .ok c) :
    c.redirect (place (Target.message m).key) = c ↔
      ∀ t ∈ (Target.shared s).links p, m.fullName ≠ t.fullName := by
  rw [redirect_shared hc, references_shared p hc, List.forall_mem_map]
  apply forall_congr'
  intro t
  apply imp_congr_right
  intro ht
  have hknown : t.Known p := Target.links_known _ t ht
  have hown : (Target.message m).Known p := hm
  rw [place_fixed, ← ne_comm]
  exact (hown.key_inj hp hknown).not

/-! ## 3. Names that are borne twice -/

/-- In a document that defines the types of `order`, nothing shadows a shared type: the message bears
neither its name nor that of a type that it refers to, and no enum that is defined bears its name. -/
structure Unshadowed (p : Pool) (m : Message) (order : List Target) (s : SharedType) : Prop where
  message : ∀ t ∈ Target.shared s :: (Target.shared s).links p, m.fullName ≠ t.fullName
  enums : ∀ e, Target.enum e ∈ order → e.fullName ≠ s.wellKnown.fullName

/-- What the document has at the place of a shared type is the schema of that type exactly if nothing
shadows it. -/
def ResolvesUnlessShadowed (p : Pool) (m : Message) (d : Document) (order : List Target)
    (s : SharedType) : Prop :=
  ∃ c, s.schema.result = .ok c ∧
    (d.schemaAt? (spot m (.shared s)) = some c ↔ Unshadowed p m order s)

/-- Types of one name have one place. -/
theorem spot_congr {p : Pool} (hp : p.Sound) {m : Message} {t u : Target} (ht : t.Known p)
    (hu : u.Known p) (h : t.fullName = u.fullName) : spot m t = spot m u := by
  unfold spot
  rw [(ht.key_inj hp hu).2 h]

section Walk

variable {p : Pool} {m : Message} {order : List Target} {s : SharedType}
  (horder : Visits Target.fullName (Target.links p) {m.fullName} ((Target.message m).links p) order)

include horder

/-- The name of a shared type that the walk visits is new, so only the names of the types that it
refers to are left to be borne by the message. -/
theorem unshadowed_of_visited (hs : Target.shared s ∈ order) :
    Unshadowed p m order s ↔ ∀ t ∈ (Target.shared s).links p, m.fullName ≠ t.fullName := by
  constructor
  · intro h t ht
    exact h.message t (List.mem_cons_of_mem _ ht)
  · intro h
    constructor
    · intro t ht
      rcases List.mem_cons.1 ht with rfl | ht
      · exact fun he => horder.fresh _ hs he.symm
      · exact h t ht
    · intro e he hname
      have hsame := List.inj_on_of_nodup_map horder.nodup he hs hname
      cases hsame

/-- What has the name of a shared type that nothing shadows is that shared type. -/
theorem Unshadowed.eq_shared (h : Unshadowed p m order s) {t : Target}
    (ht : t = .message m ∨ t ∈ order) (hname : t.fullName = (Target.shared s).fullName) :
    t = .shared s := by
  rcases ht with rfl | ht
  · exact absurd hname (h.message _ List.mem_cons_self)
  · cases t with
    | message n =>
      -- The walk came to this message by a link, and no link by a well-known name is to a message.
      have hne : n ≠ m := by
        rintro rfl
        exact horder.fresh _ ht rfl
      obtain ⟨r, hr, hreach⟩ := horder.reached _ ht
      exact absurd hname (Reaches.message_ne (.head hr hreach) hne s.wellKnown)
    | enum e => exact absurd hname (h.enums e ht)
    | shared u => rw [SharedType.fullName_inj hname]

/-- Where the walk came to the name of a shared type, the document resolves it unless it is
shadowed. -/
theorem resolvesUnlessShadowed (hp : p.Sound) (hm : m ∈ p.messages) {d : Document}
    (hplaced : ∀ t, t = .message m ∨ t ∈ order → ∃ x, (t.draft p).result = .ok x ∧
      d.schemaAt? (spot m t) = some (x.redirect (place (Target.message m).key)))
    (hs : (Target.shared s).fullName ∈ ({m.fullName} : Set String) ∪ named Target.fullName order) :
    ResolvesUnlessShadowed p m d order s := by
  obtain ⟨c, hc⟩ : ∃ c, s.schema.result = .ok c := by cases s <;> exact ⟨_, rfl⟩
  refine ⟨c, hc, ?_⟩
  -- The type that has the place: the message, or the type of that name that the walk visited.
  obtain ⟨t, ht, hname⟩ : ∃ t, (t = .message m ∨ t ∈ order) ∧
      t.fullName = (Target.shared s).fullName := by
    rcases hs with hs | hs
    · exact ⟨.message m, .inl rfl, (Set.mem_singleton_iff.1 hs).symm⟩
    · obtain ⟨t, ht, he⟩ := mem_named.1 hs
      exact ⟨t, .inr ht, he⟩
  have hknown : t.Known p := by
    rcases ht with rfl | ht
    · exact hm
    · exact visits_known horder t ht
  have hshared : (Target.shared s).Known p := trivial
  obtain ⟨x, hx, hat⟩ := hplaced t ht
  rw [← spot_congr hp hknown hshared hname, hat, Option.some.injEq]
  by_cases he : t = .shared s
  · subst he
    have hsorder : Target.shared s ∈ order := ht.resolve_left (fun he => by cases he)
    have hsame : x = c := Except.ok.inj (hx.symm.trans hc)
    rw [hsame, redirect_shared_iff hp hm hc, unshadowed_of_visited horder hsorder]
  · apply iff_of_false
    · have hform : TargetForm p t x := (Yields.target ⟨hx, rfl⟩).1
      apply hform.ne_shared _ hc
      intro u hu
      rw [hu] at hname he
      exact he (congrArg Target.shared (SharedType.fullName_inj hname))
    · intro h
      exact he (h.eq_shared horder ht hname)

end Walk

/-! ## 4. Documents -/

/-- A field of a shared type refers to the place of its name and to nothing else, in the document of
any message. -/
theorem UsesShared.references {p : Pool} {f : Field} {s : SharedType} (h : UsesShared f.type s)
    {t : Schema} (ht : (fieldSchema p f).result = .ok t) (m : Message) :
    (t.redirect (place (Target.message m).key)).references = [spot m (.shared s)] := by
  have hform := Yields.field ⟨ht, rfl⟩
  rw [references_redirect, hform.shared_references h]
  rfl

/-- The walk comes to the name of a shared type that a field of a message uses. -/
theorem UsesShared.visited {p : Pool} (hp : p.Sound) {m : Message} (hm : m ∈ p.messages)
    {order : List Target}
    (horder : Visits Target.fullName (Target.links p) {m.fullName} ((Target.message m).links p)
      order) {n : Message} (hn : Reaches p (.message m) (.message n)) {f : Field}
    (hf : f ∈ n.fields) {s : SharedType} (h : UsesShared f.type s) :
    (Target.shared s).fullName ∈ ({m.fullName} : Set String) ∪ named Target.fullName order := by
  have hlink : Target.shared s ∈ (Target.message n).links p := List.mem_flatMap.2 ⟨f, hf, h.link⟩
  rcases visits_reached_message hp hm horder hn rfl with he | hvisited
  · cases he
    exact horder.complete _ hlink
  · exact horder.closed _ hvisited _ hlink

/-- In every document, the schema of a field of a shared type has one reference, and so have the
schemas of lists and objects of dynamically typed values: it leads to the place of the name of the
shared type.  There the document has the schema of that type exactly if neither the message nor an
enum that it defines shadows it. -/
theorem document_resolves_shared {set : DescriptorSet} {p : Pool} (hset : Pool.ofSet set = .ok p)
    {m : Message} (hm : m ∈ p.messages) {d : Document} (hd : document p m = .ok d) :
    ∃ order, Visits Target.fullName (Target.links p) {m.fullName} ((Target.message m).links p)
        order ∧
      definitionKeys d = order.map Target.key ∧
      (∀ n, Reaches p (.message m) (.message n) → ∀ f ∈ n.fields, ∀ s, UsesShared f.type s →
        (∃ x, d.schemaAt? (spot m (.message n)) = some x ∧ ∀ k, messageObject? x = some k →
          ∃ y, (f.jsonName, y) ∈ k.properties ∧ y.references = [spot m (.shared s)]) ∧
        ResolvesUnlessShadowed p m d order s) ∧
      ∀ t, t = .struct ∨ t = .listValue → Target.shared t ∈ order →
        (∃ x, d.schemaAt? (spot m (.shared t)) = some x ∧
          x.references = [spot m (.shared .value)]) ∧
        ResolvesUnlessShadowed p m d order .value := by
  have hp := Pool.ofSet_sound hset
  obtain ⟨order, horder, hkeys, hplaced⟩ := document_placed hp hm hd
  refine ⟨order, horder, hkeys, ?_, ?_⟩
  · intro n hn f hf s hs
    constructor
    · obtain ⟨x, hat, hholds⟩ := holdsObject_of_reached hp hm hd hn
      refine ⟨x, hat, fun k hk => ?_⟩
      obtain ⟨y, hy, hmem⟩ := hholds.property hk hf
      exact ⟨_, hmem, hs.references hy m⟩
    · exact resolvesUnlessShadowed horder hp hm hplaced (hs.visited hp hm horder hn hf)
  · intro t ht hvisited
    have hlinks : (Target.shared t).links p = [.shared .value] := by
      rcases ht with rfl | rfl <;> rfl
    constructor
    · obtain ⟨x, hx, hat⟩ := hplaced (.shared t) (.inr hvisited)
      refine ⟨_, hat, ?_⟩
      rw [references_redirect, references_shared p hx, hlinks]
      rfl
    · apply resolvesUnlessShadowed horder hp hm hplaced
      apply horder.closed _ hvisited
      rw [hlinks]
      exact List.mem_singleton_self _

/-- A member of the oneof that holds the value of a dynamically typed message. -/
def kindField (name : String) (type : FieldType) : FieldDescriptor :=
  { plainField name type with jsonName := none, oneof := some "kind" }

/-- The file that declares dynamically typed values, as a set for all files has it. -/
def dynamicSet : DescriptorSet where
  filesToGenerate := []
  files := [
    { name := "google/protobuf/struct.proto", package := "google.protobuf"
      enums := [⟨"NullValue", [⟨"NULL_VALUE", 0⟩]⟩]
      messages := [
        { name := "Struct", oneofs := [], messages := [], enums := []
          fields := [plainField "fields" (.map .string (.message "google.protobuf.Value"))] },
        { name := "Value", oneofs := [⟨"kind", none⟩], messages := [], enums := []
          fields := [kindField "null_value" (.enum "google.protobuf.NullValue"),
            kindField "number_value" (.scalar (.numeric .double)),
            kindField "string_value" (.scalar .string), kindField "bool_value" (.scalar .bool),
            kindField "struct_value" (.message "google.protobuf.Struct"),
            kindField "list_value" (.message "google.protobuf.ListValue")] },
        { name := "ListValue", oneofs := [], messages := [], enums := []
          fields := [plainField "values" (.repeated (.message "google.protobuf.Value"))] }] }]

def dynamicObject : Message where
  fullName := ".google.protobuf.Struct"
  name := "Struct"
  oneofs := []
  fields := [.ofDescriptor
    (plainField "fields" (.map .string (.message "google.protobuf.Value")))]

def dynamicValue : Message where
  fullName := ".google.protobuf.Value"
  name := "Value"
  oneofs := [⟨"kind", false, [0, 1, 2, 3, 4, 5]⟩]
  fields := [.ofDescriptor (kindField "null_value" (.enum "google.protobuf.NullValue")),
    .ofDescriptor (kindField "number_value" (.scalar (.numeric .double))),
    .ofDescriptor (kindField "string_value" (.scalar .string)),
    .ofDescriptor (kindField "bool_value" (.scalar .bool)),
    .ofDescriptor (kindField "struct_value" (.message "google.protobuf.Struct")),
    .ofDescriptor (kindField "list_value" (.message "google.protobuf.ListValue"))]

def dynamicList : Message where
  fullName := ".google.protobuf.ListValue"
  name := "ListValue"
  oneofs := []
  fields := [.ofDescriptor (plainField "values" (.repeated (.message "google.protobuf.Value")))]

def dynamicNull : EnumType := ⟨".google.protobuf.NullValue", [⟨"NULL_VALUE", 0⟩]⟩

def dynamicPool : Pool :=
  ⟨[dynamicObject, dynamicValue, dynamicList], [dynamicNull],
    [".google.protobuf.Struct", ".google.protobuf.Value", ".google.protobuf.ListValue"]⟩

theorem dynamicPool_built : Pool.ofSet dynamicSet = .ok dynamicPool := by
  simp only [Pool.ofSet, dynamicSet, DescriptorSet.declarations, messageDeclarations,
    enumDeclarations, List.flatMap_cons, List.flatMap_nil]
  rfl

/-- The walk from the message takes each reference to dynamically typed values for one to the
message. -/
theorem dynamicPool_walk :
    walk dynamicPool (without dynamicValue.fullName (definable dynamicPool))
      (((Target.message dynamicValue).draft dynamicPool).tasks []) =
      .ok [.enum dynamicNull, .shared .struct, .shared .listValue] := by
  have htasks : ((Target.message dynamicValue).draft dynamicPool).tasks [] =
      [.visit ⟨.enum dynamicNull, ["google.protobuf.Value", "null_value"]⟩,
        .visit ⟨.shared .struct, ["google.protobuf.Value", "struct_value"]⟩,
        .visit ⟨.shared .listValue, ["google.protobuf.Value", "list_value"]⟩] := rfl
  have hnull : ((Target.enum dynamicNull).draft dynamicPool).tasks
      ["google.protobuf.Value", "null_value"] = [] := rfl
  have hstruct : ((Target.shared .struct).draft dynamicPool).tasks
      ["google.protobuf.Value", "struct_value"] =
        [.visit ⟨.shared .value, ["google.protobuf.Value", "struct_value"]⟩] := rfl
  have hlist : ((Target.shared .listValue).draft dynamicPool).tasks
      ["google.protobuf.Value", "list_value"] =
        [.visit ⟨.shared .value, ["google.protobuf.Value", "list_value"]⟩] := rfl
  rw [htasks, walk, if_pos (by decide), hnull, List.nil_append, walk, if_pos (by decide), hstruct,
    List.singleton_append, walk, if_neg (by decide), walk, if_pos (by decide), hlist,
    List.singleton_append, walk, if_neg (by decide), walk]
  rfl

/-- The list of dynamically typed values in that document refers to the root, where the object of the
message stands and not the schema of all values. -/
theorem dynamicValue_shadows :
    Pool.ofSet dynamicSet = .ok dynamicPool ∧ dynamicValue ∈ dynamicPool.messages ∧
      ∃ d, document dynamicPool dynamicValue = .ok d ∧
        ∃ x, d.schemaAt? (.definition "google.protobuf.ListValue") = some x ∧
          x.references = [.root] ∧
          ∀ c, SharedType.value.schema.result = .ok c → d.schemaAt? .root ≠ some c := by
  have hmem : dynamicValue ∈ dynamicPool.messages := by
    unfold dynamicPool
    simp
  obtain ⟨d, hd, -⟩ := document_of_walk dynamicPool_walk
  obtain ⟨order, horder, -, -, hall⟩ := document_resolves_shared dynamicPool_built hmem hd
  obtain rfl := (walk_message dynamicPool_walk).2.1.unique horder
  obtain ⟨⟨x, hx, hrefs⟩, c, hc, hiff⟩ := hall .listValue (.inr rfl) (by simp)
  have hlist : spot dynamicValue (.shared .listValue) =
      .definition "google.protobuf.ListValue" := by decide
  have hvalue : spot dynamicValue (.shared .value) = .root := by decide
  rw [hlist] at hx
  rw [hvalue] at hrefs hiff
  refine ⟨dynamicPool_built, hmem, d, hd, x, hx, hrefs, ?_⟩
  intro c' hc' hroot
  cases hc.symm.trans hc'
  exact (hiff.1 hroot).message _ List.mem_cons_self rfl

end Generation

end ProtoSchema
