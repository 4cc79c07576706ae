import ProtoSchema.Proofs.Generation.Walk

/-!
# The definitions of a document

A document is closed: each of its references leads to its root or to one of its definitions.  Its
definitions are those of the types that the message reaches, in the order of a walk in depth first,
exactly if their names tell these types apart.
-/

namespace ProtoSchema

namespace Generation

/-! ## 1. What a message reaches -/

/-- One type leads to another by any number of links. -/
def Reaches (p : Pool) : Target → Target → Prop :=
  Relation.ReflTransGen fun t u => u ∈ t.links p

/-- The keys are those of the types other than the message that the message reaches, in the order of
their first visits by a walk in depth first that tells types apart. -/
def ListsReached (p : Pool) (m : Message) (keys : List String) : Prop :=
  ∃ order, Visits id (Target.links p) {.message m} ((Target.message m).links p) order ∧
    (∀ t, t ∈ order ↔ Reaches p (.message m) t ∧ t ≠ .message m) ∧ keys = order.map Target.key

/-- No shared type that the message reaches bears the name of the message, or of an enum that the
message reaches. -/
def NamesApart (p : Pool) (m : Message) : Prop :=
  ∀ s : SharedType, Reaches p (.message m) (.shared s) →
    m.fullName ≠ s.wellKnown.fullName ∧
      ∀ e, Reaches p (.message m) (.enum e) → e.fullName ≠ s.wellKnown.fullName

theorem Reaches.known {p : Pool} {t u : Target} (h : Reaches p t u) (ht : t.Known p) :
    u.Known p := by
  cases h with
  | refl => exact ht
  | tail _ hlink => exact Target.links_known _ _ hlink

/-- A link to a message is made by a name that stands for no well-known type. -/
theorem messageLinks_ne {p : Pool} {name : String} {m : Message}
    (h : Target.message m ∈ messageLinks p name) (t : WellKnownType) : m.fullName ≠ t.fullName := by
  unfold messageLinks at h
  split at h
  next =>
    obtain ⟨s, -, hs⟩ := List.mem_map.1 h
    cases hs
  next hnone =>
    obtain ⟨m', hm', he⟩ := List.mem_map.1 h
    cases he
    -- A declared message is looked up only once its name is found to be no well-known one.
    have hname := List.find?_some (Option.mem_toList.1 hm')
    rw [of_decide_eq_true hname]
    exact WellKnownType.inFull_ne hnone t

theorem enumLinks_enum {p : Pool} {name : String} {c : FieldConstraints} {m : Message} :
    Target.message m ∉ enumLinks p name c := by
  unfold enumLinks
  split
  · exact List.not_mem_nil
  · intro h
    obtain ⟨e, -, he⟩ := List.mem_map.1 h
    cases he

theorem links_ne {p : Pool} {t : Target} {m : Message} (h : Target.message m ∈ t.links p)
    (w : WellKnownType) : m.fullName ≠ w.fullName := by
  have helement : ∀ {x c}, Target.message m ∈ elementLinks p x c → m.fullName ≠ w.fullName := by
    intro x c hx
    cases x with
    | scalar kind => cases hx
    | enum name => exact absurd hx enumLinks_enum
    | message name => exact messageLinks_ne hx w
  cases t with
  | enum e => cases h
  | shared s => cases s <;> simp [Target.links] at h
  | message m' =>
    obtain ⟨f, -, h⟩ := List.mem_flatMap.1 h
    unfold fieldLinks at h
    generalize f.type = x at h
    cases x with
    | scalar kind => cases h
    | enum name => exact absurd h enumLinks_enum
    | message name => exact messageLinks_ne h w
    | map key value => exact helement h
    | repeated item => exact helement h

/-- A message that is reached from another one bears the name of no well-known type. -/
theorem Reaches.message_ne {p : Pool} {m m' : Message}
    (h : Reaches p (.message m) (.message m')) (hne : m' ≠ m) (w : WellKnownType) :
    m'.fullName ≠ w.fullName := by
  rcases Relation.ReflTransGen.cases_tail h with he | ⟨t, -, hlink⟩
  · cases he
    exact absurd rfl hne
  · exact links_ne hlink w

/-! ## 2. Names that tell types apart -/

theorem SharedType.fullName_inj {s t : SharedType}
    (h : s.wellKnown.fullName = t.wellKnown.fullName) : s = t := by
  have hkey : s.wellKnown.key = t.wellKnown.key := by
    rw [← WellKnownType.key_fullName, h, WellKnownType.key_fullName]
  have hkind := WellKnownType.key_inj.1 hkey
  cases s <;> cases t <;> first | rfl | cases hkind

theorem NamesApart.injOn {p : Pool} (hp : p.Sound) {m : Message} (hm : m ∈ p.messages)
    (h : NamesApart p m) : Set.InjOn Target.fullName {t | Reaches p (.message m) t} := by
  obtain ⟨hmessages, henums, hboth⟩ := hp.declared_inj
  have hshared : ∀ t s, Reaches p (.message m) t → Reaches p (.message m) (.shared s) →
      t.fullName = s.wellKnown.fullName → t = .shared s := by
    intro t s ht hs he
    cases t with
    | message m' =>
      by_cases hmm : m' = m
      · exact absurd (hmm ▸ he) (h s hs).1
      · exact absurd he (Reaches.message_ne ht hmm s.wellKnown)
    | enum e => exact absurd he ((h s hs).2 e ht)
    | shared s' => rw [SharedType.fullName_inj he]
  -- Declared types have names of their own; what is left is a shared type against a declared one.
  intro t ht u hu he
  have htk : t.Known p := Reaches.known ht hm
  have huk : u.Known p := Reaches.known hu hm
  cases u with
  | shared s => exact hshared t s ht hu he
  | message m' =>
    cases t with
    | message m'' => rw [hmessages m'' htk m' huk he]
    | enum e => exact absurd he.symm (hboth m' huk e htk)
    | shared s => exact (hshared (.message m') s hu ht he.symm).symm
  | enum e =>
    cases t with
    | message m' => exact absurd he (hboth m' htk e huk)
    | enum e' => rw [henums e' htk e huk he]
    | shared s => exact (hshared (.enum e) s hu ht he.symm).symm

/-! ## 3. Keys -/

theorem Target.Known.key_inj {p : Pool} (hp : p.Sound) {t u : Target} (ht : t.Known p)
    (hu : u.Known p) : t.key = u.key ↔ t.fullName = u.fullName :=
  (ht.dotLed hp).key_inj (hu.dotLed hp)

/-- What a walk from a message comes to is known. -/
theorem visits_known {p : Pool} {m : Message} {seen : Set String} {order : List Target}
    (h : Visits Target.fullName (Target.links p) seen ((Target.message m).links p) order) :
    ∀ t ∈ order, t.Known p := by
  intro t ht
  obtain ⟨r, hr, hreach⟩ := h.reached t ht
  exact Reaches.known hreach (Target.links_known _ r hr)

/-- Known types whose names are distinct have distinct keys. -/
theorem keys_nodup {p : Pool} (hp : p.Sound) {ts : List Target} (hknown : ∀ t ∈ ts, t.Known p)
    (h : (ts.map Target.fullName).Nodup) : (ts.map Target.key).Nodup := by
  refine List.Nodup.map_on (fun t ht u hu he => ?_) h.of_map
  exact List.inj_on_of_nodup_map h ht hu (((hknown t ht).key_inj hp (hknown u hu)).1 he)

/-- The keys of the types of a walk are new and distinct, as their names are. -/
theorem visits_keys {p : Pool} (hp : p.Sound) {m : Message} (hm : m ∈ p.messages)
    {order : List Target}
    (h : Visits Target.fullName (Target.links p) {m.fullName} ((Target.message m).links p) order) :
    (order.map Target.key).Nodup ∧ (Target.message m).key ∉ order.map Target.key := by
  have hknown := visits_known h
  have hown : (Target.message m).Known p := hm
  constructor
  · exact keys_nodup hp hknown h.nodup
  · intro hk
    obtain ⟨t, ht, he⟩ := List.mem_map.1 hk
    exact h.fresh t ht (((hknown t ht).key_inj hp hown).1 he)

theorem lookup_of_mem {α : Type} {entries : List (String × α)} (h : (entries.map (·.1)).Nodup)
    {key : String} {x : α} (hx : (key, x) ∈ entries) : entries.lookup key = some x := by
  induction entries with
  | nil => cases hx
  | cons entry rest ih =>
    obtain ⟨k, y⟩ := entry
    obtain ⟨hk, hrest⟩ := List.nodup_cons.1 h
    rcases List.mem_cons.1 hx with he | hx
    · cases he
      exact List.lookup_cons_self
    · have hne : (key == k) = false := by
        rw [beq_eq_false_iff_ne]
        exact fun he => hk (List.mem_map.2 ⟨_, hx, he⟩)
      rw [List.lookup_cons, hne]
      exact ih hrest hx

theorem mem_of_lookup {α : Type} {entries : List (String × α)} {key : String} {x : α}
    (h : entries.lookup key = some x) : (key, x) ∈ entries := by
  induction entries with
  | nil => cases h
  | cons entry rest ih =>
    obtain ⟨k, y⟩ := entry
    rw [List.lookup_cons] at h
    split at h
    next hk =>
      rw [eq_of_beq hk]
      cases h
      exact List.mem_cons_self
    next => exact List.mem_cons_of_mem _ (ih h)

/-- Where the keys list what the message reaches, distinct keys tell the types apart. -/
theorem ListsReached.namesApart {p : Pool} {m : Message} {keys : List String}
    (h : ListsReached p m keys) (hnodup : keys.Nodup) (hown : (Target.message m).key ∉ keys) :
    NamesApart p m := by
  obtain ⟨order, -, hmem, rfl⟩ := h
  intro s hs
  have hsorder : Target.shared s ∈ order := (hmem _).2 ⟨hs, fun he => by cases he⟩
  refine ⟨fun he => hown ?_, fun e hreach he => ?_⟩
  · have hkey : (Target.shared s).key = (Target.message m).key :=
      congrArg TypeName.key he.symm
    exact hkey ▸ List.mem_map_of_mem hsorder
  · have heorder : Target.enum e ∈ order := (hmem _).2 ⟨hreach, fun he => by cases he⟩
    have hkey : (Target.enum e).key = (Target.shared s).key := congrArg TypeName.key he
    cases List.inj_on_of_nodup_map hnodup heorder hsorder hkey

/-- Where names tell the types apart, the walk by names is the walk by types. -/
theorem NamesApart.visits {p : Pool} (hp : p.Sound) {m : Message} (hm : m ∈ p.messages)
    (h : NamesApart p m) {order : List Target}
    (horder : Visits Target.fullName (Target.links p) {m.fullName} ((Target.message m).links p)
      order) :
    Visits id (Target.links p) {.message m} ((Target.message m).links p) order := by
  have hinj := h.injOn hp hm
  have hown : Reaches p (.message m) (.message m) := .refl
  have hnext : ∀ t ∈ {t | Reaches p (.message m) t}, ∀ u ∈ t.links p,
      u ∈ {t | Reaches p (.message m) t} := fun t ht u hu => .tail ht hu
  have hseen : ∀ t ∈ {t | Reaches p (.message m) t},
      t.fullName ∈ ({m.fullName} : Set String) ↔ t ∈ ({.message m} : Set Target) := by
    intro t ht
    rw [Set.mem_singleton_iff, Set.mem_singleton_iff]
    exact ⟨fun he => hinj ht hown he, fun he => he ▸ rfl⟩
  exact (horder.ofNames hnext hinj hseen fun t ht => .single ht).1

theorem NamesApart.listsReached {p : Pool} (hp : p.Sound) {m : Message} (hm : m ∈ p.messages)
    (h : NamesApart p m) {order : List Target}
    (horder : Visits Target.fullName (Target.links p) {m.fullName} ((Target.message m).links p)
      order) : ListsReached p m (order.map Target.key) :=
  ⟨order, h.visits hp hm horder, fun _ => (h.visits hp hm horder).mem_iff, rfl⟩

/-! ## 4. Documents -/

/-- Placed in a document, a reference to the definition of the message leads to the root. -/
theorem place_definition {key k : String} {r : Reference} (h : place key (.definition k) = r) :
    r = .root ∧ k = key ∨ r = .definition k ∧ k ≠ key := by
  by_cases hk : k = key
  · exact .inl ⟨h.symm.trans (if_pos hk), hk⟩
  · exact .inr ⟨h.symm.trans (if_neg hk), hk⟩

/-- Placed in the document of a message, a schema refers to the root and to the definitions of the
types of the walk. -/
theorem references_placed {p : Pool} (hp : p.Sound) {m : Message} {order : List Target}
    (h : Visits Target.fullName (Target.links p) {m.fullName} ((Target.message m).links p) order)
    {t : Target} (ht : t = .message m ∨ t ∈ order) {s : Schema} (hs : TargetForm p t s) :
    ∀ r ∈ (s.redirect (place (Target.message m).key)).references,
      r = .root ∨ ∃ k ∈ order.map Target.key, r = .definition k := by
  intro r hr
  rw [Schema.references_redirect, List.mem_map] at hr
  obtain ⟨r', hr', he⟩ := hr
  obtain ⟨u, hu, rfl⟩ := hs.refersTo r' hr'
  rcases place_definition he with ⟨rfl, -⟩ | ⟨rfl, hne⟩
  · exact .inl rfl
  · -- The walk starts at the message or has visited `t`, so it has come to the name of `u`.
    have hname : u.fullName ∈ ({m.fullName} : Set String) ∪ named Target.fullName order := by
      rcases ht with rfl | ht
      · exact h.complete u hu
      · exact h.closed t ht u hu
    have hknown : u.Known p := t.links_known u hu
    rcases hname with hname | hname
    · exact absurd (congrArg TypeName.key (Set.mem_singleton_iff.1 hname)) hne
    · obtain ⟨v, hv, hvu⟩ := mem_named.1 hname
      refine .inr ⟨u.key, ?_, rfl⟩
      rw [← ((visits_known h v hv).key_inj hp hknown).2 hvu]
      exact List.mem_map_of_mem hv

/-- The keys of the definitions of a document. -/
def definitionKeys (d : Document) : List String := d.definitions.map (·.1)

theorem definitionKeys_eq {p : Pool} {key : String} {order : List Target}
    {definitions : List (String × Schema)}
    (h : List.Forall₂ (fun t x => ∃ s, TargetForm p t s ∧ x = (t.key, s.redirect (place key)))
      order definitions) : definitions.map (·.1) = order.map Target.key := by
  refine map_eq_of_forall₂ ?_ h
  rintro t x ⟨s, -, rfl⟩
  rfl

/-- Every reference in a document leads to its root or to one of its definitions. -/
theorem DocumentForm.closed {p : Pool} (hp : p.Sound) {m : Message} {d : Document}
    (h : DocumentForm p m d) :
    ∀ r ∈ d.references, r = .root ∨ ∃ k ∈ definitionKeys d, r = .definition k := by
  obtain ⟨order, horder, root, hroot, definitions, hdefinitions⟩ := h
  intro r hr
  rw [definitionKeys, definitionKeys_eq hdefinitions]
  rcases List.mem_append.1 hr with hr | hr
  · exact references_placed hp horder (.inl rfl) hroot r hr
  · obtain ⟨x, hx, hr⟩ := List.mem_flatMap.1 hr
    obtain ⟨t, ht, s, hs, rfl⟩ := forall₂_exists_left hdefinitions hx
    exact references_placed hp horder (.inr ht) hs r hr

/-- A walk that meets no fault is followed by a document with a definition for each type that it
came to.  The document is closed, defines no type twice and not its own message, and its definitions
list what the message reaches exactly if no shared type bears the name of another type. -/
theorem document_definitions {set : DescriptorSet} {p : Pool} (hset : Pool.ofSet set = .ok p)
    {m : Message} (hm : m ∈ p.messages) :
    (∀ order, walk p (without m.fullName (definable p)) (((Target.message m).draft p).tasks []) =
        .ok order →
      ∃ d, document p m = .ok d ∧ definitionKeys d = order.map Target.key) ∧
    ∀ d, document p m = .ok d →
      (∀ r ∈ d.references, r = .root ∨ ∃ k ∈ definitionKeys d, r = .definition k) ∧
        (definitionKeys d).Nodup ∧ (Target.message m).key ∉ definitionKeys d ∧
        (ListsReached p m (definitionKeys d) ↔ NamesApart p m) := by
  have hp := Pool.ofSet_sound hset
  constructor
  · intro order horder
    obtain ⟨d, hd, hkeys, -⟩ := document_of_walk horder
    exact ⟨d, hd, hkeys⟩
  · intro d hd
    have hform := document_form hd
    refine ⟨hform.closed hp, ?_⟩
    obtain ⟨order, horder, root, hroot, definitions, hdefinitions⟩ := hform
    rw [definitionKeys, definitionKeys_eq hdefinitions]
    obtain ⟨hnodup, hown⟩ := visits_keys hp hm horder
    exact ⟨hnodup, hown, fun h => h.namesApart hnodup hown, fun h => h.listsReached hp hm horder⟩

/-! ## 5. A name that is borne twice -/

/-- The enum of a package that bears the name of a shared type. -/
def clashingEnum : EnumType := ⟨".google.protobuf.Struct", [⟨"NONE", 0⟩]⟩

/-- A field of a message, without rules. -/
def plainField (name : String) (type : FieldType) : FieldDescriptor :=
  { name, jsonName := some name, type, isOptional := false, oneof := none, constraints := none }

/-- A message with a field of the enum and one of the shared type of the same name. -/
def clashingSet : DescriptorSet where
  filesToGenerate := []
  files := [
    { name := "struct.proto", package := "google.protobuf", messages := []
      enums := [⟨"Struct", [⟨"NONE", 0⟩]⟩] },
    { name := "order.proto", package := "acme", enums := []
      messages := [
        { name := "Order", oneofs := [], messages := [], enums := []
          fields := [plainField "kind" (.enum "google.protobuf.Struct"),
            plainField "data" (.message "google.protobuf.Struct")] }] }]

def clashingMessage : Message where
  fullName := ".acme.Order"
  name := "Order"
  oneofs := []
  fields := [.ofDescriptor (plainField "kind" (.enum "google.protobuf.Struct")),
    .ofDescriptor (plainField "data" (.message "google.protobuf.Struct"))]

def clashingPool : Pool := ⟨[clashingMessage], [clashingEnum], [".acme.Order"]⟩

theorem clashingPool_built : Pool.ofSet clashingSet = .ok clashingPool := by
  simp only [Pool.ofSet, clashingSet, DescriptorSet.declarations, messageDeclarations,
    enumDeclarations, List.flatMap_cons, List.flatMap_nil]
  rfl

/-- The walk comes to the enum first and takes the shared type for it. -/
theorem clashingPool_walk :
    walk clashingPool (without clashingMessage.fullName (definable clashingPool))
      (((Target.message clashingMessage).draft clashingPool).tasks []) =
      .ok [.enum clashingEnum] := by
  have htasks : ((Target.message clashingMessage).draft clashingPool).tasks [] =
      [.visit ⟨.enum clashingEnum, ["acme.Order", "kind"]⟩,
        .visit ⟨.shared .struct, ["acme.Order", "data"]⟩] := rfl
  have henum : ((Target.enum clashingEnum).draft clashingPool).tasks ["acme.Order", "kind"] = [] :=
    rfl
  rw [htasks, walk, if_pos (by decide), henum, List.nil_append, walk, if_neg (by decide), walk]
  rfl

/-- The document of such a message leaves out the definition of the values of the shared type. -/
theorem clashing_definitions :
    Pool.ofSet clashingSet = .ok clashingPool ∧ clashingMessage ∈ clashingPool.messages ∧
      ∃ d, document clashingPool clashingMessage = .ok d ∧
        definitionKeys d = ["google.protobuf.Struct"] ∧
        ¬ ListsReached clashingPool clashingMessage (definitionKeys d) := by
  have hmem : clashingMessage ∈ clashingPool.messages := List.mem_singleton_self _
  obtain ⟨hbuilt, hall⟩ := document_definitions clashingPool_built hmem
  obtain ⟨d, hd, hkeys⟩ := hbuilt _ clashingPool_walk
  refine ⟨clashingPool_built, hmem, d, hd, hkeys.trans rfl, fun hlists => ?_⟩
  have hlinks : (Target.message clashingMessage).links clashingPool =
      [.enum clashingEnum, .shared .struct] := rfl
  have hreach : ∀ t ∈ (Target.message clashingMessage).links clashingPool,
      Reaches clashingPool (.message clashingMessage) t := fun t ht => .single ht
  rw [hlinks] at hreach
  -- The enum and the shared type of its name are both reached, against what the list would need.
  have hapart := (hall d hd).2.2.2.1 hlists .struct (hreach _ (by simp))
  exact hapart.2 clashingEnum (hreach _ (by simp)) rfl

end Generation

end ProtoSchema
