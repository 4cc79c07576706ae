import ProtoSchema.Proofs.Generation.Structure

/-!
# Names of enums

The schema of an enum accepts declared names only, those of the numbers that its rules admit, whether
it lists the names on the spot or refers to the definition of the enum.  Of the rules on an enum, the
first that is given decides.
-/

namespace ProtoSchema

/-- The number is admitted by the first rule that is given: it is the number that is fixed, one of a
list of numbers, or none of those that are left out. -/
def EnumRules.Admits (r : EnumRules) (number : Int) : Prop :=
  match r.equals with
  | some fixed => number = fixed
  | none => if r.allow ≠ [] then number ∈ r.allow else number ∉ r.deny

/-! ## 1. Names and numbers -/

theorem EnumType.mem_of_firstName {e : EnumType} {number : Int} {name : String}
    (h : e.firstName? number = some name) : ∃ x ∈ e.values, x.name = name ∧ x.number = number := by
  obtain ⟨x, hx, hname⟩ := Option.map_eq_some_iff.1 h
  have hnumber := List.find?_some hx
  exact ⟨x, List.mem_of_find?_eq_some hx, hname, of_decide_eq_true hnumber⟩

/-- A name that is picked out is declared with a number that is admitted, unless nothing is declared
and every name is picked. -/
theorem EnumRules.Permits.declared {e : EnumType} {r : EnumRules} {name : String}
    (h : r.Permits e name) (hvalues : e.values ≠ [] ∨ r.picks = true) :
    ∃ x ∈ e.values, x.name = name ∧ r.Admits x.number := by
  unfold EnumRules.Permits at h
  unfold EnumRules.Admits
  cases hequals : r.equals with
  | some fixed =>
    rw [hequals] at h
    exact EnumType.mem_of_firstName h
  | none =>
    rw [hequals] at h
    by_cases hallow : r.allow ≠ []
    · simp only [if_pos hallow] at h ⊢
      obtain ⟨number, hnumber, hfirst⟩ := h
      obtain ⟨x, hx, hname, rfl⟩ := EnumType.mem_of_firstName hfirst
      exact ⟨x, hx, hname, hnumber⟩
    · simp only [if_neg hallow] at h ⊢
      by_cases hdeny : r.deny ≠ []
      · rw [if_pos hdeny] at h
        obtain ⟨x, hx, hnumber, hname⟩ := h
        exact ⟨x, hx, hname, hnumber⟩
      · -- No rule is given, so every declared name is picked, and there are some.
        rw [if_neg hdeny] at h
        have hnil : e.values ≠ [] := by
          refine hvalues.resolve_right fun hpicks => ?_
          simp [EnumRules.picks, hequals, not_not.1 hallow, not_not.1 hdeny] at hpicks
        obtain ⟨x, hx, hname⟩ := h.resolve_left hnil
        rw [not_not.1 hdeny]
        exact ⟨x, hx, hname, List.not_mem_nil⟩

/-- The first name of a number that is admitted is picked out. -/
theorem EnumRules.permits_of_admits {e : EnumType} {r : EnumRules} {number : Int} {name : String}
    (hname : e.firstName? number = some name) (h : r.Admits number) : r.Permits e name := by
  unfold EnumRules.Admits at h
  unfold EnumRules.Permits
  obtain ⟨x, hx, hxname, rfl⟩ := EnumType.mem_of_firstName hname
  cases hequals : r.equals with
  | some fixed =>
    rw [hequals] at h
    exact h ▸ hname
  | none =>
    rw [hequals] at h
    by_cases hallow : r.allow ≠ []
    · simp only [if_pos hallow] at h ⊢
      exact ⟨x.number, h, hname⟩
    · simp only [if_neg hallow] at h ⊢
      by_cases hdeny : r.deny ≠ []
      · rw [if_pos hdeny]
        exact ⟨x, hx, h, hxname⟩
      · rw [if_neg hdeny]
        exact .inr ⟨x, hx, hxname⟩

namespace Generation

open Draft

/-! ## 2. The definition of an enum -/

/-- The walk from a message comes to the name of every enum that the message reaches, since only
messages that it visits have links to enums. -/
theorem visits_reached_enum {p : Pool} (hp : p.Sound) {m : Message} (hm : m ∈ p.messages)
    {order : List Target}
    (horder : Visits Target.fullName (Target.links p) {m.fullName} ((Target.message m).links p)
      order) {e : EnumType} (he : Reaches p (.message m) (.enum e)) :
    e.fullName ∈ ({m.fullName} : Set String) ∪ named Target.fullName order := by
  rcases Relation.ReflTransGen.cases_tail he with hself | ⟨b, hb, hlink⟩
  · cases hself
  · cases b with
    | enum e' => cases hlink
    | shared s => cases s <;> simp [Target.links] at hlink
    | message n =>
      rcases visits_reached_message hp hm horder hb rfl with hn | hn
      · cases hn
        exact horder.complete _ hlink
      · exact horder.closed _ hn _ hlink

/-- An enum that a message reaches stands at its place in the document, unless a shared type bears
its name. -/
theorem schemaAt_enum {p : Pool} (hp : p.Sound) {m : Message} (hm : m ∈ p.messages) {d : Document}
    (hd : document p m = .ok d) {e : EnumType} (he : Reaches p (.message m) (.enum e))
    (hnames : ∀ t : SharedType, Reaches p (.message m) (.shared t) →
      t.wellKnown.fullName ≠ e.fullName) :
    d.schemaAt? (spot m (.enum e)) = some (EnumType.schema e) := by
  obtain ⟨-, henums, hboth⟩ := hp.declared_inj
  obtain ⟨order, horder, -, hplaced⟩ := document_placed hp hm hd
  have hknown : (Target.enum e).Known p := he.known hm
  -- What the walk visited under this name is the enum: no other declared type has the name.
  have hvisited : Target.enum e ∈ order := by
    rcases visits_reached_enum hp hm horder he with hown | hnamed
    · exact absurd (Set.mem_singleton_iff.1 hown).symm (hboth m hm e hknown)
    · obtain ⟨t, ht, hname⟩ := mem_named.1 hnamed
      have htknown : t.Known p := visits_known horder t ht
      cases t with
      | message n => exact absurd hname (hboth n htknown e hknown)
      | enum e' =>
        rw [henums e' htknown e hknown hname] at ht
        exact ht
      | shared s =>
        obtain ⟨r, hr, hreach⟩ := horder.reached _ ht
        exact absurd hname (hnames s (.head hr hreach))
  obtain ⟨s, hs, hat⟩ := hplaced _ (.inr hvisited)
  cases hs
  exact hat

/-! ## 3. Uses of enums -/

/-- In a document, the schema of an enum that is never taken for its default accepts the names that
the rules pick out. -/
theorem EnumForm.placed_holds {p : Pool} (hp : p.Sound) {m : Message} (hm : m ∈ p.messages)
    {d : Document} (hd : document p m = .ok d) {name : String} {c : FieldConstraints} {s : Schema}
    {ts : List Target} (hs : EnumForm p name c s ts) (hskips : c.skipsDefault = false)
    {e : EnumType} (he : p.enum? name = some e) (hreached : ∀ t ∈ ts, Reaches p (.message m) t)
    (hnames : ∀ t : SharedType, Reaches p (.message m) (.shared t) →
      t.wellKnown.fullName ≠ e.fullName) {δ : Dialect} {refs : Reference → Json → Prop}
    (hrefs : d.Interprets δ refs) {v : Json} :
    (s.redirect (place (Target.message m).key)).Holds δ refs v ↔
      ∃ text, v = .string text ∧ (c.enumeration.getD {}).Permits e text := by
  rw [Schema.holds_redirect]
  have hright : RightBelow δ p (fun r => refs (place (Target.message m).key r)) ts
      (sizeOf v + 1) := by
    intro t ht w _
    -- The only type that a use of an enum leads to is the enum.
    have hlinks : t ∈ enumLinks p name c := hs.links ▸ ht
    unfold enumLinks at hlinks
    split at hlinks
    · cases hlinks
    · rw [he] at hlinks
      obtain rfl := List.mem_singleton.1 hlinks
      have hat := schemaAt_enum hp hm hd (hreached _ ht) hnames
      change refs (spot m (.enum e)) w ↔ _
      rw [hrefs, hat]
      simp only [Option.some.injEq, exists_eq_left']
      exact holds_enumSchema
  rw [hs.holds hright]
  simp [EnumConforms, he, hskips]

/-- Every value that the schema of an enum accepts is a name that the enum declares with a number
that the first rule given admits, and the first name of each of these numbers is accepted. -/
theorem enumSchema_exact {set : DescriptorSet} {p : Pool} (hset : Pool.ofSet set = .ok p)
    {m : Message} (hm : m ∈ p.messages) {d : Document} (hd : document p m = .ok d) {name : String}
    {c : FieldConstraints} {s : Schema} {ts : List Target}
    (hs : (enumSchema p name c).Yields s ts) (hskips : c.skipsDefault = false)
    {e : EnumType} (he : p.enum? name = some e) (hreached : ∀ t ∈ ts, Reaches p (.message m) t)
    (hvalues : e.values ≠ [] ∨ (c.enumeration.getD {}).picks = true)
    (hnames : ∀ t : SharedType, Reaches p (.message m) (.shared t) →
      t.wellKnown.fullName ≠ e.fullName) {δ : Dialect} {refs : Reference → Json → Prop}
    (hrefs : d.Interprets δ refs) :
    (∀ v, (s.redirect (place (Target.message m).key)).Holds δ refs v →
      ∃ x ∈ e.values, v = .string x.name ∧ (c.enumeration.getD {}).Admits x.number) ∧
    ∀ number first, e.firstName? number = some first → (c.enumeration.getD {}).Admits number →
      (s.redirect (place (Target.message m).key)).Holds δ refs (.string first) := by
  have hp := Pool.ofSet_sound hset
  have hholds : ∀ v, (s.redirect (place (Target.message m).key)).Holds δ refs v ↔
      ∃ text, v = .string text ∧ (c.enumeration.getD {}).Permits e text := fun v =>
    EnumForm.placed_holds hp hm hd (Yields.enum hs) hskips he hreached hnames hrefs
  constructor
  · intro v hv
    obtain ⟨text, rfl, hpermits⟩ := (hholds v).1 hv
    obtain ⟨x, hx, rfl, hadmits⟩ := hpermits.declared hvalues
    exact ⟨x, hx, rfl, hadmits⟩
  · intro number first hfirst hadmits
    exact (hholds _).2 ⟨first, rfl, EnumRules.permits_of_admits hfirst hadmits⟩

def nightConstraints : FieldConstraints := { enumeration := some { deny := [2] } }

/-- A lamp has modes of which two have the same number, and at night it is not to shine bright. -/
def lampSet : DescriptorSet where
  filesToGenerate := []
  files := [
    { name := "lamp.proto", package := "acme"
      enums := [⟨"Mode", [⟨"OFF", 0⟩, ⟨"LOW", 1⟩, ⟨"DIM", 1⟩, ⟨"BRIGHT", 2⟩]⟩]
      messages := [
        { name := "Lamp", oneofs := [], messages := [], enums := []
          fields := [plainField "mode" (.enum "acme.Mode"),
            { plainField "night" (.enum "acme.Mode") with
              constraints := some nightConstraints }] }] }]

def lampMode : EnumType :=
  ⟨".acme.Mode", [⟨"OFF", 0⟩, ⟨"LOW", 1⟩, ⟨"DIM", 1⟩, ⟨"BRIGHT", 2⟩]⟩

def lampMessage : Message where
  fullName := ".acme.Lamp"
  name := "Lamp"
  oneofs := []
  fields := [.ofDescriptor (plainField "mode" (.enum "acme.Mode")),
    .ofDescriptor
      { plainField "night" (.enum "acme.Mode") with constraints := some nightConstraints }]

def lampPool : Pool := ⟨[lampMessage], [lampMode], [".acme.Lamp"]⟩

theorem lampPool_built : Pool.ofSet lampSet = .ok lampPool := by
  simp only [Pool.ofSet, lampSet, DescriptorSet.declarations, messageDeclarations,
    enumDeclarations, List.flatMap_cons, List.flatMap_nil]
  rfl

theorem lampPool_walk :
    walk lampPool (without lampMessage.fullName (definable lampPool))
      (((Target.message lampMessage).draft lampPool).tasks []) = .ok [.enum lampMode] := by
  have htasks : ((Target.message lampMessage).draft lampPool).tasks [] =
      [.visit ⟨.enum lampMode, ["acme.Lamp", "mode"]⟩] := rfl
  have hmode : ((Target.enum lampMode).draft lampPool).tasks ["acme.Lamp", "mode"] = [] := rfl
  rw [htasks, walk, if_pos (by decide), hmode, List.append_nil, walk]
  rfl

theorem lampMode_reached :
    ∀ t ∈ [Target.enum lampMode], Reaches lampPool (.message lampMessage) t := by
  have hlinks : (Target.message lampMessage).links lampPool = [.enum lampMode] := rfl
  intro t ht
  apply Relation.ReflTransGen.single
  rw [hlinks]
  exact ht

theorem lampPool_fresh : ∀ name ∈ lampPool.names, ∀ t : WellKnownType, name ≠ t.fullName := by
  intro name hname t
  revert name
  cases t <;> decide

/-- Without rules the definition of the modes is referred to, and it accepts declared names only,
with the first name of each number; at night the name of the number that is left out is none of
them. -/
theorem lampModes_named :
    ∃ d s t, document lampPool lampMessage = .ok d ∧
      (enumSchema lampPool ".acme.Mode" {}).Yields s [.enum lampMode] ∧
      (enumSchema lampPool ".acme.Mode" nightConstraints).Yields t [] ∧
      ∀ δ, ∃ refs, d.Interprets δ refs ∧
        (∀ v, (s.redirect (place (Target.message lampMessage).key)).Holds δ refs v →
          ∃ name ∈ ["OFF", "LOW", "DIM", "BRIGHT"], v = .string name) ∧
        (∀ name ∈ ["OFF", "LOW", "BRIGHT"],
          (s.redirect (place (Target.message lampMessage).key)).Holds δ refs (.string name)) ∧
        (∀ v, (t.redirect (place (Target.message lampMessage).key)).Holds δ refs v →
          ∃ name ∈ ["OFF", "LOW", "DIM"], v = .string name) ∧
        ∀ name ∈ ["OFF", "LOW"],
          (t.redirect (place (Target.message lampMessage).key)).Holds δ refs (.string name) := by
  have hmem : lampMessage ∈ lampPool.messages := List.mem_singleton_self _
  have hp := Pool.ofSet_sound lampPool_built
  have hmode : (enumSchema lampPool ".acme.Mode" {}).Yields _ [.enum lampMode] := ⟨rfl, rfl⟩
  have hnight : (enumSchema lampPool ".acme.Mode" nightConstraints).Yields _ [] := ⟨rfl, rfl⟩
  have hnames : ∀ t : SharedType, Reaches lampPool (.message lampMessage) (.shared t) →
      t.wellKnown.fullName ≠ lampMode.fullName := by
    intro t _
    apply (lampPool_fresh lampMode.fullName _ t.wellKnown).symm
    exact List.mem_append_right _ (List.mem_singleton_self _)
  have hvalues : lampMode.values ≠ [] := List.cons_ne_nil _ _
  obtain ⟨d, hd, -⟩ := document_of_walk lampPool_walk
  refine ⟨d, _, _, hd, hmode, hnight, fun δ => ?_⟩
  obtain ⟨refs, hrefs⟩ : ∃ refs, d.Interprets δ refs :=
    ((document_form hd).layout hp hmem (namesApart_of_fresh lampPool_fresh hmem)).interprets hp hmem
  have hanyMode := enumSchema_exact lampPool_built hmem hd hmode rfl rfl lampMode_reached
    (.inl hvalues) hnames hrefs
  have hnightMode := enumSchema_exact lampPool_built hmem hd hnight rfl rfl
    (List.forall_mem_nil _) (.inl hvalues) hnames hrefs
  refine ⟨refs, hrefs, fun v hv => ?_, ?_, fun v hv => ?_, ?_⟩
  · obtain ⟨x, hx, rfl, -⟩ := hanyMode.1 v hv
    have hdeclared : ∀ x ∈ lampMode.values, x.name ∈ ["OFF", "LOW", "DIM", "BRIGHT"] := by decide
    exact ⟨x.name, hdeclared x hx, rfl⟩
  · rw [List.forall_mem_cons, List.forall_mem_cons, List.forall_mem_singleton]
    exact ⟨hanyMode.2 0 "OFF" rfl List.not_mem_nil, hanyMode.2 1 "LOW" rfl List.not_mem_nil,
      hanyMode.2 2 "BRIGHT" rfl List.not_mem_nil⟩
  · obtain ⟨x, hx, rfl, hadmitted⟩ := hnightMode.1 v hv
    have hdeclared : ∀ x ∈ lampMode.values, x.number ∉ [2] → x.name ∈ ["OFF", "LOW", "DIM"] := by
      decide
    exact ⟨x.name, hdeclared x hx hadmitted, rfl⟩
  · have hoff : (0 : Int) ∉ [2] := by decide
    have hlow : (1 : Int) ∉ [2] := by decide
    rw [List.forall_mem_cons, List.forall_mem_singleton]
    exact ⟨hnightMode.2 0 "OFF" rfl hoff, hnightMode.2 1 "LOW" rfl hlow⟩

/-- The permission that a door asks for is fixed to one number, and a list gives another one. -/
def doorSet : DescriptorSet where
  filesToGenerate := []
  files := [
    { name := "door.proto", package := "acme"
      enums := [⟨"Perm", [⟨"PERM_UNKNOWN", 0⟩, ⟨"PERM_READ", 1⟩]⟩]
      messages := [
        { name := "Door", oneofs := [], messages := [], enums := []
          fields := [
            { plainField "perm" (.enum "acme.Perm") with
              constraints := some
                { enumeration := some { equals := some 0, allow := [1] } } }] }] }]

def doorPerm : EnumType := ⟨".acme.Perm", [⟨"PERM_UNKNOWN", 0⟩, ⟨"PERM_READ", 1⟩]⟩

def doorField : Field where
  name := "perm"
  jsonName := "perm"
  type := .enum ".acme.Perm"
  isOptional := false
  oneof := none
  constraints := { enumeration := some { equals := some 0, allow := [1] } }

def doorMessage : Message where
  fullName := ".acme.Door"
  name := "Door"
  fields := [doorField]
  oneofs := []

def doorPool : Pool := ⟨[doorMessage], [doorPerm], [".acme.Door"]⟩

/-- The name of the number that is fixed is accepted although the number is not in the list. -/
theorem fixed_number_outside_list :
    Pool.ofSet doorSet = .ok doorPool ∧
      ∃ s, (fieldSchema doorPool doorField).Yields s [] ∧
        (∀ f δ refs, (s.redirect f).Holds δ refs (.string "PERM_UNKNOWN")) ∧
        ¬ ∃ x ∈ doorPerm.values, x.name = "PERM_UNKNOWN" ∧ x.number ∈ [1] := by
  have hbuilt : Pool.ofSet doorSet = .ok doorPool := by
    simp only [Pool.ofSet, doorSet, DescriptorSet.declarations, messageDeclarations,
      enumDeclarations, List.flatMap_cons, List.flatMap_nil]
    rfl
  have hyields : (fieldSchema doorPool doorField).Yields (.ofString "PERM_UNKNOWN") [] := ⟨rfl, rfl⟩
  refine ⟨hbuilt, _, hyields, fun f δ refs => ?_, by decide⟩
  rw [Schema.holds_redirect, Schema.holds_ofString]

end Generation

end ProtoSchema
