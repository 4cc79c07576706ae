import ProtoSchema.Proofs.Schema.References

/-!
# The nodes of a schema

A schema is a tree.  It is well formed if each of its nodes is: combinations combine at least two
schemas, conjunctions leave out what makes no difference, and objects require only properties that
they describe.  The combining functions keep schemas well formed, and so does a redirection.
-/

namespace ProtoSchema

namespace Schema

/-! ## 1. Nodes -/

mutual

/-- The schemas inside a schema at any depth. -/
def inner : Schema → List Schema
  | object ⟨_, _, properties, _, additional, names, _, _⟩ =>
    innerNamed properties ++ (innerOption additional ++ innerOption names)
  | array ⟨_, _, items, _, _, _⟩ => innerOption items
  | allOf operands | anyOf operands | oneOf operands => innerAll operands
  | not s => s :: inner s
  | always | never | generic _ | string _ | integer _ | number _ | boolean _ | ref _ => []

def innerAll : List Schema → List Schema
  | [] => []
  | s :: rest => s :: (inner s ++ innerAll rest)

def innerNamed : List (String × Schema) → List Schema
  | [] => []
  | (_, s) :: rest => s :: (inner s ++ innerNamed rest)

def innerOption : Option Schema → List Schema
  | none => []
  | some s => s :: inner s

end

/-- A schema and all schemas inside it. -/
def nodes (s : Schema) : List Schema := s :: s.inner

theorem innerAll_eq (operands : List Schema) : innerAll operands = operands.flatMap nodes := by
  induction operands with
  | nil => rfl
  | cons s rest ih => rw [innerAll, ih, List.flatMap_cons, nodes, List.cons_append]

theorem innerNamed_eq (named : List (String × Schema)) :
    innerNamed named = named.flatMap fun x => x.2.nodes := by
  induction named with
  | nil => rfl
  | cons x rest ih => rw [innerNamed, ih, List.flatMap_cons, nodes, List.cons_append]

theorem innerOption_eq (o : Option Schema) : innerOption o = o.toList.flatMap nodes := by
  cases o with
  | none => rfl
  | some s => exact (List.append_nil _).symm

/-- What a node must be by itself, whatever is inside it. -/
def ProperNode : Schema → Prop
  | allOf operands => 2 ≤ operands.length ∧ always ∉ operands ∧ never ∉ operands
  | anyOf operands => 2 ≤ operands.length
  | oneOf operands => 2 ≤ operands.length
  | object k => k.required.Nodup ∧ k.required ⊆ k.properties.map (·.1)
  | _ => True

/-- Every node is as it must be. -/
def WellFormed (s : Schema) : Prop := ∀ x ∈ s.nodes, x.ProperNode

namespace WellFormed

variable {s : Schema}

theorem iff_inner : s.WellFormed ↔ s.ProperNode ∧ ∀ x ∈ s.inner, x.ProperNode :=
  List.forall_mem_cons

theorem flatMap_nodes {α : Type} {xs : List α} {f : α → Schema} :
    (∀ x ∈ xs.flatMap fun a => (f a).nodes, x.ProperNode) ↔ ∀ a ∈ xs, (f a).WellFormed :=
  List.forall_mem_flatMap

theorem not_iff : (Schema.not s).WellFormed ↔ s.WellFormed := by
  rw [iff_inner, inner]
  exact and_iff_right trivial

theorem allOf_iff {operands : List Schema} :
    (Schema.allOf operands).WellFormed ↔
      (2 ≤ operands.length ∧ always ∉ operands ∧ never ∉ operands) ∧
        ∀ s ∈ operands, s.WellFormed := by
  rw [iff_inner, inner, innerAll_eq, flatMap_nodes]
  rfl

theorem anyOf_iff {operands : List Schema} :
    (Schema.anyOf operands).WellFormed ↔ 2 ≤ operands.length ∧ ∀ s ∈ operands, s.WellFormed := by
  rw [iff_inner, inner, innerAll_eq, flatMap_nodes]
  rfl

theorem oneOf_iff {operands : List Schema} :
    (Schema.oneOf operands).WellFormed ↔ 2 ≤ operands.length ∧ ∀ s ∈ operands, s.WellFormed := by
  rw [iff_inner, inner, innerAll_eq, flatMap_nodes]
  rfl

theorem array_iff {k : ArrayKeywords Schema} :
    (Schema.array k).WellFormed ↔ ∀ s ∈ k.items, s.WellFormed := by
  rw [iff_inner, inner, innerOption_eq, flatMap_nodes]
  simp only [Option.mem_toList]
  exact and_iff_right trivial

theorem object_iff {k : ObjectKeywords Schema} :
    (Schema.object k).WellFormed ↔
      (k.required.Nodup ∧ k.required ⊆ k.properties.map (·.1)) ∧
        (∀ x ∈ k.properties, x.2.WellFormed) ∧ (∀ s ∈ k.additionalProperties, s.WellFormed) ∧
          ∀ s ∈ k.propertyNames, s.WellFormed := by
  rw [iff_inner, inner, innerNamed_eq, innerOption_eq, innerOption_eq, List.forall_mem_append,
    List.forall_mem_append, flatMap_nodes, flatMap_nodes, flatMap_nodes]
  simp only [Option.mem_toList]
  rfl

/-- There is nothing to show of a keyword that is not in use. -/
theorem unused : ∀ s ∈ (none : Option Schema), s.WellFormed :=
  fun s hs => absurd hs (Option.not_mem_none s)

/-- An object that says nothing of properties by name. -/
theorem object_unnamed {k : ObjectKeywords Schema} (hproperties : k.properties = [])
    (hrequired : k.required = []) (hadditional : ∀ s ∈ k.additionalProperties, s.WellFormed)
    (hnames : ∀ s ∈ k.propertyNames, s.WellFormed) : (Schema.object k).WellFormed := by
  rw [object_iff, hproperties, hrequired]
  exact ⟨⟨List.nodup_nil, List.nil_subset _⟩, fun x hx => absurd hx List.not_mem_nil,
    hadditional, hnames⟩

/-- A schema with nothing inside is well formed unless it is a combination or an object. -/
theorem leaf (hnode : s.ProperNode) (hinner : s.inner = []) : s.WellFormed := by
  rw [iff_inner, hinner]
  exact ⟨hnode, fun x hx => absurd hx List.not_mem_nil⟩

/-! ## 2. Combinations -/

theorem conjunction {operands : List Schema} (h : ∀ s ∈ operands, s.WellFormed) :
    (Schema.conjunction operands).WellFormed := by
  unfold Schema.conjunction
  by_cases hnever : operands.any isNever = true
  · rw [if_pos hnever]
    exact .leaf trivial rfl
  · rw [if_neg hnever]
    have hkept : ∀ s ∈ operands.filter (!·.isAlways), s.WellFormed := fun s hs =>
      h s (List.mem_of_mem_filter hs)
    -- What is dropped are the operands that always hold, and one that never holds was ruled out.
    have halways : Schema.always ∉ operands.filter (!·.isAlways) := by
      intro hm
      cases (List.mem_filter.1 hm).2
    have hno : Schema.never ∉ operands.filter (!·.isAlways) := by
      intro hm
      exact hnever (List.any_eq_true.2 ⟨_, List.mem_of_mem_filter hm, rfl⟩)
    split
    next => exact .leaf trivial rfl
    next s hs => exact hkept s (hs ▸ List.mem_singleton_self s)
    next several hnil hone =>
      have hlength : 2 ≤ (operands.filter (!·.isAlways)).length := by
        by_contra hshort
        match hfilter : operands.filter (!·.isAlways) with
        | [] => exact hnil hfilter
        | [s] => exact hone s hfilter
        | a :: b :: rest =>
          rw [hfilter, List.length_cons, List.length_cons] at hshort
          omega
      exact allOf_iff.2 ⟨⟨hlength, halways, hno⟩, hkept⟩

theorem disjunction {operands : List Schema} (h : ∀ s ∈ operands, s.WellFormed) :
    (Schema.disjunction operands).WellFormed := by
  match operands with
  | [] => exact .leaf trivial rfl
  | [s] => exact h s (List.mem_singleton_self s)
  | a :: b :: rest =>
    show (Schema.anyOf (a :: b :: rest)).WellFormed
    refine anyOf_iff.2 ⟨?_, h⟩
    rw [List.length_cons, List.length_cons]
    omega

theorem choice {operands : List Schema} (h : ∀ s ∈ operands, s.WellFormed) :
    (Schema.choice operands).WellFormed := by
  match operands with
  | [] => exact .leaf trivial rfl
  | [s] => exact h s (List.mem_singleton_self s)
  | a :: b :: rest =>
    show (Schema.oneOf (a :: b :: rest)).WellFormed
    refine oneOf_iff.2 ⟨?_, h⟩
    rw [List.length_cons, List.length_cons]
    omega

end WellFormed

/-! ## 3. Redirection -/

theorem redirectAll_eq (f : Reference → Reference) (operands : List Schema) :
    redirectAll f operands = operands.map (redirect f) := by
  induction operands with
  | nil => rfl
  | cons s rest ih => rw [redirectAll, ih, List.map_cons]

theorem redirectNamed_eq (f : Reference → Reference) (named : List (String × Schema)) :
    redirectNamed f named = named.map fun x => (x.1, x.2.redirect f) := by
  induction named with
  | nil => rfl
  | cons x rest ih => rw [redirectNamed, ih, List.map_cons]

mutual

theorem inner_redirect (f : Reference → Reference) (s : Schema) :
    (s.redirect f).inner = s.inner.map (redirect f) := by
  cases s with
  | object s =>
    obtain ⟨title, description, properties, required, additional, names, least, most⟩ := s
    rw [redirect, inner, inner, List.map_append, List.map_append,
      innerNamed_redirect f properties, innerOption_redirect f additional,
      innerOption_redirect f names]
  | array s =>
    obtain ⟨title, description, items, least, most, unique⟩ := s
    rw [redirect, inner, inner, innerOption_redirect f items]
  | allOf operands => rw [redirect, inner, inner, innerAll_redirect f operands]
  | anyOf operands => rw [redirect, inner, inner, innerAll_redirect f operands]
  | oneOf operands => rw [redirect, inner, inner, innerAll_redirect f operands]
  | not s => rw [redirect, inner, inner, List.map_cons, inner_redirect f s]
  | always | never | generic | string | integer | number | boolean | ref => rfl

theorem innerAll_redirect (f : Reference → Reference) (operands : List Schema) :
    innerAll (redirectAll f operands) = (innerAll operands).map (redirect f) := by
  cases operands with
  | nil => rfl
  | cons s rest =>
    rw [redirectAll, innerAll, innerAll, List.map_cons, List.map_append, inner_redirect f s,
      innerAll_redirect f rest]

theorem innerNamed_redirect (f : Reference → Reference) (named : List (String × Schema)) :
    innerNamed (redirectNamed f named) = (innerNamed named).map (redirect f) := by
  cases named with
  | nil => rfl
  | cons x rest =>
    obtain ⟨key, s⟩ := x
    rw [redirectNamed, innerNamed, innerNamed, List.map_cons, List.map_append, inner_redirect f s,
      innerNamed_redirect f rest]

theorem innerOption_redirect (f : Reference → Reference) (o : Option Schema) :
    innerOption (redirectOption f o) = (innerOption o).map (redirect f) := by
  cases o with
  | none => rfl
  | some s => rw [redirectOption, innerOption, innerOption, List.map_cons, inner_redirect f s]

end

/-- Only references change, so a schema that always or never holds comes from one that does. -/
theorem always_mem_redirectAll {f : Reference → Reference} {operands : List Schema} :
    (always ∈ redirectAll f operands ↔ always ∈ operands) ∧
      (never ∈ redirectAll f operands ↔ never ∈ operands) := by
  rw [redirectAll_eq, List.mem_map, List.mem_map]
  constructor
  · constructor
    · rintro ⟨s, hs, he⟩
      cases s <;> first | exact hs | cases he
    · exact fun h => ⟨always, h, rfl⟩
  · constructor
    · rintro ⟨s, hs, he⟩
      cases s <;> first | exact hs | cases he
    · exact fun h => ⟨never, h, rfl⟩

theorem ProperNode.redirect (f : Reference → Reference) {s : Schema} (h : s.ProperNode) :
    (s.redirect f).ProperNode := by
  cases s with
  | object s =>
    obtain ⟨title, description, properties, required, additional, names, least, most⟩ := s
    obtain ⟨hnodup, hkeys⟩ := h
    refine ⟨hnodup, ?_⟩
    show required ⊆ (redirectNamed f properties).map (·.1)
    rw [redirectNamed_eq, List.map_map]
    exact hkeys
  | allOf operands =>
    obtain ⟨hlength, halways, hnever⟩ := h
    refine ⟨?_, always_mem_redirectAll.1.not.2 halways, always_mem_redirectAll.2.not.2 hnever⟩
    rwa [redirectAll_eq, List.length_map]
  | anyOf operands | oneOf operands =>
    show 2 ≤ (redirectAll f operands).length
    rwa [redirectAll_eq, List.length_map]
  | array s => trivial
  | always | never | generic | string | integer | number | boolean | ref | not => trivial

theorem WellFormed.redirect (f : Reference → Reference) {s : Schema} (h : s.WellFormed) :
    (s.redirect f).WellFormed := by
  obtain ⟨hnode, hinner⟩ := iff_inner.1 h
  rw [iff_inner, inner_redirect]
  refine ⟨hnode.redirect f, fun x hx => ?_⟩
  obtain ⟨y, hy, rfl⟩ := List.mem_map.1 hx
  exact (hinner y hy).redirect f

end Schema

end ProtoSchema
