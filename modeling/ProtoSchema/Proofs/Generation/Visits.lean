import Mathlib

/-!
# Walks in depth first

`Visits name next seen todo order` says that a walk in depth first that has seen some names and
comes to the nodes of `todo` makes its first visits in the given order.  Nodes are told apart by
their names: a node whose name has been seen is passed over.
-/

namespace ProtoSchema.Generation

variable {α κ : Type} {name : α → κ} {next : α → List α}

/-- The names of nodes. -/
def named (name : α → κ) (nodes : List α) : Set κ := {k | k ∈ nodes.map name}

/-- The first visits of a walk in depth first, in their order. -/
inductive Visits (name : α → κ) (next : α → List α) : Set κ → List α → List α → Prop
  | done (seen : Set κ) : Visits name next seen [] []
  | skip {seen : Set κ} {t : α} {todo order : List α} (h : name t ∈ seen)
      (hrest : Visits name next seen todo order) : Visits name next seen (t :: todo) order
  | visit {seen : Set κ} {t : α} {todo below order : List α} (h : name t ∉ seen)
      (hbelow : Visits name next (insert (name t) seen) (next t) below)
      (hrest : Visits name next (insert (name t) seen ∪ named name below) todo order) :
      Visits name next seen (t :: todo) (t :: (below ++ order))

@[simp] theorem mem_named {k : κ} {nodes : List α} :
    k ∈ named name nodes ↔ ∃ t ∈ nodes, name t = k := by
  unfold named
  rw [Set.mem_ofPred_eq, List.mem_map]

theorem named_nil : named name [] = ∅ := by
  ext k
  simp

theorem named_cons (t : α) (nodes : List α) :
    named name (t :: nodes) = insert (name t) (named name nodes) := by
  ext k
  simp [eq_comm]

theorem named_append (nodes nodes' : List α) :
    named name (nodes ++ nodes') = named name nodes ∪ named name nodes' := by
  ext k
  simp [or_and_right, exists_or]

namespace Visits

variable {seen : Set κ} {todo order : List α}

/-- A walk over two lists is a walk over the first and then one over the second. -/
theorem split {first second : List α} (h : Visits name next seen (first ++ second) order) :
    ∃ above after, order = above ++ after ∧ Visits name next seen first above ∧
      Visits name next (seen ∪ named name above) second after := by
  induction first generalizing seen order with
  | nil =>
    refine ⟨[], order, rfl, .done _, ?_⟩
    rwa [named_nil, Set.union_empty]
  | cons t first ih =>
    cases h with
    | skip hseen hrest =>
      obtain ⟨above, after, rfl, habove, hafter⟩ := ih hrest
      exact ⟨above, after, rfl, .skip hseen habove, hafter⟩
    | @visit _ _ _ below _ hseen hbelow hrest =>
      obtain ⟨above, after, rfl, habove, hafter⟩ := ih hrest
      refine ⟨t :: (below ++ above), after, ?_, .visit hseen hbelow habove, ?_⟩
      · rw [List.cons_append, List.append_assoc]
      · -- What has been seen after the node and all below it is what both walks have seen.
        have hnames : seen ∪ named name (t :: (below ++ above)) =
            insert (name t) seen ∪ named name below ∪ named name above := by
          rw [named_cons, named_append, Set.union_insert, Set.insert_union, Set.insert_union,
            Set.union_assoc]
        rwa [hnames]

/-- Every visit is to a name that is new. -/
theorem fresh (h : Visits name next seen todo order) : ∀ t ∈ order, name t ∉ seen := by
  induction h with
  | done => simp
  | skip _ _ ih => exact ih
  | @visit seen t todo below order hseen _ _ ihb ihr =>
    intro u hu hk
    rcases List.mem_cons.1 hu with rfl | hu
    · exact hseen hk
    · rcases List.mem_append.1 hu with hu | hu
      · exact ihb u hu (Set.mem_insert_of_mem _ hk)
      · exact ihr u hu (Set.mem_union_left _ (Set.mem_insert_of_mem _ hk))

/-- No name is visited twice. -/
theorem nodup (h : Visits name next seen todo order) : (order.map name).Nodup := by
  induction h with
  | done => exact List.nodup_nil
  | skip _ _ ih => exact ih
  | @visit seen t todo below order hseen hbelow hrest ihb ihr =>
    rw [List.map_cons, List.map_append, List.nodup_cons, List.nodup_append]
    -- A name below `t` or after it is new when it is visited, and by then `t` has been seen.
    refine ⟨fun hm => ?_, ihb, ihr, fun k hk k' hk' he => ?_⟩
    · rw [List.mem_append, List.mem_map, List.mem_map] at hm
      rcases hm with ⟨u, hu, he⟩ | ⟨u, hu, he⟩
      · exact hbelow.fresh u hu (he ▸ Set.mem_insert _ _)
      · exact hrest.fresh u hu (Set.mem_union_left _ (he ▸ Set.mem_insert _ _))
    · obtain ⟨u, hu, rfl⟩ := List.mem_map.1 hk'
      exact hrest.fresh u hu (Set.mem_union_right _ (he ▸ hk))

/-- The walk comes to every node that it is to visit, unless its name was seen before. -/
theorem complete (h : Visits name next seen todo order) :
    ∀ t ∈ todo, name t ∈ seen ∪ named name order := by
  induction h with
  | done => simp
  | skip hseen _ ih =>
    intro u hu
    rcases List.mem_cons.1 hu with rfl | hu
    · exact Set.mem_union_left _ hseen
    · exact ih u hu
  | @visit seen t todo below order hseen _ _ _ ihr =>
    intro u hu
    rw [named_cons, named_append]
    rcases List.mem_cons.1 hu with rfl | hu
    · exact Set.mem_union_right _ (Set.mem_insert _ _)
    · have hr := ihr u hu
      simp only [Set.mem_union, Set.mem_insert_iff] at hr ⊢
      tauto

/-- The walk follows every link of a node that it visits. -/
theorem closed (h : Visits name next seen todo order) :
    ∀ t ∈ order, ∀ u ∈ next t, name u ∈ seen ∪ named name order := by
  induction h with
  | done => simp
  | skip _ _ ih => exact ih
  | @visit seen t todo below order hseen hbelow hrest ihb ihr =>
    intro v hv u hu
    rw [named_cons, named_append]
    -- A link of `t` is visited right below it; the other links are those of the two parts.
    have hcases : name u ∈ insert (name t) seen ∪ named name below ∨
        name u ∈ insert (name t) seen ∪ named name below ∪ named name order := by
      rcases List.mem_cons.1 hv with rfl | hv
      · exact .inl (hbelow.complete u hu)
      · rcases List.mem_append.1 hv with hv | hv
        · exact .inl (ihb v hv u hu)
        · exact .inr (ihr v hv u hu)
    simp only [Set.mem_union, Set.mem_insert_iff] at hcases ⊢
    tauto

/-- Every visit is to a node that the links reach. -/
theorem reached (h : Visits name next seen todo order) :
    ∀ t ∈ order, ∃ r ∈ todo, Relation.ReflTransGen (fun a b => b ∈ next a) r t := by
  induction h with
  | done => simp
  | skip _ _ ih =>
    intro t ht
    obtain ⟨r, hr, hreach⟩ := ih t ht
    exact ⟨r, List.mem_cons_of_mem _ hr, hreach⟩
  | @visit seen t todo below order _ _ _ ihb ihr =>
    intro u hu
    rcases List.mem_cons.1 hu with rfl | hu
    · exact ⟨u, List.mem_cons_self, .refl⟩
    · rcases List.mem_append.1 hu with hu | hu
      · obtain ⟨r, hr, hreach⟩ := ihb u hu
        exact ⟨t, List.mem_cons_self, .head hr hreach⟩
      · obtain ⟨r, hr, hreach⟩ := ihr u hu
        exact ⟨r, List.mem_cons_of_mem _ hr, hreach⟩

/-- The order of the first visits is determined. -/
theorem unique {order' : List α} (h : Visits name next seen todo order)
    (h' : Visits name next seen todo order') : order = order' := by
  induction h generalizing order' with
  | done =>
    cases h'
    rfl
  | skip hseen _ ih =>
    cases h' with
    | skip _ hrest => exact ih hrest
    | visit hnew _ _ => exact absurd hseen hnew
  | visit hnew _ _ ihb ihr =>
    cases h' with
    | skip hseen _ => exact absurd hseen hnew
    | visit _ hbelow hrest =>
      cases ihb hbelow
      cases ihr hrest
      rfl

/-- A walk from one node comes to the other nodes that its links reach. -/
theorem mem_iff {root : α} (h : Visits id next {root} (next root) todo) {t : α} :
    t ∈ todo ↔ Relation.ReflTransGen (fun a b => b ∈ next a) root t ∧ t ≠ root := by
  constructor
  · intro ht
    obtain ⟨r, hr, hreach⟩ := h.reached t ht
    exact ⟨.head hr hreach, fun he => h.fresh t ht he⟩
  · rintro ⟨hreach, hne⟩
    have hall : t = root ∨ t ∈ todo := by
      clear hne
      induction hreach with
      | refl => exact .inl rfl
      | @tail b c _ hlink ih =>
        have hname : id c ∈ ({root} : Set α) ∪ named id todo := by
          rcases ih with rfl | hb
          · exact h.complete c hlink
          · exact h.closed b hb c hlink
        simpa [mem_named] using hname
    exact hall.resolve_left hne

/-- Where names tell the nodes of a closed set apart, telling nodes apart by name is telling them
apart. -/
theorem ofNames {P : Set α} (hnext : ∀ t ∈ P, ∀ u ∈ next t, u ∈ P) (hinj : Set.InjOn name P)
    (h : Visits name next seen todo order) {seen' : Set α}
    (hseen : ∀ t ∈ P, name t ∈ seen ↔ t ∈ seen') (htodo : ∀ t ∈ todo, t ∈ P) :
    Visits id next seen' todo order ∧ ∀ t ∈ order, t ∈ P := by
  induction h generalizing seen' with
  | done => exact ⟨.done _, by simp⟩
  | @skip seen t todo order hs _ ih =>
    have ht : t ∈ P := htodo t List.mem_cons_self
    obtain ⟨hv, hP⟩ := ih hseen fun u hu => htodo u (List.mem_cons_of_mem _ hu)
    exact ⟨.skip ((hseen t ht).1 hs) hv, hP⟩
  | @visit seen t todo below order hs _ _ ihb ihr =>
    have ht : t ∈ P := htodo t List.mem_cons_self
    -- The two walks have seen the same nodes of `P`; this is kept by each visit.
    have hinsert : ∀ u ∈ P, name u ∈ insert (name t) seen ↔ u ∈ insert t seen' := by
      intro u hu
      rw [Set.mem_insert_iff, Set.mem_insert_iff, hseen u hu]
      exact or_congr_left ⟨fun he => hinj hu ht he, fun he => he ▸ rfl⟩
    obtain ⟨hbelow, hPb⟩ := ihb hinsert (hnext t ht)
    have hunion : ∀ u ∈ P, name u ∈ insert (name t) seen ∪ named name below ↔
        u ∈ insert t seen' ∪ named id below := by
      intro u hu
      rw [Set.mem_union, Set.mem_union, hinsert u hu, mem_named, mem_named]
      refine or_congr_right ⟨?_, ?_⟩
      · rintro ⟨v, hv, he⟩
        exact ⟨v, hv, hinj (hPb v hv) hu he⟩
      · rintro ⟨v, hv, rfl⟩
        exact ⟨v, hv, rfl⟩
    obtain ⟨hrest, hPr⟩ := ihr hunion fun u hu => htodo u (List.mem_cons_of_mem _ hu)
    refine ⟨.visit (fun hm => hs ((hseen t ht).2 hm)) hbelow hrest, fun u hu => ?_⟩
    rcases List.mem_cons.1 hu with rfl | hu
    · exact ht
    · rcases List.mem_append.1 hu with hu | hu
      · exact hPb u hu
      · exact hPr u hu

end Visits

end ProtoSchema.Generation
