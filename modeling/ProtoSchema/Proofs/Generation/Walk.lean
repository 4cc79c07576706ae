import ProtoSchema.Proofs.Descriptor.Pool
import ProtoSchema.Proofs.Generation.Uses
import ProtoSchema.Proofs.Generation.Visits

/-!
# The walk of a document

A walk that meets no fault comes to types in the order of their first visits: the names that remain
are those that were not seen.  From the walk it follows what a document consists of.
-/

namespace ProtoSchema

namespace Generation

open Draft

/-! ## 1. Known types -/

/-- The pool declares the type, or the type is shared. -/
def Target.Known (p : Pool) : Target → Prop
  | message m => m ∈ p.messages
  | enum e => e ∈ p.enums
  | shared _ => True

theorem Target.Known.definable {p : Pool} {t : Target} (h : t.Known p) :
    t.fullName ∈ definable p := by
  unfold Generation.definable
  rw [List.mem_append, List.mem_append]
  cases t with
  | message m => exact .inl (.inl (List.mem_map_of_mem h))
  | enum e => exact .inl (.inr (List.mem_map_of_mem h))
  | shared t =>
    refine .inr (List.mem_map.2 ⟨t, ?_, rfl⟩)
    cases t <;> decide

theorem Target.Known.dotLed {p : Pool} (hp : p.Sound) {t : Target} (h : t.Known p) :
    DotLed t.fullName := by
  cases t with
  | message m => exact hp.dotLed _ (List.mem_append_left _ (List.mem_map_of_mem h))
  | enum e => exact hp.dotLed _ (List.mem_append_right _ (List.mem_map_of_mem h))
  | shared t => exact t.wellKnown.dotLed

theorem messageLinks_known {p : Pool} {name : String} : ∀ t ∈ messageLinks p name, t.Known p := by
  intro t ht
  unfold messageLinks at ht
  split at ht
  · obtain ⟨s, -, rfl⟩ := List.mem_map.1 ht
    exact trivial
  · obtain ⟨m, hm, rfl⟩ := List.mem_map.1 ht
    exact List.mem_of_find?_eq_some (Option.mem_toList.1 hm)

theorem enumLinks_known {p : Pool} {name : String} {c : FieldConstraints} :
    ∀ t ∈ enumLinks p name c, t.Known p := by
  intro t ht
  unfold enumLinks at ht
  split at ht
  · cases ht
  · obtain ⟨e, he, rfl⟩ := List.mem_map.1 ht
    exact List.mem_of_find?_eq_some (Option.mem_toList.1 he)

theorem elementLinks_known {p : Pool} {x : ElementType} {c : FieldConstraints} :
    ∀ t ∈ elementLinks p x c, t.Known p := by
  intro t ht
  cases x with
  | scalar kind => cases ht
  | enum name => exact enumLinks_known t ht
  | message name => exact messageLinks_known t ht

theorem fieldLinks_known {p : Pool} {f : Field} : ∀ t ∈ fieldLinks p f, t.Known p := by
  intro t ht
  unfold fieldLinks at ht
  generalize f.type = x at ht
  cases x with
  | scalar kind => cases ht
  | enum name => exact enumLinks_known t ht
  | message name => exact messageLinks_known t ht
  | map key value => exact elementLinks_known t ht
  | repeated item => exact elementLinks_known t ht

theorem Target.links_known {p : Pool} (t : Target) : ∀ u ∈ t.links p, u.Known p := by
  intro u hu
  cases t with
  | message m =>
    obtain ⟨f, -, hu⟩ := List.mem_flatMap.1 hu
    exact fieldLinks_known u hu
  | enum e => cases hu
  | shared s =>
    cases s with
    | any | empty | value => cases hu
    | listValue | struct =>
      rw [List.mem_singleton.1 hu]
      exact trivial

/-! ## 2. The walk -/

theorem mem_without {name other : String} {names : List String} :
    other ∈ without name names ↔ other ∈ names ∧ other ≠ name := by
  simp [without]

/-- A walk that ends without a fault came past none. -/
theorem walk_faultless {p : Pool} {remaining : List String} {tasks : List Task}
    {order : List Target} (h : walk p remaining tasks = .ok order) (f : Fault) :
    .fail f ∉ tasks := by
  induction remaining, tasks using walk.induct p generalizing order with
  | case1 remaining => exact List.not_mem_nil
  | case2 remaining g rest =>
    rw [walk] at h
    cases h
  | case3 remaining u rest hmem ih =>
    rw [walk, if_pos hmem] at h
    obtain ⟨order', hwalk, -⟩ := Except.map_eq_ok.1 h
    intro hf
    rcases List.mem_cons.1 hf with hf | hf
    · cases hf
    · exact ih hwalk (List.mem_append_right _ hf)
  | case4 remaining u rest hmem ih =>
    rw [walk, if_neg hmem] at h
    intro hf
    rcases List.mem_cons.1 hf with hf | hf
    · cases hf
    · exact ih h hf

/-- The tasks of a draft that succeeds are visits to what it uses. -/
theorem tasks_ok {d : Draft α} {x : α} (h : d.result = .ok x) (path : List String) :
    d.tasks path = d.uses.map fun u => .visit { u with path := path ++ u.path } := by
  unfold Draft.tasks
  rw [h]
  exact List.append_nil _

/-- A draft whose tasks hold no fault succeeds. -/
theorem tasks_faultless (d : Draft α) (path : List String) (h : ∀ f, .fail f ∉ d.tasks path) :
    ∃ x, Yields d x d.targets := by
  cases hr : d.result with
  | error e =>
    unfold Draft.tasks at h
    rw [hr] at h
    exact absurd (List.mem_append_right _ (List.mem_singleton_self _)) (h _)
  | ok x => exact ⟨x, hr, rfl⟩

/-- A walk without faults makes the first visits in depth first, and every type that it comes to can
be drafted. -/
theorem walk_visits {p : Pool} {remaining : List String} {tasks : List Task}
    {order : List Target} (h : walk p remaining tasks = .ok order) {seen : Set String}
    (hseen : ∀ t : Target, t.Known p → (t.fullName ∈ remaining ↔ t.fullName ∉ seen))
    (uses : List Use) (htasks : tasks = uses.map .visit)
    (huses : ∀ u ∈ uses, u.target.Known p) :
    Visits Target.fullName (Target.links p) seen (uses.map (·.target)) order ∧
      ∀ t ∈ order, ∃ s, Yields (t.draft p) s (t.links p) := by
  induction remaining, tasks using walk.induct p generalizing order seen uses with
  | case1 remaining =>
    rw [walk] at h
    cases h
    rw [List.map_eq_nil_iff.1 htasks.symm]
    exact ⟨.done seen, by simp⟩
  | case2 remaining f rest =>
    rw [walk] at h
    cases h
  | case3 remaining u rest hmem ih =>
    obtain ⟨u', uses, rfl, hu, rfl⟩ := List.map_eq_cons_iff.1 htasks.symm
    cases hu
    have hu : u.target.Known p := huses u List.mem_cons_self
    rw [walk, if_pos hmem] at h
    obtain ⟨order', hwalk, rfl⟩ := Except.map_eq_ok.1 h
    -- The walk goes on, so the type was drafted and its uses are its links.
    obtain ⟨s, hs⟩ := tasks_faultless (u.target.draft p) u.path fun f hf =>
      walk_faultless hwalk f (List.mem_append_left _ hf)
    have hlinks : (u.target.draft p).targets = u.target.links p := (Yields.target hs).2
    have hinsert : ∀ t : Target, t.Known p →
        (t.fullName ∈ without u.target.fullName remaining ↔
          t.fullName ∉ insert u.target.fullName seen) := by
      intro t ht
      rw [mem_without, Set.mem_insert_iff, not_or, hseen t ht, and_comm]
    let below : List Use :=
      (u.target.draft p).uses.map fun v => { v with path := u.path ++ v.path }
    have hbelow : below.map (·.target) = u.target.links p := by
      rw [← hlinks]
      exact List.map_map
    obtain ⟨hall, hdrafts⟩ := ih hwalk hinsert (below ++ uses)
      (by rw [tasks_ok hs.1, List.map_append, List.map_map]; rfl) fun v hv => by
        rcases List.mem_append.1 hv with hv | hv
        · exact u.target.links_known v.target (hbelow ▸ List.mem_map_of_mem hv)
        · exact huses v (List.mem_cons_of_mem _ hv)
    rw [List.map_append, hbelow] at hall
    -- The links of the type come first in the list of tasks; where they end, the rest goes on.
    obtain ⟨above, after, rfl, habove, hafter⟩ := hall.split
    refine ⟨.visit ((hseen _ hu).1 hmem) habove hafter, fun t ht => ?_⟩
    rcases List.mem_cons.1 ht with rfl | ht
    · exact ⟨s, hlinks ▸ hs⟩
    · exact hdrafts t ht
  | case4 remaining u rest hmem ih =>
    obtain ⟨u', uses, rfl, hu, rfl⟩ := List.map_eq_cons_iff.1 htasks.symm
    cases hu
    rw [walk, if_neg hmem] at h
    obtain ⟨hrest, hdrafts⟩ :=
      ih h hseen uses rfl fun v hv => huses v (List.mem_cons_of_mem _ hv)
    have hold : u.target.fullName ∈ seen :=
      not_not.1 ((hseen _ (huses u List.mem_cons_self)).not.1 hmem)
    exact ⟨.skip hold hrest, hdrafts⟩

/-! ## 3. Documents -/

/-- The document of a message: its schema, and a definition for each type of the walk, with the
references placed in the document. -/
inductive DocumentForm (p : Pool) (m : Message) : Document → Prop
  | intro (order : List Target)
      (horder : Visits Target.fullName (Target.links p) {m.fullName} ((Target.message m).links p)
        order)
      (root : Schema) (hroot : TargetForm p (.message m) root)
      (definitions : List (String × Schema))
      (hdefinitions : List.Forall₂ (fun t x => ∃ s, TargetForm p t s ∧
        x = (t.key, s.redirect (place (Target.message m).key))) order definitions) :
      DocumentForm p m
        { root := root.redirect (place (Target.message m).key), definitions }

/-- A walk without faults from a message visits what its links reach in the order of the first
visits. -/
theorem walk_message {p : Pool} {m : Message} {order : List Target}
    (h : walk p (without m.fullName (definable p)) (((Target.message m).draft p).tasks []) =
      .ok order) :
    (∃ s, Yields ((Target.message m).draft p) s ((Target.message m).links p)) ∧
      Visits Target.fullName (Target.links p) {m.fullName} ((Target.message m).links p) order ∧
      ∀ t ∈ order, ∃ s, Yields (t.draft p) s (t.links p) := by
  obtain ⟨s, hs⟩ := tasks_faultless ((Target.message m).draft p) [] (walk_faultless h)
  have hlinks := (Yields.target hs).2
  refine ⟨⟨s, hlinks ▸ hs⟩, ?_⟩
  have hseen : ∀ t : Target, t.Known p →
      (t.fullName ∈ without m.fullName (definable p) ↔
        t.fullName ∉ ({m.fullName} : Set String)) := by
    intro t ht
    rw [mem_without, Set.mem_singleton_iff, and_iff_right ht.definable]
  have htasks : ((Target.message m).draft p).tasks [] =
      ((Target.message m).draft p).uses.map .visit := tasks_ok hs.1 []
  rw [← hlinks]
  refine walk_visits h hseen _ htasks fun u hu => ?_
  exact (Target.message m).links_known u.target (hlinks ▸ List.mem_map_of_mem hu)

/-- The definition of a type in the document of the message with a key. -/
def definition (p : Pool) (own : String) (t : Target) : Except Fault (String × Schema) := do
  return (t.key, (← (t.draft p).result).redirect (place own))

theorem definition_eq_ok {p : Pool} {own : String} {t : Target} {x : String × Schema} :
    definition p own t = .ok x ↔
      ∃ s, (t.draft p).result = .ok s ∧ x = (t.key, s.redirect (place own)) := by
  unfold definition
  rw [Except.bind_eq_ok]
  refine exists_congr fun s => and_congr_right fun _ => ?_
  rw [Except.pure_eq_ok, eq_comm]

/-- A document is made in three steps: the walk, the root and the definitions. -/
theorem document_eq (p : Pool) (m : Message) :
    document p m =
      (walk p (without m.fullName (definable p)) (((Target.message m).draft p).tasks []) >>=
        fun order => ((Target.message m).draft p).result >>= fun root =>
          order.mapM (definition p (Target.message m).key) >>= fun definitions =>
            pure { root := root.redirect (place (Target.message m).key), definitions }) := rfl

/-- Once the walk has ended without faults, the document is built, with a definition for each type
of the walk. -/
theorem document_of_walk {p : Pool} {m : Message} {order : List Target}
    (h : walk p (without m.fullName (definable p)) (((Target.message m).draft p).tasks []) =
      .ok order) :
    ∃ d, document p m = .ok d ∧ d.definitions.map (·.1) = order.map Target.key ∧
      DocumentForm p m d := by
  obtain ⟨⟨root, hroot⟩, hvisits, hdrafts⟩ := walk_message h
  -- Every type of the walk can be drafted, so the definitions are one row of successes.
  choose! schema hschema using hdrafts
  let defined (t : Target) : String × Schema :=
    (t.key, (schema t).redirect (place (Target.message m).key))
  have hdefinitions : order.mapM (definition p (Target.message m).key) =
      .ok (order.map defined) := by
    refine Except.mapM_eq_ok.2 (List.forall₂_map_right_iff.2 (List.forall₂_same.2 fun t ht => ?_))
    exact definition_eq_ok.2 ⟨schema t, (hschema t ht).1, rfl⟩
  refine ⟨{ root := root.redirect (place (Target.message m).key)
            definitions := order.map defined }, ?_, ?_, ?_⟩
  · rw [document_eq]
    refine Except.bind_eq_ok.2 ⟨order, h, Except.bind_eq_ok.2 ⟨root, hroot.1, ?_⟩⟩
    exact Except.bind_eq_ok.2 ⟨order.map defined, hdefinitions, rfl⟩
  · exact List.map_map
  · refine .intro order hvisits root (Yields.target hroot).1 _ ?_
    refine List.forall₂_map_right_iff.2 (List.forall₂_same.2 fun t ht => ?_)
    exact ⟨schema t, (Yields.target (hschema t ht)).1, rfl⟩

/-- Every document that a pool gives has this form. -/
theorem document_form {p : Pool} {m : Message} {d : Document}
    (h : document p m = .ok d) : DocumentForm p m d := by
  obtain ⟨order, hwalk, -⟩ := Except.bind_eq_ok.1 h
  obtain ⟨d', hd', -, hform⟩ := document_of_walk hwalk
  rw [h] at hd'
  cases hd'
  exact hform

end Generation

end ProtoSchema
