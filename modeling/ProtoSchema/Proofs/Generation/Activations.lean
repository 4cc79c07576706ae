import ProtoSchema.Proofs.Generation.Exchange
import ProtoSchema.Proofs.Generation.Mentions

/-!
# How a document is made step by step

A type is built in an activation, which comes to the types that it uses one after the other.  A type
that is new is reserved and built at once, while the activation waits.  Such steps come to an end
with the document or its fault.  They build no type twice, and at no time are there more messages
being built than the pool declares.
-/

namespace ProtoSchema.Generation

open Draft

/-! ## 1. Definitions in the making -/

/-- Keys in the order in which they were reserved, each with its schema once that is built. -/
abbrev Registry := List (String × Option Schema)

namespace Registry

def keys (r : Registry) : List String := r.map (·.1)

/-- Reserves a key, unless it is reserved already. -/
def reserve (r : Registry) (key : String) : Option Registry :=
  if key ∈ r.keys then none else some (r ++ [(key, none)])

/-- Stores the schema of a reserved key. -/
def fulfill (r : Registry) (key : String) (s : Schema) : Registry :=
  r.map fun x => if x.1 = key then (key, some s) else x

/-- The definitions, or a key whose schema is missing. -/
def finish (r : Registry) : Except String (List (String × Schema)) :=
  r.mapM fun x =>
    match x.2 with
    | some s => .ok (x.1, s)
    | none => .error x.1

end Registry

/-! ## 2. Steps -/

/-- What the making of a document ends with. -/
inductive Outcome
  | document (d : Document)
  | fault (f : Fault)
  | unbuilt (key : String)

def Outcome.of : Except Fault Document → Outcome
  | .ok d => .document d
  | .error f => .fault f

/-- A type that is being built, the path to it, and what is left of its draft. -/
structure Activation where
  target : Target
  path : List String
  rest : Draft Schema

def Activation.start (p : Pool) (t : Target) (path : List String) : Activation :=
  ⟨t, path, t.draft p⟩

def Activation.tasks (a : Activation) : List Task := a.rest.tasks a.path

/-- What holds of a type that is being built: its activation will have the result of its draft, and
all that is left to come to is known. -/
structure Activation.Sound (p : Pool) (a : Activation) : Prop where
  result : a.rest.result = (a.target.draft p).result
  uses : UsesOnly (Target.Known p) a.rest

theorem Target.draft_known {p : Pool} (t : Target) : UsesOnly (Target.Known p) (t.draft p) := by
  have hall : UsesOnly (Target.StandsFor p fun _ => True) (t.draft p) :=
    Target.draft_usesOnly fun _ _ => trivial
  exact fun u hu => (hall u hu).known

theorem Activation.start_sound {p : Pool} (t : Target) (path : List String) :
    (Activation.start p t path).Sound p :=
  ⟨rfl, t.draft_known⟩

/-- A document in the making.  The callers, innermost first, wait for the current activation; the
types whose building was begun are listed in that order. -/
structure Progress where
  registry : Registry
  current : Activation
  callers : List Activation
  begun : List Target

namespace Progress

def initial (p : Pool) (m : Message) : Progress where
  registry := []
  current := .start p (.message m) []
  callers := []
  begun := [.message m]

/-- The types that are being built, the outermost first. -/
def active (s : Progress) : List Target := ((s.current :: s.callers).map (·.target)).reverse

/-- Goes on with what is left of the current draft. -/
def pass (s : Progress) (rest : Draft Schema) : Progress :=
  { s with current := { s.current with rest } }

/-- Builds the type of a use, while the current activation waits. -/
def enter (p : Pool) (s : Progress) (u : Use) (registry : Registry) : Progress where
  registry
  current := .start p u.target (s.current.path ++ u.path)
  callers := s.current :: s.callers
  begun := s.begun ++ [u.target]

/-- Stores the schema of the current type and goes back to the caller. -/
def leave (s : Progress) (schema : Schema) (caller : Activation) (callers : List Activation) :
    Progress :=
  { s with
    registry := s.registry.fulfill s.current.target.key schema
    current := caller
    callers }

/-- The next step towards the document of a message, or the end. -/
def next (p : Pool) (m : Message) (s : Progress) : Progress ⊕ Outcome :=
  match s.current.rest with
  | ⟨u :: uses, result⟩ =>
    let s := s.pass ⟨uses, result⟩
    if u.target.fullName = m.fullName then .inl s
    else
      match s.registry.reserve u.target.key with
      | none => .inl s
      | some registry => .inl (s.enter p u registry)
  | ⟨[], .error f⟩ => .inr (.fault { f with path := s.current.path ++ f.path })
  | ⟨[], .ok schema⟩ =>
    let schema := schema.redirect (place (Target.message m).key)
    match s.callers with
    | caller :: callers => .inl (s.leave schema caller callers)
    | [] =>
      match s.registry.finish with
      | .ok definitions => .inr (.document { root := schema, definitions })
      | .error key => .inr (.unbuilt key)

/-- Any number of steps. -/
def Steps (p : Pool) (m : Message) : Progress → Progress → Prop :=
  Relation.ReflTransGen fun s s' => next p m s = .inl s'

variable {p : Pool} {m : Message} {s s' : Progress}

/-- The name of a type is not new: it is the one of the message, or its key is reserved. -/
def Settled (m : Message) (s : Progress) (t : Target) : Prop :=
  t.fullName = m.fullName ∨ t.key ∈ s.registry.keys

/-- What one step does. -/
inductive Step (p : Pool) (m : Message) (s : Progress) : Progress → Prop
  | pass {u : Use} {uses : List Use} {result : Except Fault Schema}
      (hrest : s.current.rest = ⟨u :: uses, result⟩) (hold : s.Settled m u.target) :
      Step p m s (s.pass ⟨uses, result⟩)
  | enter {u : Use} {uses : List Use} {result : Except Fault Schema}
      (hrest : s.current.rest = ⟨u :: uses, result⟩) (hnew : ¬ s.Settled m u.target) :
      Step p m s ((s.pass ⟨uses, result⟩).enter p u (s.registry ++ [(u.target.key, none)]))
  | leave {schema : Schema} {caller : Activation} {callers : List Activation}
      (hrest : s.current.rest = ⟨[], .ok schema⟩) (hcallers : s.callers = caller :: callers) :
      Step p m s (s.leave (schema.redirect (place (Target.message m).key)) caller callers)

/-- What is at the end. -/
inductive Ends (m : Message) (s : Progress) : Outcome → Prop
  | fault {f : Fault} (hrest : s.current.rest = ⟨[], .error f⟩) :
      Ends m s (.fault { f with path := s.current.path ++ f.path })
  | document {schema : Schema} {definitions : List (String × Schema)}
      (hrest : s.current.rest = ⟨[], .ok schema⟩) (hcallers : s.callers = [])
      (hfinish : s.registry.finish = .ok definitions) :
      Ends m s (.document
        { root := schema.redirect (place (Target.message m).key), definitions })
  | unbuilt {schema : Schema} {key : String} (hrest : s.current.rest = ⟨[], .ok schema⟩)
      (hcallers : s.callers = []) (hfinish : s.registry.finish = .error key) :
      Ends m s (.unbuilt key)

theorem next_cases (p : Pool) (m : Message) (s : Progress) :
    (∃ s', next p m s = .inl s' ∧ Step p m s s') ∨ ∃ o, next p m s = .inr o ∧ Ends m s o := by
  unfold next
  split
  case h_1 u uses result hrest =>
    left
    dsimp only
    by_cases hname : u.target.fullName = m.fullName
    · rw [if_pos hname]
      exact ⟨_, rfl, .pass hrest (.inl hname)⟩
    · rw [if_neg hname]
      by_cases hkey : u.target.key ∈ s.registry.keys
      · have hreserve : (s.pass ⟨uses, result⟩).registry.reserve u.target.key = none := if_pos hkey
        rw [hreserve]
        exact ⟨_, rfl, .pass hrest (.inr hkey)⟩
      · have hreserve : (s.pass ⟨uses, result⟩).registry.reserve u.target.key =
            some (s.registry ++ [(u.target.key, none)]) := if_neg hkey
        rw [hreserve]
        exact ⟨_, rfl, .enter hrest (not_or.2 ⟨hname, hkey⟩)⟩
  case h_2 f hrest => exact .inr ⟨_, rfl, .fault hrest⟩
  case h_3 schema hrest =>
    cases hcallers : s.callers with
    | cons caller callers => exact .inl ⟨_, rfl, .leave hrest hcallers⟩
    | nil =>
      right
      cases hfinish : s.registry.finish with
      | ok definitions => exact ⟨_, rfl, .document hrest hcallers hfinish⟩
      | error key => exact ⟨_, rfl, .unbuilt hrest hcallers hfinish⟩

theorem Step.of_next (h : next p m s = .inl s') : Step p m s s' := by
  rcases next_cases p m s with ⟨s'', hnext, hstep⟩ | ⟨o, hnext, -⟩
  · cases h.symm.trans hnext
    exact hstep
  · cases h.symm.trans hnext

theorem Ends.of_next {o : Outcome} (h : next p m s = .inr o) : Ends m s o := by
  rcases next_cases p m s with ⟨s', hnext, -⟩ | ⟨o', hnext, hends⟩
  · cases h.symm.trans hnext
  · cases h.symm.trans hnext
    exact hends

/-! ## 3. What every step preserves -/

/-- What a walk still has to do: the tasks of the current activation before those of its callers. -/
def tasks (s : Progress) : List Task := (s.current :: s.callers).flatMap Activation.tasks

/-- The entry of a type: its schema is there, unless the type is being built. -/
def Entry (p : Pool) (own : String) (active : List Target) (t : Target)
    (x : String × Option Schema) : Prop :=
  x.1 = t.key ∧
    (t ∈ active ∨ ∃ schema, (t.draft p).result = .ok schema ∧
      x.2 = some (schema.redirect (place own)))

/-- What holds at every step.  The building of the types of `order` was begun after that of the
message, and the names that remain are those of the other types. -/
structure Invariant (p : Pool) (m : Message) (remaining : List String) (order : List Target)
    (s : Progress) : Prop where
  begun : s.begun = .message m :: order
  known : ∀ t ∈ s.begun, t.Known p
  nodup : (s.begun.map Target.fullName).Nodup
  active : s.active.Sublist s.begun
  outermost : ∃ inner, s.active = .message m :: inner
  sound : ∀ a ∈ s.current :: s.callers, a.Sound p
  entries : List.Forall₂ (Entry p (Target.message m).key s.active) order s.registry
  fresh : ∀ t : Target, t.Known p →
    (t.fullName ∈ remaining ↔ t.fullName ∉ s.begun.map Target.fullName)
  /-- The walk that is left completes the one from the message. -/
  completes : (walk p remaining s.tasks).map (order ++ ·) =
    walk p (without m.fullName (definable p)) (((Target.message m).draft p).tasks [])

theorem Invariant.initial (hm : m ∈ p.messages) :
    Invariant p m (without m.fullName (definable p)) [] (Progress.initial p m) where
  begun := rfl
  known := by
    intro t ht
    rw [List.mem_singleton.1 ht]
    exact hm
  nodup := List.nodup_singleton _
  active := .refl _
  outermost := ⟨[], rfl⟩
  sound := by
    intro a ha
    rw [List.mem_singleton.1 ha]
    exact Activation.start_sound _ _
  entries := .nil
  fresh := by
    intro t ht
    rw [mem_without, and_iff_right ht.definable]
    show t.fullName ≠ m.fullName ↔ t.fullName ∉ [m.fullName]
    rw [List.mem_singleton]
  completes := by
    have htasks : (Progress.initial p m).tasks = ((Target.message m).draft p).tasks [] :=
      List.append_nil _
    have hid : ∀ x : Except Fault (List Target), x.map ([] ++ ·) = x := by
      intro x
      cases x with
      | error f => rfl
      | ok order => rfl
    rw [htasks, hid]

/-- Whether a name is new does not depend on how it is looked up. -/
theorem Invariant.settled_iff {remaining : List String} {order : List Target} (hp : p.Sound)
    (h : Invariant p m remaining order s) {t : Target} (ht : t.Known p) :
    s.Settled m t ↔ t.fullName ∉ remaining := by
  have hkeys : s.registry.keys = order.map Target.key :=
    map_eq_of_forall₂ (fun _ _ hx => hx.1) h.entries
  rw [h.fresh t ht, not_not, h.begun, List.map_cons, List.mem_cons]
  unfold Settled
  rw [hkeys]
  apply or_congr_right
  rw [List.mem_map, List.mem_map]
  apply exists_congr
  intro u
  apply and_congr_right
  intro hu
  exact (h.known u (h.begun ▸ List.mem_cons_of_mem _ hu)).key_inj hp ht

variable {remaining : List String} {order : List Target}

theorem tasks_eq {d : Draft Schema} (hrest : s.current.rest = d) :
    s.tasks = d.tasks s.current.path ++ s.callers.flatMap Activation.tasks := by
  unfold tasks Activation.tasks
  rw [List.flatMap_cons, hrest]

section Use

variable {u : Use} {uses : List Use} {result : Except Fault Schema}
  (hrest : s.current.rest = ⟨u :: uses, result⟩)
include hrest

theorem tasks_pass :
    s.tasks = .visit { u with path := s.current.path ++ u.path } ::
      (s.pass ⟨uses, result⟩).tasks :=
  tasks_eq hrest

/-- The current activation comes to known types only, and stays sound when it goes on. -/
theorem Invariant.sound_pass (h : Invariant p m remaining order s) :
    u.target.Known p ∧
      ∀ a ∈ (s.pass ⟨uses, result⟩).current :: s.callers, a.Sound p := by
  obtain ⟨hcurrent, hcallers⟩ := List.forall_mem_cons.1 h.sound
  have huses : UsesOnly (Target.Known p) (⟨u :: uses, result⟩ : Draft Schema) :=
    hrest ▸ hcurrent.uses
  have hresult : result = (s.current.target.draft p).result :=
    (congrArg Draft.result hrest).symm.trans hcurrent.result
  refine ⟨huses u List.mem_cons_self, List.forall_mem_cons.2 ⟨⟨hresult, ?_⟩, hcallers⟩⟩
  exact fun v hv => huses v (List.mem_cons_of_mem _ hv)

/-- A use of a type that is not new changes nothing but what is left of the draft. -/
theorem Invariant.pass (hp : p.Sound) (h : Invariant p m remaining order s)
    (hold : s.Settled m u.target) : Invariant p m remaining order (s.pass ⟨uses, result⟩) := by
  obtain ⟨hu, hsound⟩ := h.sound_pass hrest
  have hseen : u.target.fullName ∉ remaining := (h.settled_iff hp hu).1 hold
  exact
    { h with
      sound := hsound
      completes := by rw [← h.completes, tasks_pass hrest, walk, if_neg hseen] }

/-- A type that is new is the next one of the walk. -/
theorem Invariant.enter (hp : p.Sound) (h : Invariant p m remaining order s)
    (hnew : ¬ s.Settled m u.target) :
    u.target.fullName ∈ remaining ∧
      Invariant p m (without u.target.fullName remaining) (order ++ [u.target])
        ((s.pass ⟨uses, result⟩).enter p u (s.registry ++ [(u.target.key, none)])) := by
  obtain ⟨hu, hsound⟩ := h.sound_pass hrest
  have hmem : u.target.fullName ∈ remaining := not_not.1 ((h.settled_iff hp hu).not.1 hnew)
  have hname : u.target.fullName ∉ s.begun.map Target.fullName := (h.fresh _ hu).1 hmem
  have hactive : ((s.pass ⟨uses, result⟩).enter p u
      (s.registry ++ [(u.target.key, none)])).active = s.active ++ [u.target] :=
    List.reverse_cons
  refine ⟨hmem, ?_⟩
  constructor
  case begun =>
    show s.begun ++ [u.target] = _
    rw [h.begun, List.cons_append]
  case known => exact List.forall_mem_append.2 ⟨h.known, List.forall_mem_singleton.2 hu⟩
  case nodup =>
    show ((s.begun ++ [u.target]).map Target.fullName).Nodup
    rw [List.map_append]
    exact h.nodup.append (List.nodup_singleton _) (List.disjoint_singleton.2 hname)
  case active =>
    rw [hactive]
    exact h.active.append_right _
  case outermost =>
    obtain ⟨inner, hinner⟩ := h.outermost
    exact ⟨inner ++ [u.target], by rw [hactive, hinner, List.cons_append]⟩
  case sound => exact List.forall_mem_cons.2 ⟨Activation.start_sound _ _, hsound⟩
  case entries =>
    rw [hactive]
    have hentry : Entry p (Target.message m).key (s.active ++ [u.target]) u.target
        (u.target.key, none) :=
      ⟨rfl, .inl (List.mem_append_right _ (List.mem_singleton_self _))⟩
    refine List.rel_append (h.entries.imp ?_) (.cons hentry .nil)
    rintro t x ⟨hkey, ht⟩
    exact ⟨hkey, ht.imp_left (List.mem_append_left _)⟩
  case fresh =>
    intro t ht
    show _ ↔ t.fullName ∉ (s.begun ++ [u.target]).map Target.fullName
    rw [mem_without, h.fresh t ht, List.map_append, List.mem_append, not_or, List.map_singleton,
      List.mem_singleton]
  case completes =>
    have htasks : ((s.pass ⟨uses, result⟩).enter p u (s.registry ++ [(u.target.key, none)])).tasks =
        (u.target.draft p).tasks (s.current.path ++ u.path) ++ (s.pass ⟨uses, result⟩).tasks :=
      List.flatMap_cons
    rw [← h.completes, tasks_pass hrest, walk, if_pos hmem, htasks]
    generalize walk p _ _ = rest
    cases rest with
    | error f => rfl
    | ok after => exact congrArg Except.ok (List.append_assoc order [u.target] after)

end Use

/-- A type that is built has its schema from then on. -/
theorem Invariant.entries_leave (hp : p.Sound) (h : Invariant p m remaining order s)
    {outer : List Target} (hactive : s.active = outer ++ [s.current.target]) {schema : Schema}
    (hresult : (s.current.target.draft p).result = .ok schema) :
    List.Forall₂ (Entry p (Target.message m).key outer) order
      (s.registry.fulfill s.current.target.key
        (schema.redirect (place (Target.message m).key))) := by
  have hcurrent : s.current.target ∈ s.begun :=
    h.active.subset (hactive ▸ List.mem_append_right _ (List.mem_singleton_self _))
  refine List.forall₂_map_right_iff.2 (forall₂_imp_of_mem h.entries ?_)
  rintro t ht x ⟨hkey, hentry⟩
  by_cases hx : x.1 = s.current.target.key
  · -- Keys tell apart the types whose building was begun, so this is the entry of the current one.
    have hbegun : t ∈ s.begun := h.begun ▸ List.mem_cons_of_mem _ ht
    have hname : t.fullName = s.current.target.fullName :=
      ((h.known t hbegun).key_inj hp (h.known _ hcurrent)).1 (hkey.symm.trans hx)
    have he : t = s.current.target := List.inj_on_of_nodup_map h.nodup hbegun hcurrent hname
    rw [if_pos hx, he]
    exact ⟨rfl, .inr ⟨schema, hresult, rfl⟩⟩
  · rw [if_neg hx]
    refine ⟨hkey, hentry.imp_left fun ht' => ?_⟩
    rw [hactive] at ht'
    rcases List.mem_append.1 ht' with ht' | ht'
    · exact ht'
    · rw [List.mem_singleton.1 ht'] at hkey
      exact absurd hkey hx

/-- The caller goes on where it was left. -/
theorem Invariant.leave (hp : p.Sound) (h : Invariant p m remaining order s) {schema : Schema}
    {caller : Activation} {callers : List Activation} (hrest : s.current.rest = ⟨[], .ok schema⟩)
    (hcallers : s.callers = caller :: callers) :
    Invariant p m remaining order
      (s.leave (schema.redirect (place (Target.message m).key)) caller callers) := by
  let outer : List Target := ((caller :: callers).map (·.target)).reverse
  have hactive : s.active = outer ++ [s.current.target] := by
    unfold Progress.active
    rw [hcallers]
    exact List.reverse_cons
  have hsub : outer.Sublist s.active := hactive ▸ List.sublist_append_left _ _
  obtain ⟨hcurrent, houter⟩ := List.forall_mem_cons.1 h.sound
  have hresult : (s.current.target.draft p).result = .ok schema := by
    rw [← hcurrent.result, hrest]
  exact
    { h with
      active := hsub.trans h.active
      outermost := by
        obtain ⟨inner, hinner⟩ := h.outermost
        rw [hactive] at hinner
        rcases List.append_eq_cons_iff.1 hinner with ⟨hempty, -⟩ | ⟨inner', hinner', -⟩
        · exact absurd (List.reverse_eq_nil_iff.1 hempty) (List.cons_ne_nil _ _)
        · exact ⟨inner', hinner'⟩
      sound := hcallers ▸ houter
      entries := h.entries_leave hp hactive hresult
      completes := by
        rw [← h.completes, tasks_eq hrest, hcallers]
        rfl }

/-! ## 4. The end -/

/-- How much is left to do in the activations there are. -/
def weight (s : Progress) : Nat :=
  ((s.current :: s.callers).map fun a => a.rest.uses.length + 1).sum

/-- Each step leaves fewer names that are new, or as many and less to do in the activations. -/
theorem Invariant.step (hp : p.Sound) (h : Invariant p m remaining order s)
    (hstep : Step p m s s') :
    ∃ remaining' order', Invariant p m remaining' order' s' ∧
      Prod.Lex (· < ·) (· < ·) (remaining'.length, s'.weight) (remaining.length, s.weight) := by
  cases hstep with
  | @pass u uses result hrest hold =>
    refine ⟨remaining, order, h.pass hrest hp hold, Prod.Lex.right _ ?_⟩
    simp only [weight, Progress.pass, List.map_cons, List.sum_cons, hrest, List.length_cons]
    omega
  | @enter u uses result hrest hnew =>
    obtain ⟨hmem, henter⟩ := h.enter hrest hp hnew
    exact ⟨_, _, henter, Prod.Lex.left _ _ (length_without_lt hmem)⟩
  | @leave schema caller callers hrest hcallers =>
    refine ⟨remaining, order, h.leave hp hrest hcallers, Prod.Lex.right _ ?_⟩
    simp only [weight, Progress.leave, hcallers, List.map_cons, List.sum_cons]
    omega

/-- So the steps come to an end. -/
theorem Invariant.ends {remaining : List String} {order : List Target} {s : Progress}
    (hp : p.Sound) (h : Invariant p m remaining order s) :
    ∃ remaining' order' s' o, Steps p m s s' ∧ Invariant p m remaining' order' s' ∧
      next p m s' = .inr o := by
  cases hnext : next p m s with
  | inr o => exact ⟨remaining, order, s, o, .refl, h, hnext⟩
  | inl s' =>
    obtain ⟨remaining', order', h', hless⟩ := h.step hp (.of_next hnext)
    obtain ⟨remaining'', order'', s'', o, hsteps, h'', ho⟩ := h'.ends hp
    exact ⟨remaining'', order'', s'', o, .head hnext hsteps, h'', ho⟩
termination_by (remaining.length, s.weight)
decreasing_by exact hless

/-- Where every entry has its schema, these are the definitions. -/
theorem finish_eq {own : String} {registry : Registry}
    (h : List.Forall₂ (fun t x => x.1 = t.key ∧ ∃ schema, (t.draft p).result = .ok schema ∧
      x.2 = some (schema.redirect (place own))) order registry) :
    ∃ definitions, registry.finish = .ok definitions ∧
      order.mapM (definition p own) = .ok definitions := by
  induction h with
  | nil => exact ⟨[], rfl, rfl⟩
  | @cons t x order registry hx _ ih =>
    obtain ⟨hkey, schema, hschema, hbuilt⟩ := hx
    obtain ⟨definitions, hfinish, hdefinitions⟩ := ih
    refine ⟨(t.key, schema.redirect (place own)) :: definitions, ?_, ?_⟩
    · unfold Registry.finish at hfinish ⊢
      rw [List.mapM_cons, hfinish, hbuilt, hkey]
      rfl
    · rw [List.mapM_cons, definition_eq_ok.2 ⟨schema, hschema, rfl⟩, hdefinitions]
      rfl

/-- Once the message itself is built, so is every definition of its document. -/
theorem Invariant.document (h : Invariant p m remaining order s) {schema : Schema}
    (hrest : s.current.rest = ⟨[], .ok schema⟩) (hcallers : s.callers = []) :
    ∃ definitions, s.registry.finish = .ok definitions ∧
      Generation.document p m =
        .ok { root := schema.redirect (place (Target.message m).key), definitions } := by
  have hactive : s.active = [s.current.target] := by
    unfold Progress.active
    rw [hcallers]
    rfl
  obtain ⟨inner, hinner⟩ := h.outermost
  have hown : s.current.target = .message m := by
    rw [hactive] at hinner
    exact (List.cons.inj hinner).1
  have hroot : ((Target.message m).draft p).result = .ok schema := by
    rw [← hown, ← (h.sound _ List.mem_cons_self).result, hrest]
  -- Only the message is being built, and its building was begun once, before the others.
  have hentries : List.Forall₂ (fun t x => x.1 = t.key ∧ ∃ schema, (t.draft p).result = .ok schema ∧
      x.2 = some (schema.redirect (place (Target.message m).key))) order s.registry := by
    refine forall₂_imp_of_mem h.entries ?_
    rintro t ht x ⟨hkey, hactive' | hbuilt⟩
    · rw [hactive, hown, List.mem_singleton] at hactive'
      have hnodup := h.nodup
      rw [h.begun, List.map_cons, List.nodup_cons] at hnodup
      exact absurd (List.mem_map_of_mem (hactive' ▸ ht)) hnodup.1
    · exact ⟨hkey, hbuilt⟩
  obtain ⟨definitions, hfinish, hdefinitions⟩ := finish_eq hentries
  have htasks : s.tasks = [] := by
    rw [tasks_eq hrest, hcallers]
    rfl
  have hwalk : walk p (without m.fullName (definable p)) (((Target.message m).draft p).tasks []) =
      .ok order := by
    rw [← h.completes, htasks, walk]
    exact congrArg Except.ok (List.append_nil order)
  refine ⟨definitions, hfinish, ?_⟩
  rw [document_eq]
  refine Except.bind_eq_ok.2 ⟨order, hwalk, Except.bind_eq_ok.2 ⟨schema, hroot, ?_⟩⟩
  exact Except.bind_eq_ok.2 ⟨definitions, hdefinitions, rfl⟩

/-- The steps end with the document of the message, or with the fault for which it has none. -/
theorem Invariant.outcome {o : Outcome} (h : Invariant p m remaining order s)
    (hends : Ends m s o) : o = .of (Generation.document p m) := by
  cases hends with
  | @fault f hrest =>
    have hwalk : walk p remaining s.tasks =
        .error { f with path := s.current.path ++ f.path } := by
      rw [tasks_eq hrest]
      show walk p remaining (.fail _ :: _) = _
      rw [walk]
    rw [document_eq, ← h.completes, hwalk]
    rfl
  | document hrest hcallers hfinish =>
    obtain ⟨definitions, hfinish', hdocument⟩ := h.document hrest hcallers
    rw [hdocument]
    cases hfinish.symm.trans hfinish'
    rfl
  | unbuilt hrest hcallers hfinish =>
    obtain ⟨definitions, hfinish', -⟩ := h.document hrest hcallers
    cases hfinish.symm.trans hfinish'

end Progress

/-! ## 5. How often types are built -/

variable {p : Pool} {m : Message} {s : Progress} {remaining : List String} {order : List Target}

def Target.message? : Target → Option Message
  | message m => some m
  | enum _ | shared _ => none

/-- The messages that are being built, each inside the one before it. -/
def Progress.nested (s : Progress) : List Message := s.active.filterMap Target.message?

theorem Progress.Steps.invariant (hp : p.Sound) (hm : m ∈ p.messages)
    (hsteps : Steps p m (.initial p m) s) :
    ∃ remaining order, Invariant p m remaining order s := by
  induction hsteps with
  | refl => exact ⟨_, _, .initial hm⟩
  | tail _ hnext ih =>
    obtain ⟨remaining, order, h⟩ := ih
    obtain ⟨remaining', order', h', -⟩ := h.step hp (.of_next hnext)
    exact ⟨remaining', order', h'⟩

/-- The messages that are being built are declared, and no two of them are the same. -/
theorem Progress.Invariant.nested_le (h : Invariant p m remaining order s) :
    s.nested.length ≤ p.messages.length := by
  have hnodup : s.nested.Nodup := by
    apply (h.active.nodup h.nodup.of_map).filterMap
    intro t u n ht hu
    cases t <;> cases u <;> simp_all [Target.message?]
  have hsubset : s.nested ⊆ p.messages := by
    intro n hn
    obtain ⟨t, ht, he⟩ := List.mem_filterMap.1 hn
    cases t with
    | message n' =>
      cases he
      exact h.known _ (h.active.subset ht)
    | enum e => cases he
    | shared t => cases he
  exact (hnodup.subperm hsubset).length_le

/-- From every state that is reached, the steps go on to the document of the message or to its
fault.  Up to then no type was begun twice, the message was begun once, and no more messages are
being built inside each other than the pool declares. -/
theorem document_built_once {set : DescriptorSet} {p : Pool} (hset : Pool.ofSet set = .ok p)
    {m : Message} (hm : m ∈ p.messages) {s : Progress}
    (hs : Progress.Steps p m (.initial p m) s) :
    (∃ s', Progress.Steps p m s s' ∧ Progress.next p m s' = .inr (.of (document p m))) ∧
      (s.begun.map Target.key).Nodup ∧ Target.message m ∈ s.begun ∧
      s.nested.length ≤ p.messages.length := by
  have hp := Pool.ofSet_sound hset
  obtain ⟨remaining, order, h⟩ := hs.invariant hp hm
  refine ⟨?_, keys_nodup hp h.known h.nodup, h.begun ▸ List.mem_cons_self, h.nested_le⟩
  obtain ⟨remaining', order', s', o, hsteps, h', hnext⟩ := h.ends hp
  refine ⟨s', hsteps, ?_⟩
  rw [← h'.outcome (.of_next hnext)]
  exact hnext

/-- A ledger with the entry inside it: the entry leads back to the ledger, which is not built
again. -/
theorem ledger_built_once :
    ∃ s, Progress.Steps ledgerPool ledgerMessage (.initial ledgerPool ledgerMessage) s ∧
      s.nested = [ledgerMessage, entryMessage ".acme.Entry"] ∧
      (∃ s', Progress.Steps ledgerPool ledgerMessage s s' ∧
        Progress.next ledgerPool ledgerMessage s' = .inr (.of (document ledgerPool ledgerMessage))) ∧
      (s.begun.map Target.key).Nodup ∧ Target.message ledgerMessage ∈ s.begun ∧
      s.nested.length ≤ 2 := by
  have hstep : ∃ s,
      Progress.next ledgerPool ledgerMessage (.initial ledgerPool ledgerMessage) = .inl s ∧
      s.nested = [ledgerMessage, entryMessage ".acme.Entry"] := ⟨_, rfl, rfl⟩
  obtain ⟨s, hnext, hnested⟩ := hstep
  have hsteps :
      Progress.Steps ledgerPool ledgerMessage (.initial ledgerPool ledgerMessage) s :=
    .single hnext
  exact ⟨s, hsteps, hnested,
    document_built_once ledgerPool_built List.mem_cons_self hsteps⟩

end ProtoSchema.Generation
