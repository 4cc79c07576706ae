import ProtoSchema.Proofs.Generation.Definitions

/-!
# When a message has a document

A message has a document exactly if every message that it reaches can be drafted.  The walk comes to
all of these messages, since no other type bears the name of one, and enums and shared types can
always be drafted.
-/

namespace ProtoSchema.Generation

namespace Draft

variable {α β ε : Type}

/-! ## 1. Drafts that succeed -/

/-- The draft has a result. -/
def Succeeds (d : Draft α) : Prop := ∃ x, d.result = .ok x

theorem Succeeds.yields {d : Draft α} (h : d.Succeeds) : ∃ x, Yields d x d.targets := by
  obtain ⟨x, hx⟩ := h
  exact ⟨x, hx, rfl⟩

theorem Yields.succeeds {d : Draft α} {x : α} {ts : List Target} (h : Yields d x ts) :
    d.Succeeds :=
  ⟨x, h.1⟩

theorem succeeds_pure (x : α) : (pure x : Draft α).Succeeds := ⟨x, rfl⟩

theorem not_succeeds_fail (cause : Cause) : ¬ (fail cause : Draft α).Succeeds := by
  rintro ⟨x, hx⟩
  cases hx

theorem succeeds_reference (t : Target) : (reference t).Succeeds := ⟨_, rfl⟩

theorem succeeds_bind {d : Draft α} {f : α → Draft β} :
    (d >>= f).Succeeds ↔ ∃ x, d.result = .ok x ∧ (f x).Succeeds := by
  constructor
  · intro h
    obtain ⟨y, hy⟩ := h.yields
    obtain ⟨x, us, vs, hx, hf, -⟩ := yields_bind.1 hy
    exact ⟨x, hx.1, hf.succeeds⟩
  · rintro ⟨x, hx, y, hy⟩
    have hbind : Yields (d >>= f) y (d.targets ++ (f x).targets) :=
      yields_bind.2 ⟨x, _, _, ⟨hx, rfl⟩, ⟨hy, rfl⟩, rfl⟩
    exact hbind.succeeds

theorem succeeds_inside {segment : String} {d : Draft α} :
    (d.inside segment).Succeeds ↔ d.Succeeds := by
  constructor
  · intro h
    obtain ⟨x, hx⟩ := h.yields
    exact (yields_inside.1 hx).succeeds
  · intro h
    obtain ⟨x, hx⟩ := h.yields
    exact Yields.succeeds (yields_inside.2 hx)

theorem result_ofExcept {r : Except ε α} {cause : ε → Cause} {x : α} :
    (ofExcept r cause).result = .ok x ↔ r = .ok x := by
  cases r with
  | error e =>
    constructor
    · intro h
      cases h
    · intro h
      cases h
  | ok y =>
    change Except.ok y = Except.ok x ↔ _
    rw [Except.ok.injEq, Except.ok.injEq]

theorem succeeds_ofExcept {r : Except ε α} {cause : ε → Cause} :
    (ofExcept r cause).Succeeds ↔ ∃ x, r = .ok x :=
  exists_congr fun _ => result_ofExcept

/-- Where it makes no difference what the rest is given, both have to succeed. -/
theorem succeeds_bind_and {d : Draft α} {f : α → Draft β} {P : Prop}
    (hf : ∀ x, (f x).Succeeds ↔ P) : (d >>= f).Succeeds ↔ d.Succeeds ∧ P := by
  rw [succeeds_bind]
  constructor
  · rintro ⟨x, hx, h⟩
    exact ⟨⟨x, hx⟩, (hf x).1 h⟩
  · rintro ⟨⟨x, hx⟩, h⟩
    exact ⟨x, hx, (hf x).2 h⟩

/-- Where the rest always succeeds, the whole succeeds if its first part does. -/
theorem succeeds_bind_of_forall {d : Draft α} {f : α → Draft β} (hf : ∀ x, (f x).Succeeds) :
    (d >>= f).Succeeds ↔ d.Succeeds := by
  rw [succeeds_bind]
  exact exists_congr fun x => and_iff_left (hf x)

theorem succeeds_mapM {f : α → Draft β} {xs : List α} :
    (xs.mapM f).Succeeds ↔ ∀ x ∈ xs, (f x).Succeeds := by
  induction xs with
  | nil =>
    rw [List.mapM_nil]
    exact iff_of_true (succeeds_pure _) (by simp)
  | cons x xs ih =>
    rw [List.mapM_cons, List.forall_mem_cons, ← ih]
    exact succeeds_bind_and fun _ => succeeds_bind_of_forall fun _ => succeeds_pure _

theorem succeeds_option {f : α → Draft β} {o : Option α} :
    (o.mapM f).Succeeds ↔ ∀ x ∈ o, (f x).Succeeds := by
  cases o with
  | none =>
    rw [Option.mapM_none]
    exact iff_of_true (succeeds_pure _) (by simp)
  | some x =>
    rw [Option.mapM_some, map_eq_pure_bind]
    rw [succeeds_bind_of_forall fun y => succeeds_pure _]
    simp

end Draft

open Draft

variable {p : Pool}

/-! ## 2. Walks that meet no fault -/

/-- Where everything that the uses reach can be drafted, the walk ends without a fault. -/
theorem walk_completes {remaining : List String} {tasks : List Task} (uses : List Use)
    (htasks : tasks = uses.map .visit)
    (h : ∀ u ∈ uses, ∀ t, Reaches p u.target t → (t.draft p).Succeeds) :
    ∃ order, walk p remaining tasks = .ok order := by
  induction remaining, tasks using walk.induct p generalizing uses with
  | case1 remaining =>
    rw [walk]
    exact ⟨[], rfl⟩
  | case2 remaining f rest =>
    obtain ⟨u, _, -, hu, -⟩ := List.map_eq_cons_iff.1 htasks.symm
    cases hu
  | case3 remaining u rest hmem ih =>
    obtain ⟨u', uses, rfl, hu, rfl⟩ := List.map_eq_cons_iff.1 htasks.symm
    cases hu
    obtain ⟨hown, huses⟩ := List.forall_mem_cons.1 h
    obtain ⟨s, hs⟩ := (hown u.target .refl).yields
    have hlinks : (u.target.draft p).targets = u.target.links p := (Yields.target hs).2
    -- The draft holds no fault, so its tasks are visits to its links, which are reached too.
    let below : List Use :=
      (u.target.draft p).uses.map fun v => { v with path := u.path ++ v.path }
    have htasks' : (u.target.draft p).tasks u.path = below.map .visit := by
      rw [tasks_ok hs.1, List.map_map]
      rfl
    have hbelow : ∀ v ∈ below, ∀ t, Reaches p v.target t → (t.draft p).Succeeds := by
      intro v hv t ht
      obtain ⟨w, hw, rfl⟩ := List.mem_map.1 hv
      have hlink : w.target ∈ u.target.links p := hlinks ▸ List.mem_map_of_mem hw
      exact hown t (.head hlink ht)
    obtain ⟨order, horder⟩ := ih (below ++ uses) (by rw [htasks', List.map_append])
      (List.forall_mem_append.2 ⟨hbelow, huses⟩)
    rw [walk, if_pos hmem, horder]
    exact ⟨u.target :: order, rfl⟩
  | case4 remaining u rest hmem ih =>
    obtain ⟨u', uses, rfl, hu, rfl⟩ := List.map_eq_cons_iff.1 htasks.symm
    cases hu
    rw [walk, if_neg hmem]
    exact ih uses rfl (List.forall_mem_cons.1 h).2

/-! ## 3. Messages that have documents -/

theorem Target.draft_enum_succeeds (e : EnumType) : ((Target.enum e).draft p).Succeeds :=
  succeeds_pure _

theorem Target.draft_shared_succeeds (t : SharedType) : ((Target.shared t).draft p).Succeeds := by
  cases t <;> exact ⟨_, rfl⟩

theorem Target.draft_message_succeeds {m : Message} :
    ((Target.message m).draft p).Succeeds ↔ (messageSchema p m).Succeeds :=
  succeeds_inside

/-- The walk from a message comes to every other message that it reaches. -/
theorem visits_reached_message (hp : p.Sound) {m : Message} (hm : m ∈ p.messages)
    {order : List Target}
    (h : Visits Target.fullName (Target.links p) {m.fullName} ((Target.message m).links p) order)
    {t : Target} (ht : Reaches p (.message m) t) {m' : Message} (he : t = .message m') :
    t = .message m ∨ t ∈ order := by
  obtain ⟨hmessages, -, hboth⟩ := hp.declared_inj
  induction ht generalizing m' with
  | refl => exact .inl rfl
  | @tail b c hb hlink ih =>
    subst he
    -- Only messages lead to messages, and the walk has followed the links of this one.
    have hname : m'.fullName ∈ ({m.fullName} : Set String) ∪ named Target.fullName order := by
      cases b with
      | enum e => cases hlink
      | shared s => cases s <;> simp [Target.links] at hlink
      | message n =>
        rcases ih rfl with he | hn
        · cases he
          exact h.complete _ hlink
        · exact h.closed _ hn _ hlink
    have hknown : m' ∈ p.messages := Target.links_known b _ hlink
    rcases hname with hname | hname
    · left
      rw [hmessages m' hknown m hm hname]
    · right
      obtain ⟨v, hv, hvm⟩ := mem_named.1 hname
      have hvknown : v.Known p := visits_known h v hv
      cases v with
      | message n =>
        rw [← hmessages n hvknown m' hknown hvm]
        exact hv
      | enum e => exact absurd hvm.symm (hboth m' hknown e hvknown)
      | shared s => exact absurd hvm.symm (links_ne hlink s.wellKnown)

/-- A message has a document exactly if every message that it reaches can be drafted. -/
theorem document_ok_iff_drafts (hp : p.Sound) {m : Message} (hm : m ∈ p.messages) :
    (∃ d, document p m = .ok d) ↔
      ∀ m', Reaches p (.message m) (.message m') → (messageSchema p m').Succeeds := by
  constructor
  · rintro ⟨d, hd⟩ m' hm'
    obtain ⟨order, hwalk, -⟩ := Except.bind_eq_ok.1 hd
    obtain ⟨⟨s, hs⟩, hvisits, hdrafts⟩ := walk_message hwalk
    rw [← Target.draft_message_succeeds]
    rcases visits_reached_message hp hm hvisits hm' rfl with he | ht
    · rw [he]
      exact hs.succeeds
    · obtain ⟨s', hs'⟩ := hdrafts _ ht
      exact hs'.succeeds
  · intro h
    have hdrafts : ∀ t, Reaches p (.message m) t → (t.draft p).Succeeds := by
      intro t ht
      cases t with
      | message m' => exact Target.draft_message_succeeds.2 (h m' ht)
      | enum e => exact Target.draft_enum_succeeds e
      | shared s => exact Target.draft_shared_succeeds s
    obtain ⟨s, hs⟩ := (hdrafts _ .refl).yields
    have htasks : ((Target.message m).draft p).tasks [] =
        ((Target.message m).draft p).uses.map .visit := tasks_ok hs.1 []
    have huses : ∀ u ∈ ((Target.message m).draft p).uses, ∀ t, Reaches p u.target t →
        (t.draft p).Succeeds := by
      intro u hu t ht
      have hlink : u.target ∈ (Target.message m).links p := by
        rw [← (Yields.target hs).2]
        exact List.mem_map_of_mem hu
      exact hdrafts t (.head hlink ht)
    obtain ⟨order, horder⟩ := walk_completes _ htasks huses
    obtain ⟨d, hd, -⟩ := document_of_walk horder
    exact ⟨d, hd⟩

end ProtoSchema.Generation
