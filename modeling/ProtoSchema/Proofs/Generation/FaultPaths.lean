import ProtoSchema.Proofs.Generation.DraftFaults

/-!
# Where a fault lies

The path of a fault is a walk through the declarations.  It starts at the message of the document
and goes from field to field, through messages that the fields embed, and no message is on it twice.
What lies at its end has the type or the constraints that the cause of the fault tells.
-/

namespace ProtoSchema.Generation

open Draft

variable {p : Pool}

/-! ## 1. Walks through the declarations -/

/-- A field of a message, or a part of the field. -/
structure Crumb where
  message : Message
  field : Field
  part : Option FieldPart

def Crumb.key (b : Crumb) : String := (Target.message b.message).key

def Crumb.segments (b : Crumb) : List String :=
  b.key :: b.field.name :: (b.part.map FieldPart.segment).toList

/-- What the crumb is at. -/
structure Crumb.At (b : Crumb) (s : Spot) : Prop where
  field : b.field ∈ b.message.fields
  spot : spot? b.field b.part = some s

/-- The crumbs lead from the first message to the second one, each to the message that it
embeds. -/
inductive Leads (p : Pool) (m : Message) : List Crumb → Message → Prop
  | start : Leads p m [] m
  | down {crumbs : List Crumb} {b : Crumb} {s : Spot} {next : Message}
      (hcrumbs : Leads p m crumbs b.message) (hat : b.At s) (hnext : Embeds p s.type next) :
      Leads p m (crumbs ++ [b]) next

/-! ## 2. Drafts of messages -/

/-- What the draft of a message comes to lies at one of its fields. -/
theorem meets_message {m : Message} :
    Meets
      (fun u => ∃ (b : Crumb) (s : Spot), b.message = m ∧ b.At s ∧ u.path = b.segments ∧
        ∀ n, u.target = .message n → Embeds p s.type n)
      (fun f => ∃ (b : Crumb) (s : Spot), b.message = m ∧ b.At s ∧ f.path = b.segments ∧
        AtFault p s f.cause)
      ((Target.message m).draft p) := by
  refine Meets.inside (Meets.bind (meets_mapM fun f hf => ?_) fun _ _ => meets_pure _)
  refine Meets.bind (Meets.inside (staysWithin_field.imp ?_ ?_)) fun _ _ => meets_pure _
  · rintro u ⟨part, s, hs, hpath, hm⟩
    exact ⟨⟨m, f, part⟩, s, rfl, ⟨hf, hs⟩, congrArg (_ :: _ :: ·) hpath, hm⟩
  · rintro fault ⟨part, s, hs, hpath, hfault⟩
    exact ⟨⟨m, f, part⟩, s, rfl, ⟨hf, hs⟩, congrArg (_ :: _ :: ·) hpath, hfault⟩

/-! ## 3. Walks that meet a fault -/

def names (crumbs : List Crumb) : List String := crumbs.map (·.message.fullName)

/-- The fault lies at the end of a walk from the message, on which no message is twice. -/
structure FaultWalk (p : Pool) (m : Message) (f : Fault) (crumbs : List Crumb) (last : Crumb)
    (s : Spot) : Prop where
  leads : Leads p m crumbs last.message
  at_last : last.At s
  path : f.path = (crumbs ++ [last]).flatMap Crumb.segments
  nodup : (names (crumbs ++ [last])).Nodup
  fault : AtFault p s f.cause

/-- A visit to a message comes from it on a walk through messages that were visited before; a fault
lies at the end of such a walk. -/
def Task.Sound (p : Pool) (m : Message) (remaining : List String) : Task → Prop
  | .visit u => ∀ n, u.target = .message n → ∃ crumbs, Leads p m crumbs n ∧
      u.path = crumbs.flatMap Crumb.segments ∧ (names crumbs).Nodup ∧
        ∀ name ∈ names crumbs, name ∉ remaining
  | .fail f => ∃ crumbs last s, FaultWalk p m f crumbs last s

variable {m n : Message} {remaining : List String}

theorem Task.Sound.without {t : Task} (h : t.Sound p m remaining) (name : String) :
    t.Sound p m (Generation.without name remaining) := by
  cases t with
  | fail f => exact h
  | visit u =>
    intro n hn
    obtain ⟨crumbs, hleads, hpath, hnodup, hgone⟩ := h n hn
    exact ⟨crumbs, hleads, hpath, hnodup, fun x hx hmem => hgone x hx (mem_without.1 hmem).1⟩

/-- The tasks of a message that is visited go on from the walk to it. -/
theorem sound_tasks {crumbs : List Crumb} (hleads : Leads p m crumbs n)
    (hnodup : (names crumbs ++ [n.fullName]).Nodup)
    (hgone : ∀ name ∈ names crumbs ++ [n.fullName], name ∉ remaining) :
    ∀ t ∈ ((Target.message n).draft p).tasks (crumbs.flatMap Crumb.segments),
      t.Sound p m remaining := by
  have hnames (b : Crumb) (hb : b.message = n) :
      names (crumbs ++ [b]) = names crumbs ++ [n.fullName] := by
    unfold names
    rw [List.map_append, List.map_singleton, hb]
  have hpath (b : Crumb) : crumbs.flatMap Crumb.segments ++ b.segments =
      (crumbs ++ [b]).flatMap Crumb.segments := by
    rw [List.flatMap_append, List.flatMap_singleton]
  intro t ht
  rcases List.mem_append.1 ht with ht | ht
  · obtain ⟨u, hu, rfl⟩ := List.mem_map.1 ht
    obtain ⟨b, s, hb, hat, hsegments, hembeds⟩ := meets_message.uses u hu
    intro n' hn'
    refine ⟨crumbs ++ [b], .down (hb ▸ hleads) hat (hembeds n' hn'), ?_, ?_, ?_⟩
    · rw [← hpath, ← hsegments]
    · rwa [hnames b hb]
    · rwa [hnames b hb]
  · cases hd : ((Target.message n).draft p).result with
    | ok x =>
      rw [hd] at ht
      cases ht
    | error f =>
      rw [hd] at ht
      obtain ⟨b, s, hb, hat, hsegments, hfault⟩ := meets_message.fault f hd
      rw [List.mem_singleton.1 ht]
      refine ⟨crumbs, b, s, hb ▸ hleads, hat, ?_, ?_, hfault⟩
      · rw [← hpath, ← hsegments]
      · rwa [hnames b hb]

/-- Enums and shared types can always be drafted, and lead to no messages. -/
theorem sound_tasks_leaf {t : Target} (ht : ∀ n, t ≠ .message n) (path : List String) :
    ∀ x ∈ (t.draft p).tasks path, x.Sound p m remaining := by
  have hyields : ∃ schema, Yields (t.draft p) schema (t.draft p).targets := by
    cases t with
    | message n => exact absurd rfl (ht n)
    | enum e => exact (Target.draft_enum_succeeds e).yields
    | shared s => exact (Target.draft_shared_succeeds s).yields
  obtain ⟨schema, hschema⟩ := hyields
  rw [tasks_ok hschema.1]
  intro x hx
  obtain ⟨u, hu, rfl⟩ := List.mem_map.1 hx
  intro n hn
  have hlink : Target.message n ∈ t.links p := by
    rw [← (Yields.target hschema).2]
    exact List.mem_map.2 ⟨u, hu, hn⟩
  cases t with
  | message n => exact absurd rfl (ht n)
  | enum e => cases hlink
  | shared s => cases s <;> simp [Target.links] at hlink

/-- Where a walk meets a fault, the declarations lead there. -/
theorem walk_fault {tasks : List Task} {f : Fault} (h : walk p remaining tasks = .error f)
    (hsound : ∀ t ∈ tasks, t.Sound p m remaining) :
    ∃ crumbs last s, FaultWalk p m f crumbs last s := by
  induction remaining, tasks using walk.induct p with
  | case1 remaining =>
    rw [walk] at h
    cases h
  | case2 remaining g rest =>
    rw [walk] at h
    cases h
    exact hsound _ List.mem_cons_self
  | case3 remaining u rest hmem ih =>
    rw [walk, if_pos hmem] at h
    obtain ⟨hvisit, hrest⟩ := List.forall_mem_cons.1 hsound
    cases hwalk : walk p (without u.target.fullName remaining)
        ((u.target.draft p).tasks u.path ++ rest) with
    | ok order =>
      rw [hwalk] at h
      cases h
    | error g =>
      rw [hwalk] at h
      cases h
      refine ih hwalk (List.forall_mem_append.2 ⟨?_, fun t ht => (hrest t ht).without _⟩)
      -- Only a message leads on, and its name is not among those that led to it.
      cases htarget : u.target with
      | enum e => exact sound_tasks_leaf (fun _ h => by cases h) _
      | shared s => exact sound_tasks_leaf (fun _ h => by cases h) _
      | message n =>
        obtain ⟨crumbs, hleads, hpath, hnodup, hgone⟩ := hvisit n htarget
        rw [htarget] at hmem
        rw [hpath]
        have hnew : n.fullName ∉ names crumbs := fun hn => hgone _ hn hmem
        refine sound_tasks hleads ?_ ?_
        · exact hnodup.append (List.nodup_singleton _) (List.disjoint_singleton.2 hnew)
        · intro name hname
          rw [mem_without, not_and_not_right]
          intro hremains
          rcases List.mem_append.1 hname with hname | hname
          · exact absurd hremains (hgone name hname)
          · exact List.mem_singleton.1 hname
  | case4 remaining u rest hmem ih =>
    rw [walk, if_neg hmem] at h
    exact ih h (List.forall_mem_cons.1 hsound).2

/-- The fault for which a message has no document lies where the declarations lead from it. -/
theorem document_fault {f : Fault} (h : document p m = .error f) :
    ∃ crumbs last s, FaultWalk p m f crumbs last s := by
  rw [document_eq] at h
  cases hwalk : walk p (without m.fullName (definable p))
      (((Target.message m).draft p).tasks []) with
  | ok order =>
    obtain ⟨d, hd, -⟩ := document_of_walk hwalk
    rw [← document_eq, hd] at h
    cases h
  | error g =>
    rw [hwalk] at h
    cases h
    refine walk_fault hwalk (sound_tasks .start (List.nodup_singleton _) fun name hname => ?_)
    rw [List.mem_singleton.1 hname, mem_without]
    exact fun hmem => hmem.2 rfl

theorem Leads.known {crumbs : List Crumb} (h : Leads p m crumbs n) (hm : m ∈ p.messages) :
    n ∈ p.messages ∧ ∀ b ∈ crumbs, b.message ∈ p.messages := by
  induction h with
  | start => exact ⟨hm, by simp⟩
  | down _ _ hnext ih =>
    obtain ⟨name, -, -, hname⟩ := hnext
    refine ⟨List.mem_of_find?_eq_some hname, List.forall_mem_append.2 ⟨ih.2, ?_⟩⟩
    exact List.forall_mem_singleton.2 ih.1

/-- No key of a message is on the walk twice. -/
theorem FaultWalk.keys_nodup (hp : p.Sound) (hm : m ∈ p.messages) {f : Fault}
    {crumbs : List Crumb} {last : Crumb} {s : Spot} (h : FaultWalk p m f crumbs last s) :
    ((crumbs ++ [last]).map Crumb.key).Nodup := by
  obtain ⟨hlast, hcrumbs⟩ := h.leads.known hm
  let targets : List Target := (crumbs ++ [last]).map fun b => .message b.message
  have hknown : ∀ t ∈ targets, t.Known p := by
    intro t ht
    obtain ⟨b, hb, rfl⟩ := List.mem_map.1 ht
    rcases List.mem_append.1 hb with hb | hb
    · exact hcrumbs b hb
    · rw [List.mem_singleton.1 hb]
      exact hlast
  have hnames : targets.map Target.fullName = names (crumbs ++ [last]) := List.map_map
  have hkeys : targets.map Target.key = (crumbs ++ [last]).map Crumb.key := List.map_map
  rw [← hkeys]
  exact Generation.keys_nodup hp hknown (hnames ▸ h.nodup)

end ProtoSchema.Generation
