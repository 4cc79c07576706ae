import ProtoSchema.Proofs.Descriptor.Rearrangement
import ProtoSchema.Proofs.Generation.Exchange
import ProtoSchema.Proofs.Generation.Mentions

/-!
# What a document depends on

A document depends only on what its message leads to by mentions.  Pools that agree on these names
give the same document or the same fault, whatever else they hold and in whatever order.  The pools
of a descriptor set and of a rearranged one agree on all names.
-/

namespace ProtoSchema.Generation

open Draft

variable {p q : Pool} {α : Type}

/-! ## 1. Walks in pools that agree -/

/-- Where the types with a property have the same drafts in both pools, and these use only such
types. -/
structure SameDrafts (p q : Pool) (P : Target → Prop) : Prop where
  draft : ∀ t, P t → t.draft p = t.draft q
  uses : ∀ t, P t → UsesOnly P (t.draft p)

/-- All types that the tasks visit have a property. -/
def VisitsOnly (P : Target → Prop) (tasks : List Task) : Prop :=
  ∀ u, Task.visit u ∈ tasks → P u.target

theorem UsesOnly.tasks {P : Target → Prop} {d : Draft α} (h : UsesOnly P d) (path : List String) :
    VisitsOnly P (d.tasks path) := by
  intro u hu
  unfold Draft.tasks at hu
  rcases List.mem_append.1 hu with hu | hu
  · obtain ⟨v, hv, he⟩ := List.mem_map.1 hu
    cases he
    exact h v hv
  · split at hu
    · cases hu
    · cases List.mem_singleton.1 hu

theorem VisitsOnly.append {P : Target → Prop} {tasks tasks' : List Task} (h : VisitsOnly P tasks)
    (h' : VisitsOnly P tasks') : VisitsOnly P (tasks ++ tasks') := by
  intro u hu
  rcases List.mem_append.1 hu with hu | hu
  · exact h u hu
  · exact h' u hu

/-- Walks that visit only such types are the same in both pools, and come to such types only. -/
theorem walk_congr {P : Target → Prop} (hP : SameDrafts p q P) {remaining : List String}
    {tasks : List Task} (htasks : VisitsOnly P tasks) {remaining' : List String}
    (hremaining : ∀ t, P t → (t.fullName ∈ remaining ↔ t.fullName ∈ remaining')) :
    walk p remaining tasks = walk q remaining' tasks ∧
      ∀ order, walk p remaining tasks = .ok order → ∀ t ∈ order, P t := by
  induction remaining, tasks using walk.induct p generalizing remaining' with
  | case1 remaining =>
    rw [walk, walk]
    refine ⟨rfl, fun order h => ?_⟩
    cases h
    simp
  | case2 remaining f rest =>
    rw [walk, walk]
    refine ⟨rfl, fun order h => ?_⟩
    cases h
  | case3 remaining u rest hmem ih =>
    have hu : P u.target := htasks u List.mem_cons_self
    have hrest : VisitsOnly P rest := fun v hv => htasks v (List.mem_cons_of_mem _ hv)
    have hbelow : VisitsOnly P ((u.target.draft p).tasks u.path) := 
      UsesOnly.tasks (hP.uses _ hu) u.path
    have hwithout : ∀ t, P t → (t.fullName ∈ without u.target.fullName remaining ↔
        t.fullName ∈ without u.target.fullName remaining') := by
      intro t ht
      rw [mem_without, mem_without, hremaining t ht]
    obtain ⟨heq, hall⟩ := ih (hbelow.append hrest) hwithout
    rw [walk, walk, if_pos hmem, if_pos ((hremaining _ hu).1 hmem), ← hP.draft _ hu]
    refine ⟨congrArg _ heq, fun order h t ht => ?_⟩
    obtain ⟨order', horder, rfl⟩ := Except.map_eq_ok.1 h
    rcases List.mem_cons.1 ht with rfl | ht
    · exact hu
    · exact hall order' horder t ht
  | case4 remaining u rest hmem ih =>
    have hu : P u.target := htasks u List.mem_cons_self
    have hrest : VisitsOnly P rest := fun v hv => htasks v (List.mem_cons_of_mem _ hv)
    rw [walk, if_neg hmem, walk, if_neg fun h => hmem ((hremaining _ hu).2 h)]
    exact ih hrest hremaining

/-! ## 2. Documents in pools that agree -/

section Agreement

variable {r : Mention} (h : ∀ next, p.LeadsTo r next → p.Agree q next)
include h

theorem sameDrafts_of_agree : SameDrafts p q (Target.StandsFor p (p.LeadsTo r)) := by
  have hmentions : ∀ t : Target, t.StandsFor p (p.LeadsTo r) → ∀ next ∈ t.mentions,
      p.LeadsTo r next := by
    intro t ht next hnext
    cases ht with
    | message hname hm => exact .tail hname (.intro hm hnext)
    | enum _ _ => cases hnext
    | shared s => cases hnext
  constructor
  · intro t ht
    exact Target.draft_congr fun next hnext => h next (hmentions t ht next hnext)
  · intro t ht
    exact Target.draft_usesOnly (hmentions t ht)

/-- What a type leads to is declared in both pools. -/
theorem definable_of_agree {t : Target} (ht : t.StandsFor p (p.LeadsTo r)) :
    t.fullName ∈ definable p ∧ t.fullName ∈ definable q := by
  have hother : t.StandsFor q (p.LeadsTo r) := by
    cases ht with
    | message hname hm => exact .message hname ((h _ hname).symm.trans hm)
    | enum hname he => exact .enum hname ((h _ hname).symm.trans he)
    | shared s => exact .shared s
  exact ⟨ht.known.definable, hother.known.definable⟩

end Agreement

/-- The document of a message is the same in pools that agree on all that it leads to. -/
theorem document_congr {name : String} {m : Message} (hm : p.message? name = some m)
    (h : ∀ next, p.LeadsTo (.message name) next → p.Agree q next) :
    document p m = document q m := by
  have hdrafts := sameDrafts_of_agree h
  have hown : (Target.message m).StandsFor p (p.LeadsTo (.message name)) := .message .refl hm
  have hdraft : (Target.message m).draft p = (Target.message m).draft q := hdrafts.draft _ hown
  have hremaining : ∀ t : Target, t.StandsFor p (p.LeadsTo (.message name)) →
      (t.fullName ∈ without m.fullName (definable p) ↔
        t.fullName ∈ without m.fullName (definable q)) := by
    intro t ht
    obtain ⟨hp, hq⟩ := definable_of_agree h ht
    rw [mem_without, mem_without, and_iff_right hp, and_iff_right hq]
  obtain ⟨hwalk, horder⟩ := walk_congr hdrafts (UsesOnly.tasks (hdrafts.uses _ hown) [])
    hremaining
  rw [document_eq, document_eq, ← hdraft, ← hwalk]
  apply Except.bind_congr
  intro order hresult
  -- The types of the walk are led to as well, so their definitions are the same.
  have hdefinitions : order.mapM (definition p (Target.message m).key) =
      order.mapM (definition q (Target.message m).key) := by
    apply mapM_congr
    intro t ht
    unfold definition
    rw [hdrafts.draft t (horder order hresult t ht)]
  rw [hdefinitions]

/-! ## 3. Pools of descriptor sets -/

/-- Pools give the same document of a message, or the same fault, if each name that the message
leads to is declared in both with the same content or in neither.  So a document stays the same when
files and declarations change places, when files are added that declare none of these names, and
when other files are to be generated. -/
theorem document_locality {set set' : DescriptorSet} {p p' : Pool}
    (hset : Pool.ofSet set = .ok p) (hset' : Pool.ofSet set' = .ok p') :
    (∀ name m m', p.message? name = some m → p'.message? name = some m' →
      (∀ next, p.LeadsTo (.message name) next → p.Agree p' next) →
      document p m = document p' m') ∧
    ∀ added, set.Rearranged added set' → ∀ m ∈ p.messages,
      (∀ next, p.LeadsTo (.message m.fullName) next →
        ∀ f ∈ added, ∀ t ∈ f.types, declaredName t ≠ next.fullName) →
      m ∈ p'.messages ∧ document p m = document p' m := by
  have hp := Pool.ofSet_sound hset
  constructor
  · intro name m m' hm hm' hagree
    have hsame : p.message? name = p'.message? name := hagree _ .refl
    rw [hm, hm', Option.some.injEq] at hsame
    rw [← hsame]
    exact document_congr hm hagree
  · intro added hadded m hm hfresh
    have hdot : DotLed m.fullName :=
      hp.dotLed _ (List.mem_append_left _ (List.mem_map_of_mem hm))
    have hfind : p.message? m.fullName = some m := hp.message?_eq_some.2 ⟨hm, hdot.inFull_eq.symm⟩
    refine ⟨hadded.mem_messages hset hset' hm, document_congr hfind fun next hnext => ?_⟩
    cases next with
    | message name => exact (hadded.lookups hset hset' (hfresh _ hnext)).1.symm
    | enum name => exact (hadded.lookups hset hset' (hfresh _ hnext)).2.symm

/-! ## 4. Messages that change places -/

/-- A file whose message has the short name of another one. -/
def spareFile : FileDescriptor :=
  { name := "spare.proto", package := "spare", messages := [entryDescriptor], enums := [] }

/-- The messages change places and a file comes before theirs, which is the only one to generate. -/
def movedSet : DescriptorSet :=
  { filesToGenerate := ["ledger.proto"]
    files := [spareFile, ledgerFile [entryDescriptor, ledgerDescriptor]] }

theorem movedSet_rearranged : ledgerSet.Rearranged [spareFile] movedSet := by
  refine ⟨[spareFile, ledgerFile [ledgerDescriptor, entryDescriptor]], List.Perm.swap _ _ _, ?_⟩
  have hmoved : (ledgerFile [ledgerDescriptor, entryDescriptor]).Rearranged
      (ledgerFile [entryDescriptor, ledgerDescriptor]) :=
    { name := rfl
      package := rfl
      messages := ⟨[entryDescriptor, ledgerDescriptor], List.Perm.swap _ _ _,
        List.forall₂_same.2 fun m _ => MessageDescriptor.Rearranged.refl m⟩
      enums := .refl _ }
  exact .cons (FileDescriptor.Rearranged.refl spareFile) (.cons hmoved .nil)

def movedPool : Pool :=
  ⟨[entryMessage ".spare.Entry", entryMessage ".acme.Entry", ledgerMessage], [ledgerKind],
    [".acme.Entry", ".acme.Ledger"]⟩

theorem movedPool_built : Pool.ofSet movedSet = .ok movedPool := by
  simp only [Pool.ofSet, movedSet, spareFile, ledgerFile, ledgerDescriptor, entryDescriptor,
    DescriptorSet.declarations, messageDeclarations, enumDeclarations, List.flatMap_cons,
    List.flatMap_nil]
  rfl

/-- What the messages of the ledger lead to. -/
def ledgerMentions : List Mention :=
  [.message ".acme.Ledger", .message ".acme.Entry", .enum ".acme.Kind"]

theorem ledger_leadsTo {r next : Mention} (hr : r ∈ ledgerMentions)
    (h : ledgerPool.LeadsTo r next) : next ∈ ledgerMentions := by
  have hmentions : ∀ m ∈ ledgerPool.messages, ∀ next ∈ m.mentions, next ∈ ledgerMentions := by
    decide
  cases h with
  | refl => exact hr
  | tail _ hnext =>
    cases hnext with
    | intro hm hnext => exact hmentions _ (List.mem_of_find?_eq_some hm) _ hnext

theorem spareFile_types : spareFile.types = [.inl (entryMessage ".spare.Entry")] := by
  simp only [FileDescriptor.types, FileDescriptor.declarations, spareFile, entryDescriptor,
    messageDeclarations, enumDeclarations, List.flatMap_cons, List.flatMap_nil]
  rfl

/-- The ledger has the document that it had before, and so has its entry. -/
theorem ledger_moved :
    ledgerSet.Rearranged [spareFile] movedSet ∧ ledgerMessage ∈ movedPool.messages ∧
      document ledgerPool ledgerMessage = document movedPool ledgerMessage ∧
      document ledgerPool (entryMessage ".acme.Entry") =
        document movedPool (entryMessage ".acme.Entry") := by
  obtain ⟨hagree, hadded⟩ := document_locality ledgerPool_built movedPool_built
  have hspare : ∀ next ∈ ledgerMentions, ∀ f ∈ [spareFile], ∀ t ∈ f.types,
      declaredName t ≠ next.fullName := by
    intro next hnext f hf t ht
    rw [List.mem_singleton.1 hf, spareFile_types] at ht
    rw [List.mem_singleton.1 ht]
    revert next
    decide
  have hsame : ∀ next ∈ ledgerMentions, ledgerPool.Agree movedPool next := by
    intro next hnext
    simp only [ledgerMentions, List.mem_cons, List.not_mem_nil, or_false] at hnext
    rcases hnext with rfl | rfl | rfl <;> rfl
  have hledger := hadded [spareFile] movedSet_rearranged ledgerMessage List.mem_cons_self
    fun next hnext => hspare next (ledger_leadsTo List.mem_cons_self hnext)
  have hentry := hagree ".acme.Entry" _ _ rfl rfl
    fun next hnext => hsame next (ledger_leadsTo (by decide) hnext)
  exact ⟨movedSet_rearranged, hledger.1, hledger.2, hentry⟩

end ProtoSchema.Generation
