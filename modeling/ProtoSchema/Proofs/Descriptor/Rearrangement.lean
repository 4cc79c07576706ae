import ProtoSchema.Proofs.Descriptor.Pool

/-!
# Rearranged descriptor sets

A pool holds what its files declare, in the order of the declarations.  Where files or the
declarations next to each other in a file or a message change places, the pool holds the same types
in another order, so every name that it looked up before it looks up to the same type.
-/

namespace ProtoSchema

/-! ## 1. What a pool holds -/

/-- What a declaration puts into a pool. -/
def Declaration.type : Declaration → Message ⊕ EnumType
  | message fullName _ d => .inl (Message.settled fullName d)
  | enum fullName d => .inr ⟨fullName, d.values⟩

/-- The declarations of a file; a target gets schema documents. -/
def FileDescriptor.declarations (target : Bool) (f : FileDescriptor) : List Declaration :=
  enumDeclarations f.scope f.enums ++ f.messages.flatMap (messageDeclarations target f.scope)

/-- What the declarations of a file put into a pool. -/
def FileDescriptor.types (f : FileDescriptor) : List (Message ⊕ EnumType) :=
  (f.declarations false).map Declaration.type

/-- The full name of a declared type. -/
def declaredName : Message ⊕ EnumType → String := Sum.elim (·.fullName) (·.fullName)

theorem Message.ofDescriptor_eq {fullName : String} {target : Bool} {d : MessageDescriptor}
    {m : Message} (h : ofDescriptor fullName d = .ok m) :
    (Declaration.message fullName target d).type = .inl m := by
  obtain ⟨_, -, hk⟩ := Except.bind_eq_ok.1 h
  rw [← Except.pure_eq_ok.1 hk]
  rfl

namespace Pool

/-- The types of a list of declarations are the messages and the enums of the pool. -/
def Holds (p : Pool) (types : List (Message ⊕ EnumType)) : Prop :=
  p.messages = types.filterMap Sum.getLeft? ∧ p.enums = types.filterMap Sum.getRight?

theorem Holds.add {p q : Pool} {types : List (Message ⊕ EnumType)} {d : Declaration}
    (hp : p.Holds types) (h : p.Adds d q) : q.Holds (types ++ [d.type]) := by
  obtain ⟨hmessages, henums⟩ := hp
  unfold Holds
  cases h with
  | enum hnew =>
    rw [List.filterMap_append, List.filterMap_append, ← hmessages, ← henums]
    exact ⟨(List.append_nil _).symm, rfl⟩
  | message hnew hm =>
    rw [List.filterMap_append, List.filterMap_append, ← hmessages, ← henums,
      Message.ofDescriptor_eq hm]
    exact ⟨rfl, (List.append_nil _).symm⟩

end Pool

/-! ## 2. Rearrangements -/

/-- The messages and enums inside a message change places, and so on within these messages. -/
inductive MessageDescriptor.Rearranged : MessageDescriptor → MessageDescriptor → Prop
  | intro {name : String} {fields : List FieldDescriptor} {oneofs : List OneofDescriptor}
      {messages between messages' : List MessageDescriptor} {enums enums' : List EnumDescriptor}
      (hplaces : messages.Perm between) (hinside : List.Forall₂ Rearranged between messages')
      (henums : enums.Perm enums') :
      Rearranged ⟨name, fields, oneofs, messages, enums⟩ ⟨name, fields, oneofs, messages', enums'⟩

/-- The messages and enums of a file change places, and so do the declarations inside them. -/
structure FileDescriptor.Rearranged (f f' : FileDescriptor) : Prop where
  name : f.name = f'.name
  package : f.package = f'.package
  messages : ∃ between, f.messages.Perm between ∧
    List.Forall₂ MessageDescriptor.Rearranged between f'.messages
  enums : f.enums.Perm f'.enums

/-- Files are added and change places, and so do the declarations inside them.  Whichever files are
to be generated does not matter. -/
def DescriptorSet.Rearranged (s : DescriptorSet) (added : List FileDescriptor)
    (s' : DescriptorSet) : Prop :=
  ∃ between, (s.files ++ added).Perm between ∧
    List.Forall₂ FileDescriptor.Rearranged between s'.files

theorem MessageDescriptor.Rearranged.refl (m : MessageDescriptor) : m.Rearranged m := by
  cases m with
  | mk name fields oneofs messages enums =>
    exact .intro (.refl _) (List.forall₂_same.2 fun inner hinner => refl inner) (.refl _)

theorem FileDescriptor.Rearranged.refl (f : FileDescriptor) : f.Rearranged f where
  name := rfl
  package := rfl
  messages := ⟨_, .refl _, List.forall₂_same.2 fun m _ => MessageDescriptor.Rearranged.refl m⟩
  enums := .refl _

theorem DescriptorSet.Rearranged.refl (s : DescriptorSet) : s.Rearranged [] s := by
  refine ⟨s.files ++ [], .refl _, ?_⟩
  rw [List.append_nil]
  exact List.forall₂_same.2 fun f _ => FileDescriptor.Rearranged.refl f

/-- Lists in which elements change places and each gives the same up to order. -/
theorem perm_flatMap {α β γ : Type} {R : α → β → Prop} {xs between : List α} {ys : List β}
    {f : α → List γ} {g : β → List γ} (hplaces : xs.Perm between)
    (hinside : List.Forall₂ R between ys) (hfg : ∀ x ∈ xs, ∀ y, R x y → (f x).Perm (g y)) :
    (xs.flatMap f).Perm (ys.flatMap g) := by
  have hbetween : ∀ x ∈ between, ∀ y, R x y → (f x).Perm (g y) := fun x hx =>
    hfg x (hplaces.mem_iff.2 hx)
  refine (hplaces.flatMap_right f).trans ?_
  clear hplaces hfg
  induction hinside with
  | nil => exact .nil
  | cons hab _ ih =>
    obtain ⟨hhead, htail⟩ := List.forall_mem_cons.1 hbetween
    rw [List.flatMap_cons, List.flatMap_cons]
    exact (hhead _ hab).append (ih htail)

theorem enumDeclarations_perm {scope : String} {enums enums' : List EnumDescriptor}
    (h : enums.Perm enums') :
    ((enumDeclarations scope enums).map Declaration.type).Perm
      ((enumDeclarations scope enums').map Declaration.type) :=
  (h.map _).map _

theorem MessageDescriptor.Rearranged.types (target target' : Bool) (scope : String)
    (m : MessageDescriptor) : ∀ m', m.Rearranged m' →
      ((messageDeclarations target scope m).map Declaration.type).Perm
        ((messageDeclarations target' scope m').map Declaration.type) := by
  induction scope, m using messageDeclarations.induct with
  | case1 scope name fields oneofs messages enums fullName ih =>
    intro m' h
    cases h with
    | intro hplaces hinside henums =>
      rw [messageDeclarations, messageDeclarations, List.map_cons, List.map_cons]
      -- The message itself is the same, since what it puts into a pool leaves out what is inside.
      apply List.Perm.cons
      rw [List.map_append, List.map_append, List.map_flatMap, List.map_flatMap]
      apply (enumDeclarations_perm henums).append
      exact perm_flatMap hplaces hinside ih

theorem FileDescriptor.Rearranged.types (target : Bool) {f f' : FileDescriptor}
    (h : f.Rearranged f') : f.types.Perm ((f'.declarations target).map Declaration.type) := by
  obtain ⟨-, hpackage, ⟨between, hplaces, hinside⟩, henums⟩ := h
  have hscope : f.scope = f'.scope := by
    unfold FileDescriptor.scope
    rw [hpackage]
  unfold FileDescriptor.types FileDescriptor.declarations
  rw [hscope, List.map_append, List.map_append, List.map_flatMap, List.map_flatMap]
  apply (enumDeclarations_perm henums).append
  exact perm_flatMap hplaces hinside fun m _ =>
    MessageDescriptor.Rearranged.types false target f'.scope m

/-- The types of a set are those of the set that it is a rearrangement of and of the files that were
added. -/
theorem DescriptorSet.Rearranged.types {s s' : DescriptorSet} {added : List FileDescriptor}
    (h : s.Rearranged added s') :
    (s.declarations.map Declaration.type ++ added.flatMap FileDescriptor.types).Perm
      (s'.declarations.map Declaration.type) := by
  have hfiles : ∀ {s s' : DescriptorSet} {added : List FileDescriptor}, s.Rearranged added s' →
      ((s.files ++ added).flatMap FileDescriptor.types).Perm
        (s'.declarations.map Declaration.type) := by
    rintro s s' added ⟨between, hplaces, hinside⟩
    unfold DescriptorSet.declarations
    rw [List.map_flatMap]
    exact perm_flatMap hplaces hinside fun f _ f' hf => hf.types (s'.isTarget f')
  -- A set is a rearrangement of itself, so its own types are those of its files too.
  have hown := hfiles (DescriptorSet.Rearranged.refl s)
  have hall := hfiles h
  rw [List.append_nil] at hown
  rw [List.flatMap_append] at hall
  exact (hown.symm.append_right _).trans hall

/-! ## 3. Lookups -/

namespace Pool

theorem ofSet_holds {s : DescriptorSet} {p : Pool} (h : ofSet s = .ok p) :
    p.Holds (s.declarations.map Declaration.type) := by
  apply ofSet_induction (P := fun p done => p.Holds (done.map Declaration.type)) ⟨rfl, rfl⟩ _ h
  intro p q done d _ hp hadds
  rw [List.map_append]
  exact hp.add hadds

theorem Holds.mem_messages {p : Pool} {types : List (Message ⊕ EnumType)} (h : p.Holds types)
    {m : Message} : m ∈ p.messages ↔ .inl m ∈ types := by
  rw [h.1, List.mem_filterMap]
  simp only [Sum.getLeft?_eq_some_iff, exists_eq_right]

theorem Holds.mem_enums {p : Pool} {types : List (Message ⊕ EnumType)} (h : p.Holds types)
    {e : EnumType} : e ∈ p.enums ↔ .inr e ∈ types := by
  rw [h.2, List.mem_filterMap]
  simp only [Sum.getRight?_eq_some_iff, exists_eq_right]

/-- Where names are unique, the element of a name is the one that has it. -/
theorem find?_name {α : Type} {name : α → String} {xs : List α} (h : (xs.map name).Nodup)
    {k : String} {x : α} :
    xs.find? (fun y => decide (name y = k)) = some x ↔ x ∈ xs ∧ name x = k := by
  constructor
  · intro hx
    exact ⟨List.mem_of_find?_eq_some hx, by simpa using List.find?_some hx⟩
  · rintro ⟨hx, hk⟩
    have hsome : (xs.find? fun y => decide (name y = k)).isSome := by
      rw [List.find?_isSome]
      exact ⟨x, hx, decide_eq_true hk⟩
    obtain ⟨y, hy⟩ := Option.isSome_iff_exists.1 hsome
    have hyk : name y = k := by simpa using List.find?_some hy
    rw [hy, List.inj_on_of_nodup_map h (List.mem_of_find?_eq_some hy) hx (hyk.trans hk.symm)]

theorem Sound.message?_eq_some {p : Pool} (hp : p.Sound) {name : String} {m : Message} :
    p.message? name = some m ↔ m ∈ p.messages ∧ m.fullName = TypeName.inFull name :=
  find?_name (List.nodup_append.1 hp.names_nodup).1

theorem Sound.enum?_eq_some {p : Pool} (hp : p.Sound) {name : String} {e : EnumType} :
    p.enum? name = some e ↔ e ∈ p.enums ∧ e.fullName = TypeName.inFull name :=
  find?_name (List.nodup_append.1 hp.names_nodup).2.1

end Pool

/-! ## 4. Pools of rearranged sets -/

namespace DescriptorSet.Rearranged

variable {s s' : DescriptorSet} {added : List FileDescriptor} {p p' : Pool}

/-- A type whose name no added file declares is in both pools or in none. -/
theorem mem_types (h : s.Rearranged added s') {t : Message ⊕ EnumType}
    (ht : ∀ f ∈ added, ∀ u ∈ f.types, declaredName u ≠ declaredName t) :
    t ∈ s'.declarations.map Declaration.type ↔ t ∈ s.declarations.map Declaration.type := by
  rw [← h.types.mem_iff, List.mem_append, List.mem_flatMap]
  apply or_iff_left
  rintro ⟨f, hf, hu⟩
  exact ht f hf t hu rfl

/-- The pool of a rearranged set has the messages of the pool of the set. -/
theorem mem_messages (h : s.Rearranged added s') (hset : Pool.ofSet s = .ok p)
    (hset' : Pool.ofSet s' = .ok p') {m : Message} (hm : m ∈ p.messages) : m ∈ p'.messages := by
  rw [(Pool.ofSet_holds hset).mem_messages] at hm
  rw [(Pool.ofSet_holds hset').mem_messages, ← h.types.mem_iff]
  exact List.mem_append_left _ hm

/-- Both pools look up a name alike, unless an added file declares it. -/
theorem lookups (h : s.Rearranged added s') (hset : Pool.ofSet s = .ok p)
    (hset' : Pool.ofSet s' = .ok p') {name : String}
    (hname : ∀ f ∈ added, ∀ u ∈ f.types, declaredName u ≠ TypeName.inFull name) :
    p'.message? name = p.message? name ∧ p'.enum? name = p.enum? name := by
  have hp := Pool.ofSet_sound hset
  have hp' := Pool.ofSet_sound hset'
  have hholds := Pool.ofSet_holds hset
  have hholds' := Pool.ofSet_holds hset'
  constructor
  · apply Option.ext
    intro m
    rw [hp'.message?_eq_some, hp.message?_eq_some, hholds'.mem_messages, hholds.mem_messages]
    apply and_congr_left
    intro hm
    exact h.mem_types fun f hf u hu he => hname f hf u hu (he.trans hm)
  · apply Option.ext
    intro e
    rw [hp'.enum?_eq_some, hp.enum?_eq_some, hholds'.mem_enums, hholds.mem_enums]
    apply and_congr_left
    intro he
    exact h.mem_types fun f hf u hu hu' => hname f hf u hu (hu'.trans he)

end DescriptorSet.Rearranged

end ProtoSchema
