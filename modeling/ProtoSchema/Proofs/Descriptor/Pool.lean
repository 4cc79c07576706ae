import ProtoSchema.Descriptor.Pool
import ProtoSchema.Descriptor.WellKnownType
import ProtoSchema.Proofs.Outcome

/-!
# What holds of every pool

A pool that was built from a descriptor set declares every full name once and every JSON name of a
message once, and its full names start with a dot.  Full names that start with a dot are told apart
by their keys.
-/

namespace ProtoSchema

/-! ## 1. Names -/

/-- The name starts with a dot, as full names do. -/
def DotLed (name : String) : Prop := ∃ cs, name.toList = '.' :: cs

namespace DotLed

variable {name name' : String}

theorem dot_append (name : String) : DotLed ("." ++ name) := by
  refine ⟨name.toList, ?_⟩
  rw [String.toList_append]
  rfl

theorem append (h : DotLed name) (more : String) : DotLed (name ++ more) := by
  obtain ⟨cs, hcs⟩ := h
  refine ⟨cs ++ more.toList, ?_⟩
  rw [String.toList_append, hcs, List.cons_append]

/-- The name of a part of a scope, which is empty or a full name. -/
theorem within {scope : String} (h : scope = "" ∨ DotLed scope) (name : String) :
    DotLed (scope ++ "." ++ name) := by
  rcases h with rfl | h
  · exact (dot_append "").append name
  · exact (h.append ".").append name

theorem eq_dot_key (h : DotLed name) : name = "." ++ TypeName.key name := by
  obtain ⟨cs, hcs⟩ := h
  unfold TypeName.key
  rw [hcs]
  ext1
  rw [String.toList_append, hcs]
  exact congrArg (List.cons '.') (String.toList_ofList (l := cs)).symm

theorem inFull_eq (h : DotLed name) : TypeName.inFull name = name := by
  obtain ⟨cs, hcs⟩ := h
  unfold TypeName.inFull
  rw [hcs]
  rfl

/-- Full names with one key are one. -/
theorem key_inj (h : DotLed name) (h' : DotLed name') :
    TypeName.key name = TypeName.key name' ↔ name = name' := by
  constructor
  · intro he
    rw [h.eq_dot_key, h'.eq_dot_key, he]
  · rintro rfl
    rfl

end DotLed

theorem TypeName.key_dot_append (name : String) : TypeName.key ("." ++ name) = name := by
  unfold TypeName.key
  rw [String.toList_append]
  exact String.ofList_toList

theorem TypeName.key_inFull (name : String) :
    TypeName.key (TypeName.inFull name) = TypeName.key name := by
  unfold TypeName.inFull
  split
  next => rfl
  next hdot =>
    rw [key_dot_append]
    unfold TypeName.key
    split
    next cs hcs => exact absurd hcs (hdot cs)
    next => rfl

theorem WellKnownType.key_fullName (t : WellKnownType) : TypeName.key t.fullName = t.key :=
  TypeName.key_dot_append t.key

theorem WellKnownType.dotLed (t : WellKnownType) : DotLed t.fullName :=
  DotLed.dot_append t.key

theorem WellKnownType.mem_all (t : WellKnownType) : t ∈ all := by
  cases t <;> decide

theorem WellKnownType.key_inj {t u : WellKnownType} : t.key = u.key ↔ t = u := by
  constructor
  · cases t <;> cases u <;> first | (intro; rfl) | (intro h; revert h; decide)
  · rintro rfl
    rfl

/-- A name that stands for no well-known type is the full name of none. -/
theorem WellKnownType.inFull_ne {name : String} (h : ofName? name = none) (t : WellKnownType) :
    TypeName.inFull name ≠ t.fullName := by
  intro he
  have hkey : t.key = TypeName.key name := by
    rw [← TypeName.key_inFull, he, t.key_fullName]
  have := List.find?_eq_none.1 h t t.mem_all
  simp [hkey] at this

/-! ## 2. Declarations -/

theorem enumDeclarations_dotLed {scope : String} (hscope : scope = "" ∨ DotLed scope)
    (enums : List EnumDescriptor) : ∀ d ∈ enumDeclarations scope enums, DotLed d.fullName := by
  intro d hd
  obtain ⟨e, -, rfl⟩ := List.mem_map.1 hd
  exact .within hscope e.name

theorem messageDeclarations_dotLed (target : Bool) (scope : String) (m : MessageDescriptor)
    (hscope : scope = "" ∨ DotLed scope) :
    ∀ d ∈ messageDeclarations target scope m, DotLed d.fullName := by
  induction scope, m using messageDeclarations.induct with
  | case1 scope name fields oneofs messages enums fullName ih =>
    have hname : DotLed (scope ++ "." ++ name) := .within hscope name
    intro d hd
    rw [messageDeclarations, List.mem_cons, List.mem_append, List.mem_flatMap] at hd
    rcases hd with rfl | hd | ⟨inner, hinner, hd⟩
    · exact hname
    · exact enumDeclarations_dotLed (.inr hname) enums d hd
    · exact ih inner hinner (.inr hname) d hd

theorem DescriptorSet.declarations_dotLed (s : DescriptorSet) :
    ∀ d ∈ s.declarations, DotLed d.fullName := by
  intro d hd
  obtain ⟨f, -, hd⟩ := List.mem_flatMap.1 hd
  have hscope : f.scope = "" ∨ DotLed f.scope := by
    unfold FileDescriptor.scope
    split
    · exact .inl rfl
    · exact .inr (.dot_append f.package)
  rcases List.mem_append.1 hd with hd | hd
  · exact enumDeclarations_dotLed hscope f.enums d hd
  · obtain ⟨m, -, hd⟩ := List.mem_flatMap.1 hd
    exact messageDeclarations_dotLed _ _ m hscope d hd

/-! ## 3. Fields -/

/-- A field passes exactly if its JSON name is not taken and its oneof is declared; its name is taken
from then on. -/
theorem Message.checkFields_cons {fullName : String} {oneofs : List Oneof} {taken : List String}
    {f : Field} {rest : List Field} :
    checkFields fullName oneofs taken (f :: rest) = .ok () ↔
      f.jsonName ∉ taken ∧ (∀ name ∈ f.oneof, ∃ o ∈ oneofs, o.name = name) ∧
        checkFields fullName oneofs (f.jsonName :: taken) rest = .ok () := by
  rw [checkFields]
  by_cases htaken : f.jsonName ∈ taken
  · rw [if_pos (List.contains_iff_mem.2 htaken)]
    constructor
    · intro h
      cases h
    · exact fun h => absurd htaken h.1
  · rw [if_neg (List.contains_iff_mem.not.2 htaken), and_iff_right htaken]
    cases f.oneof with
    | none => simp
    | some name =>
      by_cases hname : ∃ o ∈ oneofs, o.name = name
      · have hany : oneofs.any (·.name = name) = true := by simpa using hname
        simp [hany, hname]
      · have hany : oneofs.any (·.name = name) = false := by simpa using hname
        simp only [hany, Bool.not_false, if_true, Option.mem_some_iff, forall_eq', hname,
          false_and, iff_false]
        exact fun h => by cases h

/-- The check passes exactly if no JSON name is taken, none occurs twice, and every oneof is
declared. -/
theorem Message.checkFields_eq_ok {fullName : String} {oneofs : List Oneof} {taken : List String}
    {fields : List Field} :
    checkFields fullName oneofs taken fields = .ok () ↔
      (fields.map (·.jsonName)).Nodup ∧ (∀ f ∈ fields, f.jsonName ∉ taken) ∧
        ∀ f ∈ fields, ∀ name ∈ f.oneof, ∃ o ∈ oneofs, o.name = name := by
  induction fields generalizing taken with
  | nil => simp [checkFields]
  | cons f rest ih =>
    -- A later field with the name of this one is caught, since that name is taken by then.
    have hfresh : (∀ g ∈ rest, g.jsonName ∉ f.jsonName :: taken) ↔
        f.jsonName ∉ rest.map (·.jsonName) ∧ ∀ g ∈ rest, g.jsonName ∉ taken := by
      rw [List.mem_map]
      constructor
      · intro h
        refine ⟨?_, fun g hg hm => h g hg (List.mem_cons_of_mem _ hm)⟩
        rintro ⟨g, hg, he⟩
        exact h g hg (he ▸ List.mem_cons_self)
      · intro h g hg hm
        rcases List.mem_cons.1 hm with he | hm
        · exact h.1 ⟨g, hg, he⟩
        · exact h.2 g hg hm
    rw [checkFields_cons, ih, hfresh, List.map_cons, List.nodup_cons, List.forall_mem_cons,
      List.forall_mem_cons]
    tauto

theorem Message.ofDescriptor_eq_ok {fullName : String} {d : MessageDescriptor} {m : Message}
    (h : ofDescriptor fullName d = .ok m) :
    m.fullName = fullName ∧ (m.fields.map (·.jsonName)).Nodup := by
  obtain ⟨_, hcheck, hk⟩ := Except.bind_eq_ok.1 h
  rw [← Except.pure_eq_ok.1 hk]
  exact ⟨rfl, (checkFields_eq_ok.1 hcheck).1⟩

/-! ## 4. Oneofs -/

theorem oneofPlaces_ascending (fields : List Field) (oneof : String) :
    (oneofPlaces fields oneof).Pairwise (· < ·) := by
  have hall : (fields.zipIdx.map (·.2)).Pairwise (· < ·) := by
    rw [List.zipIdx_map_snd]
    exact List.pairwise_lt_range'
  exact hall.sublist (List.filter_sublist.map _)

theorem mem_oneofPlaces {fields : List Field} {oneof : String} {i : Nat} :
    i ∈ oneofPlaces fields oneof ↔ ∃ h : i < fields.length, fields[i].oneof = some oneof := by
  unfold oneofPlaces
  simp only [List.mem_map, List.mem_filter, decide_eq_true_iff]
  constructor
  · rintro ⟨⟨f, i⟩, ⟨hf, hname⟩, rfl⟩
    obtain ⟨h, hget⟩ := List.getElem?_eq_some_iff.1 (List.mem_zipIdx_iff_getElem?.1 hf)
    exact ⟨h, hget ▸ hname⟩
  · rintro ⟨h, hname⟩
    have hf : (fields[i], i) ∈ fields.zipIdx :=
      List.mem_zipIdx_iff_getElem?.2 (List.getElem?_eq_getElem h)
    exact ⟨_, ⟨hf, hname⟩, rfl⟩

namespace Message

variable {m : Message} {o : Oneof}

/-- The members are the fields that were found with the places. -/
theorem members_eq_map (ho : o ∈ m.oneofs) :
    m.members o = (m.fields.zipIdx.filter fun x => x.1.oneof = some o.name).map (·.1) := by
  unfold members
  rw [m.placed o ho, oneofPlaces, List.filterMap_map, ← List.filterMap_eq_map]
  -- No place is lost: each leads back to the field that was found with it.
  refine List.filterMap_congr fun x hx => ?_
  exact List.mem_zipIdx_iff_getElem?.1 (List.mem_filter.1 hx).1

/-- The members are the fields that name the oneof, in their order. -/
theorem members_eq_filter (ho : o ∈ m.oneofs) :
    m.members o = m.fields.filter fun f => f.oneof = some o.name := by
  have hfields : m.fields.zipIdx.map (·.1) = m.fields := List.zipIdx_map_fst 0 m.fields
  rw [members_eq_map ho]
  conv_rhs => rw [← hfields, List.filter_map]
  rfl

end Message

/-! ## 5. Pools -/

namespace Pool

/-- The full names of everything that a pool declares. -/
def names (p : Pool) : List String := p.messages.map (·.fullName) ++ p.enums.map (·.fullName)

/-- What holds of every pool that is built from a descriptor set. -/
structure Sound (p : Pool) : Prop where
  dotLed : ∀ name ∈ p.names, DotLed name
  names_nodup : p.names.Nodup
  jsonNames_nodup : ∀ m ∈ p.messages, (m.fields.map (·.jsonName)).Nodup

theorem declares_iff {p : Pool} {name : String} : p.declares name = true ↔ name ∈ p.names := by
  simp [declares, names]

theorem Sound.empty : empty.Sound :=
  ⟨by simp [names, Pool.empty], by simp [names, Pool.empty], by simp [Pool.empty]⟩

/-- A declaration is added at the end, and only if its name is new. -/
inductive Adds (p : Pool) : Declaration → Pool → Prop
  | enum {fullName : String} {d : EnumDescriptor} (hnew : fullName ∉ p.names) :
      Adds p (.enum fullName d) { p with enums := p.enums ++ [⟨fullName, d.values⟩] }
  | message {fullName : String} {target : Bool} {d : MessageDescriptor} {m : Message}
      (hnew : fullName ∉ p.names) (hm : Message.ofDescriptor fullName d = .ok m) :
      Adds p (.message fullName target d)
        { p with
          messages := p.messages ++ [m]
          targetNames := if target then p.targetNames ++ [fullName] else p.targetNames }

theorem Adds.of_add {p q : Pool} {d : Declaration} (h : p.add d = .ok q) : p.Adds d q := by
  unfold Pool.add at h
  have hnew : d.fullName ∉ p.names := by
    intro hm
    rw [if_pos (declares_iff.2 hm)] at h
    cases h
  rw [if_neg (declares_iff.not.2 hnew)] at h
  cases d with
  | enum fullName e =>
    cases h
    exact .enum hnew
  | message fullName target e =>
    obtain ⟨m, hm, hq⟩ := Except.bind_eq_ok.1 h
    cases hq
    exact .message hnew hm

/-- A message comes before the enums, so the names are those of before only up to their order. -/
theorem Adds.names_perm {p q : Pool} {d : Declaration} (h : p.Adds d q) :
    q.names.Perm (d.fullName :: p.names) := by
  cases h with
  | @enum fullName e hnew =>
    show (p.messages.map (·.fullName) ++
      (p.enums ++ [(⟨fullName, e.values⟩ : EnumType)]).map (·.fullName)).Perm _
    rw [List.map_append, ← List.append_assoc]
    exact List.perm_append_singleton fullName p.names
  | @message fullName target e m hnew hm =>
    show ((p.messages ++ [m]).map (·.fullName) ++ p.enums.map (·.fullName)).Perm _
    rw [List.map_append, List.map_singleton, (Message.ofDescriptor_eq_ok hm).1,
      List.append_assoc]
    exact List.perm_middle

theorem Adds.name_not_mem {p q : Pool} {d : Declaration} (h : p.Adds d q) :
    d.fullName ∉ p.names := by
  cases h with
  | enum hnew => exact hnew
  | message hnew hm => exact hnew

/-- Adding a declaration keeps a pool sound. -/
theorem Sound.add {p q : Pool} {d : Declaration} (hp : p.Sound) (hd : DotLed d.fullName)
    (hadds : p.Adds d q) : q.Sound := by
  have hnames := hadds.names_perm
  refine ⟨fun name hm => ?_, ?_, ?_⟩
  · rcases List.mem_cons.1 (hnames.mem_iff.1 hm) with rfl | hm
    · exact hd
    · exact hp.dotLed name hm
  · exact hnames.nodup_iff.2 (List.nodup_cons.2 ⟨hadds.name_not_mem, hp.names_nodup⟩)
  · cases hadds with
    | enum hnew => exact hp.jsonNames_nodup
    | message hnew hm =>
      intro m' hm'
      rcases List.mem_append.1 hm' with hm' | hm'
      · exact hp.jsonNames_nodup m' hm'
      · rw [List.mem_singleton.1 hm']
        exact (Message.ofDescriptor_eq_ok hm).2

/-- A pool that a set has is what its declarations give, each added in its turn. -/
theorem addAll_of_ofSet {s : DescriptorSet} {p : Pool} (h : ofSet s = .ok p) :
    s.declarations.foldlM add empty = .ok p := by
  unfold ofSet at h
  split at h
  next => cases h
  next => exact h

/-- What holds of no declarations and is kept by each addition holds of the pool of a set. -/
theorem ofSet_induction {P : Pool → List Declaration → Prop} {s : DescriptorSet}
    (hstart : P empty [])
    (hstep : ∀ p q done, ∀ d ∈ s.declarations, P p done → p.Adds d q → P q (done ++ [d]))
    {p : Pool} (h : ofSet s = .ok p) : P p s.declarations := by
  have hrun : ∀ ds ⊆ s.declarations, ∀ p q done, P p done → ds.foldlM add p = .ok q →
      P q (done ++ ds) := by
    intro ds
    induction ds with
    | nil =>
      intro _ p q done hp h
      rw [List.foldlM_nil] at h
      rwa [← Except.pure_eq_ok.1 h, List.append_nil]
    | cons d ds ih =>
      intro hds p q done hp h
      rw [List.foldlM_cons] at h
      obtain ⟨p', hadd, hrest⟩ := Except.bind_eq_ok.1 h
      have hd : P p' (done ++ [d]) :=
        hstep p p' done d (hds List.mem_cons_self) hp (Adds.of_add hadd)
      rw [← List.singleton_append, ← List.append_assoc]
      exact ih (fun d' hd' => hds (List.mem_cons_of_mem _ hd')) p' q _ hd hrest
  exact hrun s.declarations (fun _ hd => hd) empty p [] hstart (addAll_of_ofSet h)

theorem ofSet_sound {s : DescriptorSet} {p : Pool} (h : ofSet s = .ok p) : p.Sound :=
  ofSet_induction (P := fun p _ => p.Sound) Sound.empty
    (fun _ _ _ d hd hp hadds => hp.add (s.declarations_dotLed d hd) hadds) h

/-- Declared types with one name are one. -/
theorem Sound.declared_inj {p : Pool} (hp : p.Sound) :
    (∀ m ∈ p.messages, ∀ m' ∈ p.messages, m.fullName = m'.fullName → m = m') ∧
      (∀ e ∈ p.enums, ∀ e' ∈ p.enums, e.fullName = e'.fullName → e = e') ∧
      ∀ m ∈ p.messages, ∀ e ∈ p.enums, m.fullName ≠ e.fullName := by
  obtain ⟨hmessages, henums, hdisjoint⟩ := List.nodup_append.1 hp.names_nodup
  exact ⟨fun m hm m' hm' he => List.inj_on_of_nodup_map hmessages hm hm' he,
    fun e he e' he' h => List.inj_on_of_nodup_map henums he he' h,
    fun m hm e he => hdisjoint _ (List.mem_map_of_mem hm) _ (List.mem_map_of_mem he)⟩

end Pool

end ProtoSchema
