import ProtoSchema.Proofs.Descriptor.Rearrangement

/-!
# Consistent descriptor sets

A descriptor set is consistent if its names are told apart and its own mentions of files and oneofs
lead somewhere.  Exactly the consistent sets have pools, and the pool of a set is a faithful index of
it: one entry for each message and each enum at any depth, each in the order and under the full name
of its declaration.
-/

namespace ProtoSchema

/-! ## 1. Declarations at any depth -/

/-- A message and the messages inside it at any depth, each with the names on the way to it. -/
def MessageDescriptor.subtree : MessageDescriptor → List (List String × MessageDescriptor)
  | ⟨name, fields, oneofs, messages, enums⟩ =>
    ([name], ⟨name, fields, oneofs, messages, enums⟩) ::
      messages.flatMap fun m => m.subtree.map fun x => (name :: x.1, x.2)

/-- Each name with a dot before it. -/
def dotted (path : List String) : String := String.join (path.map ("." ++ ·))

/-- The full name of what a file declares, given the names on the way to it. -/
def FileDescriptor.nameOf (f : FileDescriptor) (path : List String) : String :=
  (if f.package = "" then "" else "." ++ f.package) ++ dotted path

/-- The messages of a file at any depth, under their full names. -/
def FileDescriptor.namedMessages (f : FileDescriptor) : List (String × MessageDescriptor) :=
  f.messages.flatMap fun m => m.subtree.map fun x => (f.nameOf x.1, x.2)

/-- The enums of a file at any depth, under their full names. -/
def FileDescriptor.namedEnums (f : FileDescriptor) : List (String × EnumDescriptor) :=
  (f.enums.map fun e => (f.nameOf [e.name], e)) ++
    f.messages.flatMap fun m => m.subtree.flatMap fun x =>
      x.2.enums.map fun e => (f.nameOf (x.1 ++ [e.name]), e)

namespace DescriptorSet

def namedMessages (s : DescriptorSet) : List (String × MessageDescriptor) :=
  s.files.flatMap (·.namedMessages)

def namedEnums (s : DescriptorSet) : List (String × EnumDescriptor) :=
  s.files.flatMap (·.namedEnums)

/-- The files to generate schemas for. -/
def targetFiles (s : DescriptorSet) : List FileDescriptor :=
  if s.filesToGenerate = [] then s.files else s.files.filter (·.name ∈ s.filesToGenerate)

end DescriptorSet

/-- The JSON name of a field: the one that it declares, or else the one that follows from its
name. -/
def FieldDescriptor.settledName (d : FieldDescriptor) : String :=
  match d.jsonName with
  | some name => name
  | none => ProtoSchema.jsonName d.name

/-- The JSON names of the fields are told apart, and the oneofs that they name are declared. -/
structure MessageDescriptor.Consistent (d : MessageDescriptor) : Prop where
  jsonNames : (d.fields.map (·.settledName)).Nodup
  oneofs : ∀ f ∈ d.fields, ∀ name ∈ f.oneof, ∃ o ∈ d.oneofs, o.name = name

/-- Full names are told apart, and what the set mentions of itself is there. -/
structure DescriptorSet.Consistent (s : DescriptorSet) : Prop where
  files : ∀ name ∈ s.filesToGenerate, ∃ f ∈ s.files, f.name = name
  fullNames : (s.namedMessages.map (·.1) ++ s.namedEnums.map (·.1)).Nodup
  messages : ∀ x ∈ s.namedMessages, x.2.Consistent

/-! ## 2. What an index holds -/

/-- The full form of a name: a dot is put before it unless it starts with one. -/
inductive FullForm (name : String) : String → Prop
  | same (h : DotLed name) : FullForm name name
  | dot (h : ¬ DotLed name) : FullForm name ("." ++ name)

/-- The type with each name in full form. -/
inductive ElementType.Settles : ElementType → ElementType → Prop
  | scalar (kind : ScalarKind) : Settles (.scalar kind) (.scalar kind)
  | enum {name full : String} (h : FullForm name full) : Settles (.enum name) (.enum full)
  | message {name full : String} (h : FullForm name full) : Settles (.message name) (.message full)

inductive FieldType.Settles : FieldType → FieldType → Prop
  | scalar (kind : ScalarKind) : Settles (.scalar kind) (.scalar kind)
  | enum {name full : String} (h : FullForm name full) : Settles (.enum name) (.enum full)
  | message {name full : String} (h : FullForm name full) : Settles (.message name) (.message full)
  | map (key : ScalarKind) {value value' : ElementType} (h : value.Settles value') :
      Settles (.map key value) (.map key value')
  | repeated {item item' : ElementType} (h : item.Settles item') :
      Settles (.repeated item) (.repeated item')

/-- The field of a descriptor, with its JSON name and its type settled. -/
structure FieldDescriptor.Settles (d : FieldDescriptor) (f : Field) : Prop where
  name : f.name = d.name
  jsonName : f.jsonName = d.settledName
  type : d.type.Settles f.type
  isOptional : f.isOptional = d.isOptional
  oneof : f.oneof = d.oneof
  constraints : f.constraints = d.constraints.getD {}

/-- The oneof of a descriptor; without constraints it is not required. -/
structure OneofDescriptor.Settles (d : OneofDescriptor) (o : Oneof) : Prop where
  name : o.name = d.name
  required : o.required = true ↔ ∃ c, d.constraints = some c ∧ c.required = true

/-- The places that the oneof holds are those of the fields that name it, in ascending order, and
its members stand there. -/
structure Message.Places (m : Message) (o : Oneof) : Prop where
  ascending : o.places.Pairwise (· < ·)
  named : ∀ i, i ∈ o.places ↔ ∃ h : i < m.fields.length, m.fields[i].oneof = some o.name
  members : List.Forall₂ (fun i f => m.fields[i]? = some f) o.places (m.members o)

/-- The message of a descriptor under its full name. -/
structure MessageDescriptor.Settles (x : String × MessageDescriptor) (m : Message) : Prop where
  fullName : m.fullName = x.1
  name : m.name = x.2.name
  fields : List.Forall₂ FieldDescriptor.Settles x.2.fields m.fields
  oneofs : List.Forall₂ OneofDescriptor.Settles x.2.oneofs m.oneofs
  members : ∀ o ∈ m.oneofs, m.Places o

/-- A faithful index: one entry for each declaration, in the order of the declarations, which can be
looked up by its full name; the targets are the messages of the files to generate schemas for. -/
structure Pool.Indexes (p : Pool) (s : DescriptorSet) : Prop where
  messages : List.Forall₂ MessageDescriptor.Settles s.namedMessages p.messages
  enums : p.enums = s.namedEnums.map fun x => ⟨x.1, x.2.values⟩
  messageStored : ∀ m ∈ p.messages, p.message? m.fullName = some m
  messageFound : ∀ name m, p.message? name = some m → m ∈ p.messages ∧ FullForm name m.fullName
  enumStored : ∀ e ∈ p.enums, p.enum? e.fullName = some e
  enumFound : ∀ name e, p.enum? name = some e → e ∈ p.enums ∧ FullForm name e.fullName
  targets : p.targets.map (·.fullName) = (s.targetFiles.flatMap (·.namedMessages)).map (·.1)
  targetsListed : p.targets.Sublist p.messages
  targetsOnce : (p.targets.map (·.fullName)).Nodup

/-! ## 3. Declarations and what they are made of -/

/-- The message that a declaration is of, under its full name. -/
def Declaration.message? : Declaration → Option (String × MessageDescriptor)
  | message fullName _ d => some (fullName, d)
  | enum .. => none

def Declaration.enum? : Declaration → Option (String × EnumDescriptor)
  | message .. => none
  | enum fullName d => some (fullName, d)

/-- The full name of a declaration whose type gets a schema document. -/
def Declaration.targetName? : Declaration → Option String
  | message fullName target _ => if target then some fullName else none
  | enum .. => none

theorem dotted_cons (name : String) (path : List String) :
    dotted (name :: path) = "." ++ name ++ dotted path := by
  unfold dotted
  rw [List.map_cons, String.join_cons]

theorem dotted_singleton (name : String) : dotted [name] = "." ++ name := by
  rw [dotted_cons]
  exact String.append_empty

theorem enumDeclarations_filterMap_message (scope : String) (enums : List EnumDescriptor) :
    (enumDeclarations scope enums).filterMap Declaration.message? = [] := by
  unfold enumDeclarations
  rw [List.filterMap_map, List.filterMap_eq_nil_iff]
  exact fun e _ => rfl

theorem enumDeclarations_filterMap_enum (scope : String) (enums : List EnumDescriptor) :
    (enumDeclarations scope enums).filterMap Declaration.enum? =
      enums.map fun e => (scope ++ dotted [e.name], e) := by
  unfold enumDeclarations
  rw [List.filterMap_map, ← List.filterMap_eq_map]
  refine List.filterMap_congr fun e _ => ?_
  rw [Function.comp_apply, Function.comp_apply, dotted_singleton, ← String.append_assoc]
  rfl

/-- The messages among the declarations inside a scope, by the names on the way to them. -/
theorem messageDeclarations_filterMap_message (target : Bool) (scope : String)
    (m : MessageDescriptor) :
    (messageDeclarations target scope m).filterMap Declaration.message? =
      m.subtree.map fun x => (scope ++ dotted x.1, x.2) := by
  induction scope, m using messageDeclarations.induct with
  | case1 scope name fields oneofs messages enums fullName ih =>
    rw [messageDeclarations, MessageDescriptor.subtree, List.map_cons, List.map_flatMap]
    show (fullName, _) :: (enumDeclarations fullName enums ++
      messages.flatMap (messageDeclarations target fullName)).filterMap Declaration.message? = _
    rw [List.filterMap_append, enumDeclarations_filterMap_message, List.nil_append,
      List.filterMap_flatMap]
    congr 1
    · rw [dotted_singleton, ← String.append_assoc]
    · refine List.flatMap_congr fun inner hinner => ?_
      rw [ih inner hinner, List.map_map]
      refine List.map_congr_left fun x _ => ?_
      rw [Function.comp_apply, dotted_cons, ← String.append_assoc, ← String.append_assoc]

/-- The enums among the declarations inside a scope, each after the message that it belongs to. -/
theorem messageDeclarations_filterMap_enum (target : Bool) (scope : String)
    (m : MessageDescriptor) :
    (messageDeclarations target scope m).filterMap Declaration.enum? =
      m.subtree.flatMap fun x => x.2.enums.map fun e => (scope ++ dotted (x.1 ++ [e.name]), e) := by
  induction scope, m using messageDeclarations.induct with
  | case1 scope name fields oneofs messages enums fullName ih =>
    rw [messageDeclarations, MessageDescriptor.subtree, List.flatMap_cons, List.flatMap_assoc,
      List.filterMap_cons_none rfl, List.filterMap_append, enumDeclarations_filterMap_enum,
      List.filterMap_flatMap]
    congr 1
    · refine List.map_congr_left fun e _ => ?_
      rw [List.singleton_append, dotted_cons name, ← String.append_assoc, ← String.append_assoc]
    · refine List.flatMap_congr fun inner hinner => ?_
      rw [ih inner hinner, List.flatMap_map]
      refine List.flatMap_congr fun x _ => List.map_congr_left fun e _ => ?_
      rw [List.cons_append, dotted_cons name, ← String.append_assoc, ← String.append_assoc]

/-- All declarations of a message are targets or none is. -/
theorem messageDeclarations_targetName (target : Bool) (scope : String) (m : MessageDescriptor) :
    ∀ d ∈ messageDeclarations target scope m,
      d.targetName? = if target then d.message?.map (·.1) else none := by
  induction scope, m using messageDeclarations.induct with
  | case1 scope name fields oneofs messages enums fullName ih =>
    intro d hd
    rw [messageDeclarations, List.mem_cons, List.mem_append, List.mem_flatMap] at hd
    rcases hd with rfl | hd | ⟨inner, hinner, hd⟩
    · cases target <;> rfl
    · obtain ⟨e, -, rfl⟩ := List.mem_map.1 hd
      cases target <;> rfl
    · exact ih inner hinner d hd

namespace DescriptorSet

variable {s : DescriptorSet}

theorem declarations_filterMap_message :
    s.declarations.filterMap Declaration.message? = s.namedMessages := by
  unfold declarations namedMessages FileDescriptor.namedMessages
  rw [List.filterMap_flatMap]
  refine List.flatMap_congr fun f _ => ?_
  rw [List.filterMap_append, enumDeclarations_filterMap_message, List.nil_append,
    List.filterMap_flatMap]
  refine List.flatMap_congr fun m _ => ?_
  rw [messageDeclarations_filterMap_message]
  rfl

theorem declarations_filterMap_enum :
    s.declarations.filterMap Declaration.enum? = s.namedEnums := by
  unfold declarations namedEnums FileDescriptor.namedEnums
  rw [List.filterMap_flatMap]
  refine List.flatMap_congr fun f _ => ?_
  rw [List.filterMap_append, enumDeclarations_filterMap_enum, List.filterMap_flatMap]
  congr 1
  refine List.flatMap_congr fun m _ => ?_
  rw [messageDeclarations_filterMap_enum]
  rfl

theorem isTarget_iff {f : FileDescriptor} :
    s.isTarget f = true ↔ s.filesToGenerate = [] ∨ f.name ∈ s.filesToGenerate := by
  unfold isTarget
  rw [Bool.or_eq_true, List.isEmpty_iff, List.contains_iff_mem]

theorem targetFiles_flatMap {α : Type} (g : FileDescriptor → List α) :
    s.targetFiles.flatMap g = s.files.flatMap fun f => if s.isTarget f then g f else [] := by
  have hfilter : ∀ files : List FileDescriptor,
      (files.filter s.isTarget).flatMap g =
        files.flatMap fun f => if s.isTarget f then g f else [] := by
    intro files
    induction files with
    | nil => rfl
    | cons f rest ih =>
      rw [List.flatMap_cons, ← ih]
      by_cases hf : s.isTarget f = true
      · rw [List.filter_cons_of_pos hf, List.flatMap_cons, if_pos hf]
      · rw [List.filter_cons_of_neg hf, if_neg hf, List.nil_append]
  rw [← hfilter]
  congr 1
  unfold targetFiles
  by_cases hall : s.filesToGenerate = []
  · rw [if_pos hall, List.filter_eq_self.2 fun f _ => isTarget_iff.2 (.inl hall)]
  · rw [if_neg hall]
    refine List.filter_congr fun f _ => ?_
    rw [Bool.eq_iff_iff, decide_eq_true_iff, isTarget_iff, or_iff_right hall]

theorem declarations_filterMap_targetName :
    s.declarations.filterMap Declaration.targetName? =
      (s.targetFiles.flatMap (·.namedMessages)).map (·.1) := by
  rw [List.map_flatMap, targetFiles_flatMap]
  unfold declarations
  rw [List.filterMap_flatMap]
  refine List.flatMap_congr fun f _ => ?_
  have henums : (enumDeclarations f.scope f.enums).filterMap Declaration.targetName? = [] := by
    unfold enumDeclarations
    rw [List.filterMap_map, List.filterMap_eq_nil_iff]
    exact fun e _ => rfl
  rw [List.filterMap_append, henums, List.nil_append, List.filterMap_flatMap]
  unfold FileDescriptor.namedMessages
  rw [List.map_flatMap]
  by_cases htarget : s.isTarget f = true
  · rw [if_pos htarget]
    refine List.flatMap_congr fun m _ => ?_
    rw [List.filterMap_congr (messageDeclarations_targetName _ _ m)]
    simp only [htarget, if_true]
    rw [← List.map_filterMap, messageDeclarations_filterMap_message]
    rfl
  · rw [if_neg htarget]
    refine List.flatMap_eq_nil_iff.2 fun m _ => ?_
    rw [List.filterMap_congr (messageDeclarations_targetName _ _ m)]
    simp only [htarget, Bool.false_eq_true, if_false]
    exact List.filterMap_eq_nil_iff.2 fun d _ => rfl

end DescriptorSet

/-- The names of declarations are those of their messages and those of their enums. -/
theorem declaredNames_perm (ds : List Declaration) :
    (ds.map Declaration.fullName).Perm
      ((ds.filterMap Declaration.message?).map (·.1) ++
        (ds.filterMap Declaration.enum?).map (·.1)) := by
  induction ds with
  | nil => exact .nil
  | cons d ds ih =>
    cases d with
    | message fullName target d => exact ih.cons fullName
    | enum fullName d => exact (ih.cons fullName).trans List.perm_middle.symm

/-! ## 4. Consistent sets are the ones with pools -/

/-- There is nothing to check on an enum. -/
def Declaration.Consistent (d : Declaration) : Prop := ∀ x ∈ d.message?, x.2.Consistent

theorem Field.ofDescriptor_jsonName (d : FieldDescriptor) :
    (Field.ofDescriptor d).jsonName = d.settledName := by
  unfold Field.ofDescriptor FieldDescriptor.settledName
  cases d.jsonName <;> rfl

theorem Message.ofDescriptor_ok_iff {fullName : String} {d : MessageDescriptor} :
    (∃ m, ofDescriptor fullName d = .ok m) ↔ d.Consistent := by
  -- The checks are on the fields and oneofs as they are built; each keeps its name.
  have hchecks : checkFields fullName (settled fullName d).oneofs [] (settled fullName d).fields =
      .ok () ↔ d.Consistent := by
    have hnames : (settled fullName d).fields.map (·.jsonName) = d.fields.map (·.settledName) := by
      unfold settled
      rw [List.map_map]
      exact List.map_congr_left fun f _ => Field.ofDescriptor_jsonName f
    rw [checkFields_eq_ok, hnames, settled, List.forall_mem_map, List.forall_mem_map]
    constructor
    · rintro ⟨hjson, -, honeofs⟩
      refine ⟨hjson, fun f hf name hname => ?_⟩
      obtain ⟨built, hbuilt, ho⟩ := honeofs f hf name hname
      obtain ⟨o, hmem, rfl⟩ := List.mem_map.1 hbuilt
      exact ⟨o, hmem, ho⟩
    · intro h
      refine ⟨h.jsonNames, fun f _ => List.not_mem_nil, fun f hf name hname => ?_⟩
      obtain ⟨o, hmem, ho⟩ := h.oneofs f hf name hname
      exact ⟨_, List.mem_map_of_mem hmem, ho⟩
  constructor
  · rintro ⟨m, hm⟩
    obtain ⟨_, hcheck, -⟩ := Except.bind_eq_ok.1 hm
    exact hchecks.1 hcheck
  · intro h
    exact ⟨_, Except.bind_eq_ok.2 ⟨(), hchecks.2 h, rfl⟩⟩

namespace Pool

/-- A declaration is added exactly if its name is new and its fields pass the checks. -/
theorem add_ok_iff {p : Pool} {d : Declaration} :
    (∃ q, p.add d = .ok q) ↔ d.fullName ∉ p.names ∧ d.Consistent := by
  constructor
  · rintro ⟨q, hq⟩
    refine ⟨(Adds.of_add hq).name_not_mem, ?_⟩
    cases Adds.of_add hq with
    | enum hnew =>
      intro x hx
      cases hx
    | message hnew hm =>
      intro x hx
      cases hx
      exact Message.ofDescriptor_ok_iff.1 ⟨_, hm⟩
  · rintro ⟨hnew, hown⟩
    unfold Pool.add
    rw [if_neg (declares_iff.not.2 hnew)]
    cases d with
    | enum fullName d => exact ⟨_, rfl⟩
    | message fullName target d =>
      obtain ⟨m, hm⟩ := Message.ofDescriptor_ok_iff.2 (hown _ rfl)
      exact ⟨_, Except.bind_eq_ok.2 ⟨m, hm, rfl⟩⟩

/-- A run of additions succeeds exactly if the names are new, to the pool and to each other, and
every declaration passes the checks. -/
theorem addAll_ok_iff {p : Pool} {ds : List Declaration} :
    (∃ q, ds.foldlM add p = .ok q) ↔
      (ds.map Declaration.fullName).Nodup ∧ (∀ d ∈ ds, d.fullName ∉ p.names) ∧
        ∀ d ∈ ds, d.Consistent := by
  induction ds generalizing p with
  | nil =>
    simp only [List.map_nil, List.nodup_nil, List.not_mem_nil, false_implies, implies_true,
      and_true, iff_true]
    exact ⟨p, rfl⟩
  | cons d ds ih =>
    have hsplit : (∃ q, (d :: ds).foldlM add p = .ok q) ↔
        ∃ p', p.add d = .ok p' ∧ ∃ q, ds.foldlM add p' = .ok q := by
      simp only [List.foldlM_cons, Except.bind_eq_ok]
      rw [exists_comm]
      simp only [exists_and_left]
    rw [hsplit, List.map_cons, List.nodup_cons, List.forall_mem_cons, List.forall_mem_cons]
    -- Once a declaration is in, its own name is one of those that the rest must not bear.
    have hnames : ∀ p', p.add d = .ok p' →
        ((∀ d' ∈ ds, d'.fullName ∉ p'.names) ↔
          d.fullName ∉ ds.map Declaration.fullName ∧ ∀ d' ∈ ds, d'.fullName ∉ p.names) := by
      intro p' hp'
      have hmem : ∀ name, name ∈ p'.names ↔ name = d.fullName ∨ name ∈ p.names := fun name => by
        rw [(Adds.of_add hp').names_perm.mem_iff, List.mem_cons]
      simp only [hmem, not_or, List.mem_map, not_exists, not_and]
      exact forall₂_and
    constructor
    · rintro ⟨p', hp', hrun⟩
      obtain ⟨hnew, hown⟩ := add_ok_iff.1 ⟨p', hp'⟩
      obtain ⟨hnodup, hfresh, hrest⟩ := ih.1 hrun
      obtain ⟨hapart, hfresh⟩ := (hnames p' hp').1 hfresh
      exact ⟨⟨hapart, hnodup⟩, ⟨hnew, hfresh⟩, hown, hrest⟩
    · rintro ⟨⟨hapart, hnodup⟩, ⟨hnew, hfresh⟩, hown, hrest⟩
      obtain ⟨p', hp'⟩ := add_ok_iff.2 ⟨hnew, hown⟩
      exact ⟨p', hp', ih.2 ⟨hnodup, (hnames p' hp').2 ⟨hapart, hfresh⟩, hrest⟩⟩

theorem ofSet_ok_iff {s : DescriptorSet} :
    (∃ p, ofSet s = .ok p) ↔
      (∀ name ∈ s.filesToGenerate, ∃ f ∈ s.files, f.name = name) ∧
        ∃ p, s.declarations.foldlM add empty = .ok p := by
  have hfiles : (s.filesToGenerate.find? fun name => !(s.files.any (·.name = name))) = none ↔
      ∀ name ∈ s.filesToGenerate, ∃ f ∈ s.files, f.name = name := by
    rw [List.find?_eq_none]
    refine forall₂_congr fun name _ => ?_
    rw [Bool.not_eq_true', Bool.not_eq_false, List.any_eq_true]
    simp only [decide_eq_true_iff]
  rw [← hfiles]
  unfold ofSet
  split
  next name hfind =>
    rw [hfind]
    constructor
    · rintro ⟨p, hp⟩
      cases hp
    · rintro ⟨hnone, -⟩
      cases hnone
  next hfind => exact ⟨fun h => ⟨hfind, h⟩, fun h => h.2⟩

end Pool

namespace DescriptorSet

variable {s : DescriptorSet}

theorem declaredNames_nodup_iff :
    (s.declarations.map Declaration.fullName).Nodup ↔
      (s.namedMessages.map (·.1) ++ s.namedEnums.map (·.1)).Nodup := by
  rw [(declaredNames_perm s.declarations).nodup_iff, declarations_filterMap_message,
    declarations_filterMap_enum]

theorem declarations_consistent_iff :
    (∀ d ∈ s.declarations, d.Consistent) ↔ ∀ x ∈ s.namedMessages, x.2.Consistent := by
  rw [← declarations_filterMap_message]
  simp only [Declaration.Consistent, List.mem_filterMap, Option.mem_def]
  exact ⟨fun h x ⟨d, hd, hx⟩ => h d hd x hx, fun h d hd x hx => h x ⟨d, hd, hx⟩⟩

theorem ofSet_ok_iff_consistent : (∃ p, Pool.ofSet s = .ok p) ↔ s.Consistent := by
  have hempty : ∀ d ∈ s.declarations, d.fullName ∉ Pool.empty.names := fun _ _ hm => nomatch hm
  rw [Pool.ofSet_ok_iff, Pool.addAll_ok_iff, declaredNames_nodup_iff, declarations_consistent_iff,
    and_iff_right hempty]
  exact ⟨fun ⟨hfiles, hnames, hmessages⟩ => ⟨hfiles, hnames, hmessages⟩,
    fun h => ⟨h.files, h.fullNames, h.messages⟩⟩

end DescriptorSet

/-! ## 5. The pool of a set indexes it -/

theorem TypeName.fullForm_inFull (name : String) : FullForm name (inFull name) := by
  unfold inFull
  split
  next cs hcs => exact .same ⟨cs, hcs⟩
  next hdot => exact .dot fun ⟨cs, hcs⟩ => hdot cs hcs

theorem ElementType.settles_inFull (t : ElementType) : t.Settles t.inFull := by
  cases t with
  | scalar kind => exact .scalar kind
  | enum name => exact .enum (TypeName.fullForm_inFull name)
  | message name => exact .message (TypeName.fullForm_inFull name)

theorem FieldType.settles_inFull (t : FieldType) : t.Settles t.inFull := by
  cases t with
  | scalar kind => exact .scalar kind
  | enum name => exact .enum (TypeName.fullForm_inFull name)
  | message name => exact .message (TypeName.fullForm_inFull name)
  | map key value => exact .map key value.settles_inFull
  | repeated item => exact .repeated item.settles_inFull

theorem FieldDescriptor.settles_ofDescriptor (d : FieldDescriptor) :
    d.Settles (Field.ofDescriptor d) where
  name := rfl
  jsonName := Field.ofDescriptor_jsonName d
  type := d.type.settles_inFull
  isOptional := rfl
  oneof := rfl
  constraints := rfl

theorem OneofDescriptor.settles_ofDescriptor (fields : List Field) (d : OneofDescriptor) :
    d.Settles (Oneof.ofDescriptor fields d) where
  name := rfl
  required := by
    show d.constraints.any (·.required) = true ↔ _
    rw [Option.any_eq_true]

/-- The members of a oneof of a message stand at the places that it holds. -/
theorem Message.places_of_mem {m : Message} {o : Oneof} (ho : o ∈ m.oneofs) : m.Places o where
  ascending := by
    rw [m.placed o ho]
    exact oneofPlaces_ascending m.fields o.name
  named i := by
    rw [m.placed o ho]
    exact mem_oneofPlaces
  members := by
    -- Both lists are read off the fields that were found with their places.
    rw [members_eq_map ho, m.placed o ho, oneofPlaces, List.forall₂_map_left_iff,
      List.forall₂_map_right_iff, List.forall₂_same]
    exact fun x hx => List.mem_zipIdx_iff_getElem?.1 (List.mem_filter.1 hx).1

theorem MessageDescriptor.settles_settled (x : String × MessageDescriptor) :
    MessageDescriptor.Settles x (Message.settled x.1 x.2) where
  fullName := rfl
  name := rfl
  fields := by
    show List.Forall₂ _ x.2.fields (x.2.fields.map Field.ofDescriptor)
    rw [List.forall₂_map_right_iff, List.forall₂_same]
    exact fun f _ => f.settles_ofDescriptor
  oneofs := by
    show List.Forall₂ _ x.2.oneofs (x.2.oneofs.map (Oneof.ofDescriptor _))
    rw [List.forall₂_map_right_iff, List.forall₂_same]
    exact fun o _ => o.settles_ofDescriptor _
  members _ ho := Message.places_of_mem ho

namespace Pool

variable {s : DescriptorSet} {p : Pool}

theorem messages_of_ofSet (h : ofSet s = .ok p) :
    p.messages = s.namedMessages.map fun x => Message.settled x.1 x.2 := by
  have hholds : p.messages = (s.declarations.map Declaration.type).filterMap Sum.getLeft? :=
    (ofSet_holds h).1
  rw [hholds, ← DescriptorSet.declarations_filterMap_message, List.filterMap_map,
    List.map_filterMap]
  refine List.filterMap_congr fun d _ => ?_
  cases d <;> rfl

theorem enums_of_ofSet (h : ofSet s = .ok p) :
    p.enums = s.namedEnums.map fun x => ⟨x.1, x.2.values⟩ := by
  have hholds : p.enums = (s.declarations.map Declaration.type).filterMap Sum.getRight? :=
    (ofSet_holds h).2
  rw [hholds, ← DescriptorSet.declarations_filterMap_enum, List.filterMap_map,
    List.map_filterMap]
  refine List.filterMap_congr fun d _ => ?_
  cases d <;> rfl

/-- The targets among what was declared are some of the messages, in their order. -/
def Marks (p : Pool) (done : List Declaration) : Prop :=
  p.targetNames = done.filterMap Declaration.targetName? ∧
    ∃ ts : List Message, ts.Sublist p.messages ∧ ts.map (·.fullName) = p.targetNames

theorem Marks.add {q : Pool} {done : List Declaration} {d : Declaration} (hp : p.Marks done)
    (h : p.Adds d q) : q.Marks (done ++ [d]) := by
  obtain ⟨hnames, ts, hts, hmap⟩ := hp
  unfold Marks
  rw [List.filterMap_append, ← hnames]
  cases h with
  | enum hnew => exact ⟨(List.append_nil _).symm, ts, hts, hmap⟩
  | @message fullName target d m hnew hm =>
    cases target with
    | false => exact ⟨(List.append_nil _).symm, ts, hts.trans (List.sublist_append_left _ _), hmap⟩
    | true =>
      refine ⟨rfl, ts ++ [m], hts.append (.refl [m]), ?_⟩
      show (ts ++ [m]).map (·.fullName) = p.targetNames ++ [fullName]
      rw [List.map_append, hmap, List.map_singleton, (Message.ofDescriptor_eq_ok hm).1]

/-- The targets are looked up by their names, and each finds the message that was marked. -/
theorem Marks.targets {done : List Declaration} (hsound : p.Sound) (hp : p.Marks done) :
    p.targets.map (·.fullName) = done.filterMap Declaration.targetName? ∧
      p.targets.Sublist p.messages := by
  obtain ⟨hnames, ts, hts, hmap⟩ := hp
  have hmessages : (p.messages.map (·.fullName)).Nodup := (List.nodup_append.1 hsound.names_nodup).1
  have htargets : p.targets = ts := by
    unfold Pool.targets
    rw [← hmap, List.filterMap_map]
    trans ts.filterMap some
    · refine List.filterMap_congr fun m hm => ?_
      exact (find?_name hmessages).2 ⟨hts.subset hm, rfl⟩
    · exact List.filterMap_some
  rw [htargets, hmap, hnames]
  exact ⟨rfl, hts⟩

theorem targets_of_ofSet (h : ofSet s = .ok p) :
    p.targets.map (·.fullName) = (s.targetFiles.flatMap (·.namedMessages)).map (·.1) ∧
      p.targets.Sublist p.messages := by
  have hmarks : p.Marks s.declarations :=
    ofSet_induction (P := fun p done => p.Marks done) ⟨rfl, [], .slnil, rfl⟩
      (fun _ _ _ d _ hp hadds => hp.add hadds) h
  rw [← DescriptorSet.declarations_filterMap_targetName]
  exact hmarks.targets (ofSet_sound h)

theorem Sound.message_stored (hp : p.Sound) {m : Message} (hm : m ∈ p.messages) :
    p.message? m.fullName = some m := by
  have hdot : DotLed m.fullName := hp.dotLed _ (List.mem_append_left _ (List.mem_map_of_mem hm))
  exact hp.message?_eq_some.2 ⟨hm, hdot.inFull_eq.symm⟩

theorem Sound.enum_stored (hp : p.Sound) {e : EnumType} (he : e ∈ p.enums) :
    p.enum? e.fullName = some e := by
  have hdot : DotLed e.fullName := hp.dotLed _ (List.mem_append_right _ (List.mem_map_of_mem he))
  exact hp.enum?_eq_some.2 ⟨he, hdot.inFull_eq.symm⟩

theorem indexes_of_ofSet (h : ofSet s = .ok p) : p.Indexes s where
  messages := by
    rw [messages_of_ofSet h, List.forall₂_map_right_iff, List.forall₂_same]
    exact fun x _ => MessageDescriptor.settles_settled x
  enums := enums_of_ofSet h
  messageStored _ hm := (ofSet_sound h).message_stored hm
  messageFound name m hm := by
    obtain ⟨hmem, hname⟩ := (ofSet_sound h).message?_eq_some.1 hm
    exact ⟨hmem, hname ▸ TypeName.fullForm_inFull name⟩
  enumStored _ he := (ofSet_sound h).enum_stored he
  enumFound name e he := by
    obtain ⟨hmem, hname⟩ := (ofSet_sound h).enum?_eq_some.1 he
    exact ⟨hmem, hname ▸ TypeName.fullForm_inFull name⟩
  targets := (targets_of_ofSet h).1
  targetsListed := (targets_of_ofSet h).2
  targetsOnce := by
    apply ((targets_of_ofSet h).2.map _).nodup
    exact (List.nodup_append.1 (ofSet_sound h).names_nodup).1

/-- Exactly the consistent sets have pools, and the pool of a set is a faithful index of it. -/
theorem ofSet_faithful (s : DescriptorSet) :
    ((∃ p, ofSet s = .ok p) ↔ s.Consistent) ∧ ∀ p, ofSet s = .ok p → p.Indexes s :=
  ⟨DescriptorSet.ofSet_ok_iff_consistent, fun _ h => indexes_of_ofSet h⟩

end Pool

/-- Two files; a message is declared inside another and an enum inside it, and one of the fields is
in a oneof. -/
def parcelSet : DescriptorSet where
  filesToGenerate := ["parcel.proto"]
  files :=
    [⟨"parcel.proto", "acme",
        [⟨"Parcel",
            [⟨"track_id", none, .scalar .string, false, some "label", none⟩,
              ⟨"size", some "extent", .message "acme.Parcel.Size", false, none, none⟩],
            [⟨"label", none⟩], [⟨"Size", [], [], [], [⟨"Unit", [⟨"MM", 0⟩]⟩]⟩], []⟩], []⟩,
      ⟨"depot.proto", "", [⟨"Depot", [], [], [], []⟩], []⟩]

def parcelMessage : Message where
  fullName := ".acme.Parcel"
  name := "Parcel"
  fields :=
    [⟨"track_id", "trackId", .scalar .string, false, some "label", {}⟩,
      ⟨"size", "extent", .message ".acme.Parcel.Size", false, none, {}⟩]
  oneofs := [⟨"label", false, [0]⟩]

def sizeMessage : Message where
  fullName := ".acme.Parcel.Size"
  name := "Size"
  fields := []
  oneofs := []

def parcelPool : Pool where
  messages := [parcelMessage, sizeMessage,
    { fullName := ".Depot", name := "Depot", fields := [], oneofs := [] }]
  enums := [⟨".acme.Parcel.Size.Unit", [⟨"MM", 0⟩]⟩]
  targetNames := [".acme.Parcel", ".acme.Parcel.Size"]

theorem parcelPool_built : Pool.ofSet parcelSet = .ok parcelPool := by
  simp only [Pool.ofSet, parcelSet, DescriptorSet.declarations, messageDeclarations,
    enumDeclarations, List.flatMap_cons, List.flatMap_nil]
  rfl

theorem parcels_indexed : parcelSet.Consistent ∧ parcelPool.Indexes parcelSet :=
  ⟨(Pool.ofSet_faithful parcelSet).1.1 ⟨_, parcelPool_built⟩,
    (Pool.ofSet_faithful parcelSet).2 _ parcelPool_built⟩

end ProtoSchema
