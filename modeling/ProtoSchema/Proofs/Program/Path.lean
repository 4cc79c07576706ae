import ProtoSchema.Program.Path
import ProtoSchema.Proofs.Descriptor.Consistency

/-!
# Paths of schema documents

The path of a document is made from a full name.  Full names without slashes have paths of their
own.  The name of the file has dots and the names of its directories have none, so no file stands
where another one needs a directory.
-/

namespace ProtoSchema

/-! ## 1. Names and paths -/

/-- No package and no name of a message has a slash in it. -/
structure DescriptorSet.Slashless (s : DescriptorSet) : Prop where
  packages : ∀ f ∈ s.files, '/' ∉ f.package.toList
  messages : ∀ x ∈ s.namedMessages, '/' ∉ x.2.name.toList

/-- A part of a key as it stands in a path. -/
def slashed (key : List Char) : List Char := key.map fun c => if c = '.' then '/' else c

/-- What the paths of all documents end with. -/
def fileSuffix : String := ".schema.json"

theorem TypeName.filePath_toList (name : String) :
    (filePath name).toList = slashed (key name).toList ++ fileSuffix.toList := by
  unfold filePath
  rw [String.toList_append, String.toList_ofList]
  rfl

theorem dot_not_mem_slashed (key : List Char) : '.' ∉ slashed key := by
  intro hm
  obtain ⟨c, -, hc⟩ := List.mem_map.1 hm
  by_cases hdot : c = '.'
  · rw [if_pos hdot] at hc
    cases hc
  · rw [if_neg hdot] at hc
    exact hdot hc

/-- Where there was no slash before, the slashes tell where the dots were. -/
theorem slashed_inj {key key' : List Char} (h : '/' ∉ key) (h' : '/' ∉ key')
    (he : slashed key = slashed key') : key = key' := by
  have hback : ∀ cs : List Char, '/' ∉ cs →
      (slashed cs).map (fun c => if c = '/' then '.' else c) = cs := by
    intro cs hcs
    unfold slashed
    rw [List.map_map]
    conv_rhs => rw [← List.map_id cs]
    apply List.map_congr_left
    intro c hc
    show (if (if c = '.' then '/' else c) = '/' then '.' else if c = '.' then '/' else c) = c
    by_cases hdot : c = '.'
    · rw [if_pos hdot, if_pos rfl, hdot]
    · have hslash : c ≠ '/' := fun hs => hcs (hs ▸ hc)
      rw [if_neg hdot, if_neg hslash]
  rw [← hback key h, he, hback key' h']

theorem TypeName.filePath_inj {name name' : String} (hdot : DotLed name) (hdot' : DotLed name')
    (h : '/' ∉ name.toList) (h' : '/' ∉ name'.toList) (he : filePath name = filePath name') :
    name = name' := by
  have hkey : ∀ {name : String}, DotLed name → '/' ∉ name.toList → '/' ∉ (key name).toList := by
    intro name hdot h hm
    rw [hdot.eq_dot_key, String.toList_append] at h
    exact h (List.mem_append_right _ hm)
  have hlist : slashed (key name).toList ++ fileSuffix.toList =
      slashed (key name').toList ++ fileSuffix.toList := by
    rw [← filePath_toList, ← filePath_toList, he]
  apply (hdot.key_inj hdot').1
  exact String.toList_inj.1
    (slashed_inj (hkey hdot h) (hkey hdot' h') (List.append_cancel_right hlist))

/-! ## 2. Full names without slashes -/

/-- The names on the way to a message are those of messages. -/
theorem MessageDescriptor.names_of_subtree {P : String → Prop} (m : MessageDescriptor)
    (h : ∀ x ∈ m.subtree, P x.2.name) : ∀ x ∈ m.subtree, ∀ name ∈ x.1, P name := by
  induction m using MessageDescriptor.subtree.induct with
  | case1 name fields oneofs messages enums ih =>
    rw [subtree, List.forall_mem_cons, List.forall_mem_flatMap] at h
    obtain ⟨hown, hinside⟩ := h
    intro x hx
    rw [subtree, List.mem_cons, List.mem_flatMap] at hx
    rcases hx with rfl | ⟨inner, hinner, hx⟩
    · intro name' hname
      rw [List.mem_singleton.1 hname]
      exact hown
    · obtain ⟨y, hy, rfl⟩ := List.mem_map.1 hx
      have hnames : ∀ z ∈ inner.subtree, P z.2.name := fun z hz =>
        hinside inner hinner (name :: z.1, z.2) (List.mem_map.2 ⟨z, hz, rfl⟩)
      intro name' hname
      rcases List.mem_cons.1 hname with rfl | hname
      · exact hown
      · exact ih inner hinner hnames y hy name' hname

theorem dotted_slashless {path : List String} (h : ∀ name ∈ path, '/' ∉ name.toList) :
    '/' ∉ (dotted path).toList := by
  induction path with
  | nil => exact List.not_mem_nil
  | cons name path ih =>
    obtain ⟨hname, hpath⟩ := List.forall_mem_cons.1 h
    rw [dotted_cons, String.toList_append, String.toList_append, List.mem_append, List.mem_append]
    rintro ((hm | hm) | hm)
    · cases List.mem_singleton.1 hm
    · exact hname hm
    · exact ih hpath hm

theorem FileDescriptor.nameOf_slashless {f : FileDescriptor} (hpackage : '/' ∉ f.package.toList)
    {path : List String} (h : ∀ name ∈ path, '/' ∉ name.toList) :
    '/' ∉ (f.nameOf path).toList := by
  unfold nameOf
  rw [String.toList_append, List.mem_append]
  rintro (hm | hm)
  · by_cases hempty : f.package = ""
    · rw [if_pos hempty] at hm
      cases hm
    · rw [if_neg hempty, String.toList_append, List.mem_append] at hm
      rcases hm with hm | hm
      · cases List.mem_singleton.1 hm
      · exact hpackage hm
  · exact dotted_slashless h hm

theorem DescriptorSet.Slashless.fullName {s : DescriptorSet} (h : s.Slashless) :
    ∀ x ∈ s.namedMessages, '/' ∉ x.1.toList := by
  intro x hx
  obtain ⟨f, hf, hx⟩ := List.mem_flatMap.1 hx
  obtain ⟨m, hm, hx⟩ := List.mem_flatMap.1 hx
  obtain ⟨y, hy, rfl⟩ := List.mem_map.1 hx
  apply f.nameOf_slashless (h.packages f hf)
  refine m.names_of_subtree (P := fun name => '/' ∉ name.toList) (fun z hz => ?_) y hy
  refine h.messages (f.nameOf z.1, z.2) (List.mem_flatMap.2 ⟨f, hf, ?_⟩)
  exact List.mem_flatMap.2 ⟨m, hm, List.mem_map_of_mem hz⟩

/-! ## 3. Files and directories -/

namespace Program

/-- The names that a path leads through; empty parts and single dots lead nowhere. -/
def pathNames (path : String) : List String :=
  (pathParts path).filter fun part => part ≠ "" ∧ part ≠ "."

/-- A suffix without a slash stays with the last part; what has no dots is split into parts that
have none. -/
theorem splitOn_suffix {stem suffix : List Char} (hstem : '.' ∉ stem) (hsuffix : '/' ∉ suffix) :
    ∃ init last, (stem ++ suffix).splitOn '/' = init ++ [last ++ suffix] ∧
      ∀ part ∈ init, '.' ∉ part := by
  induction stem with
  | nil =>
    refine ⟨[], [], ?_, fun part hpart => absurd hpart List.not_mem_nil⟩
    have hparts : ∀ part ∈ [suffix], '/' ∉ part := List.forall_mem_singleton.2 hsuffix
    have hsplit := List.splitOn_intercalate '/' hparts (List.cons_ne_nil suffix [])
    rwa [List.intercalate_singleton] at hsplit
  | cons c stem ih =>
    rw [List.mem_cons, not_or] at hstem
    obtain ⟨init, last, hsplit, hinit⟩ := ih hstem.2
    have hcons : ((c :: stem) ++ suffix).splitOn '/' =
        if c = '/' then [] :: (stem ++ suffix).splitOn '/'
        else ((stem ++ suffix).splitOn '/').modifyHead (List.cons c) := by
      show List.splitOnP _ (c :: (stem ++ suffix)) = _
      rw [List.splitOnP_cons_eq_if_modifyHead]
      simp only [beq_iff_eq]
      rfl
    rw [hcons, hsplit]
    by_cases hslash : c = '/'
    · rw [if_pos hslash]
      exact ⟨[] :: init, last, rfl, List.forall_mem_cons.2 ⟨List.not_mem_nil, hinit⟩⟩
    · rw [if_neg hslash]
      cases init with
      | nil => exact ⟨[], c :: last, rfl, hinit⟩
      | cons first init =>
        obtain ⟨hfirst, hinit⟩ := List.forall_mem_cons.1 hinit
        refine ⟨(c :: first) :: init, last, rfl, List.forall_mem_cons.2 ⟨?_, hinit⟩⟩
        rw [List.mem_cons, not_or]
        exact ⟨hstem.1, hfirst⟩

/-- Only a first part that is empty is read in another way. -/
theorem pathParts_eq {path first : String} {rest : List String}
    (h : (path.toList.splitOn '/').map String.ofList = first :: rest) :
    (first ≠ "" → pathParts path = first :: rest) ∧
      (first = "" → rest ≠ [] → pathParts path = "/" :: rest) := by
  unfold pathParts
  rw [h]
  constructor
  · intro hfirst
    split
    next heq => exact absurd (List.cons.inj heq).1 hfirst
    next heq => exact absurd (List.cons.inj heq).1 hfirst
    next => rfl
  · intro hfirst hrest
    subst hfirst
    split
    next heq => exact absurd (List.cons.inj heq).2 hrest
    next heq =>
      cases heq
      rfl
    next hne => exact absurd rfl (hne rest)

/-- The parts of the path of a document are those of the name, in which there are no dots left, and
the suffix stands at the end of the last one. -/
theorem pathParts_filePath (name : String) :
    ∃ directories file stem, pathParts (TypeName.filePath name) = directories ++ [file] ∧
      (∀ directory ∈ directories, '.' ∉ directory.toList) ∧
      file.toList = stem ++ fileSuffix.toList := by
  have hsuffix : '/' ∉ fileSuffix.toList := by decide
  obtain ⟨init, last, hsplit, hinit⟩ :=
    splitOn_suffix (dot_not_mem_slashed (TypeName.key name).toList) hsuffix
  obtain ⟨file, hfile⟩ : ∃ file, String.ofList (last ++ fileSuffix.toList) = file := ⟨_, rfl⟩
  have hlist : file.toList = last ++ fileSuffix.toList := by
    rw [← hfile, String.toList_ofList]
  have hmap : ((TypeName.filePath name).toList.splitOn '/').map String.ofList =
      init.map String.ofList ++ [file] := by
    rw [TypeName.filePath_toList, hsplit, List.map_append, List.map_singleton, hfile]
  have hdotless : ∀ directory ∈ init.map String.ofList, '.' ∉ directory.toList := by
    intro directory hd
    obtain ⟨part, hpart, rfl⟩ := List.mem_map.1 hd
    rw [String.toList_ofList]
    exact hinit part hpart
  cases hdirectories : init.map String.ofList with
  | nil =>
    rw [hdirectories] at hmap
    refine ⟨[], file, last, (pathParts_eq hmap).1 ?_, fun d hd => absurd hd List.not_mem_nil, hlist⟩
    intro hempty
    rw [hempty] at hlist
    exact absurd hlist.symm (List.append_ne_nil_of_right_ne_nil _ (by decide))
  | cons first directories =>
    rw [hdirectories] at hmap hdotless
    obtain ⟨-, hrest⟩ := List.forall_mem_cons.1 hdotless
    by_cases hempty : first = ""
    · refine ⟨"/" :: directories, file, last, (pathParts_eq hmap).2 hempty ?_, ?_, hlist⟩
      · exact List.append_ne_nil_of_right_ne_nil _ (List.cons_ne_nil file [])
      · exact List.forall_mem_cons.2 ⟨by decide, hrest⟩
    · exact ⟨first :: directories, file, last, (pathParts_eq hmap).1 hempty, hdotless, hlist⟩

/-- The path of a document leads through directories whose names have no dots to a file whose name
has some. -/
theorem pathNames_filePath (name : String) :
    ∃ directories file, pathNames (TypeName.filePath name) = directories ++ [file] ∧
      (∀ directory ∈ directories, '.' ∉ directory.toList) ∧ '.' ∈ file.toList := by
  obtain ⟨directories, file, stem, hparts, hdirectories, hfile⟩ := pathParts_filePath name
  have hlong : ∀ short : String, short.toList.length < fileSuffix.toList.length → file ≠ short := by
    intro short hshort he
    rw [← he, hfile, List.length_append] at hshort
    omega
  have hkept : [file].filter (fun part => decide (part ≠ "" ∧ part ≠ ".")) = [file] := by
    apply List.filter_eq_self.2
    intro part hpart
    rw [List.mem_singleton.1 hpart]
    exact decide_eq_true ⟨hlong "" (by decide), hlong "." (by decide)⟩
  refine ⟨directories.filter fun part => part ≠ "" ∧ part ≠ ".", file, ?_, ?_, ?_⟩
  · unfold pathNames
    rw [hparts, List.filter_append, hkept]
  · exact fun d hd => hdirectories d (List.mem_of_mem_filter hd)
  · rw [hfile]
    exact List.mem_append_right _ (by decide)

/-- The path of no document leads to a directory that the path of one leads through. -/
theorem filePath_not_directory (name name' : String) :
    ¬ pathNames (TypeName.filePath name) <+: (pathNames (TypeName.filePath name')).dropLast := by
  obtain ⟨directories, file, heq, -, hfile⟩ := pathNames_filePath name
  obtain ⟨directories', file', heq', hdirectories', -⟩ := pathNames_filePath name'
  rw [heq, heq', List.dropLast_concat]
  intro hprefix
  have hm : file ∈ directories' := hprefix.subset (List.mem_append_right _ List.mem_cons_self)
  exact hdirectories' file hm hfile

end Program

end ProtoSchema
