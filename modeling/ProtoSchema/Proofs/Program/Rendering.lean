import ProtoSchema.Program.Run
import ProtoSchema.Proofs.Generation.Walk
import ProtoSchema.Proofs.Program.Path
import ProtoSchema.Proofs.Schema.Members

/-!
# Rendering and writing

Each target has one file with its document, or nothing is rendered: then the fault is that of the
first target without a document, and no file is touched.  A run succeeds exactly if each file in its
turn can be written, in a directory that is made for it, and the summary counts the targets, the
definitions and the files.
-/

namespace ProtoSchema

namespace Generation

variable {p : Pool} {url : String}

/-! ## 1. Files -/

/-- The base address for a given address: one slash is put behind it unless it ends with one. -/
inductive BaseUrl (url : String) : String → Prop
  | same (cs : List Char) (h : url.toList = cs ++ ['/']) : BaseUrl url url
  | slash (h : ∀ cs, url.toList ≠ cs ++ ['/']) : BaseUrl url (url ++ "/")

/-- The file of a message: its path is that of the name, and its content is the JSON of the document
with the address of the file between the dialect and the other members. -/
structure FileOf (p : Pool) (base : String) (m : Message) (f : SchemaFile) : Prop where
  path : f.path = TypeName.filePath m.fullName
  content : ∃ d members, document p m = .ok d ∧
    d.toJson = .object (("$schema", .string draft07) :: members) ∧
    f.content = (Json.object (("$schema", .string draft07) ::
      ("$id", .string (base ++ f.path)) :: members)).pretty ++ "\n"

theorem baseUrl_withFinalSlash (url : String) : BaseUrl url (withFinalSlash url) := by
  unfold withFinalSlash
  by_cases hslash : url.toList.getLast? = some '/'
  · rw [if_pos hslash]
    obtain ⟨cs, hcs⟩ := List.getLast?_eq_some_iff.1 hslash
    exact .same cs hcs
  · rw [if_neg hslash]
    exact .slash fun cs hcs => hslash (List.getLast?_eq_some_iff.2 ⟨cs, hcs⟩)

theorem renderMessage_eq_ok {m : Message} {f : SchemaFile} :
    renderMessage p url m = .ok f ↔ ∃ d, document p m = .ok d ∧
      f = ⟨TypeName.filePath m.fullName,
        { d with id := some (withFinalSlash url ++ TypeName.filePath m.fullName) }⟩ := by
  unfold renderMessage
  rw [Except.bind_eq_ok]
  refine exists_congr fun d => and_congr_right fun _ => ?_
  rw [Except.pure_eq_ok, eq_comm]

theorem renderMessage_eq_error {m : Message} {fault : Fault} :
    renderMessage p url m = .error fault ↔ document p m = .error fault := by
  unfold renderMessage
  rw [Except.bind_eq_error]
  exact or_iff_left fun ⟨d, _, h⟩ => nomatch h

theorem renderMessage_ok_iff {m : Message} :
    (∃ f, renderMessage p url m = .ok f) ↔ ∃ d, document p m = .ok d := by
  simp only [renderMessage_eq_ok]
  rw [exists_comm]
  simp only [exists_and_left, exists_eq, and_true]

/-- A document is published under no address until it is rendered. -/
theorem document_id {m : Message} {d : Document} (h : document p m = .ok d) : d.id = none := by
  cases document_form h
  rfl

theorem fileOf_renderMessage {m : Message} {f : SchemaFile} (h : renderMessage p url m = .ok f) :
    FileOf p (withFinalSlash url) m f := by
  obtain ⟨d, hd, rfl⟩ := renderMessage_eq_ok.1 h
  refine ⟨rfl, d, d.members.tail, hd, ?_, ?_⟩
  · rw [Document.toJson_eq]
    rfl
  · simp only [SchemaFile.content, Document.text, Document.toJson_eq, Document.members,
      document_id hd]
    rfl

/-! ## 2. Rows of files -/

theorem render_ok_iff :
    (∃ files, render p url = .ok files) ↔ ∀ m ∈ p.targets, ∃ d, document p m = .ok d := by
  unfold render
  simp only [Except.mapM_eq_ok]
  constructor
  · rintro ⟨files, hfiles⟩ m hm
    obtain ⟨f, -, hf⟩ := forall₂_exists_right hfiles hm
    exact renderMessage_ok_iff.1 ⟨f, hf⟩
  · intro h
    exact exists_forall₂ fun m hm => renderMessage_ok_iff.2 (h m hm)

theorem render_files {files : List SchemaFile} (h : render p url = .ok files) :
    List.Forall₂ (FileOf p (withFinalSlash url)) p.targets files :=
  (Except.mapM_eq_ok.1 h).imp fun _ _ => fileOf_renderMessage

theorem render_eq_error {fault : Fault} :
    render p url = .error fault ↔ ∃ before m after, p.targets = before ++ m :: after ∧
      (∀ n ∈ before, ∃ d, document p n = .ok d) ∧ document p m = .error fault := by
  unfold render
  simp only [Except.mapM_eq_error, renderMessage_ok_iff, renderMessage_eq_error]

theorem paths_eq {base : String} {files : List SchemaFile}
    (h : List.Forall₂ (FileOf p base) p.targets files) :
    files.map (·.path) = p.targets.map fun m => TypeName.filePath m.fullName :=
  map_eq_of_forall₂ (fun _ _ hf => hf.path) h

/-- Where no name has a slash, the targets have paths of their own. -/
theorem paths_nodup {set : DescriptorSet} (hset : Pool.ofSet set = .ok p) (hnames : set.Slashless) :
    (p.targets.map fun m => TypeName.filePath m.fullName).Nodup := by
  have hindexes := Pool.indexes_of_ofSet hset
  have hdot : ∀ m ∈ p.targets, DotLed m.fullName := fun m hm =>
    (Pool.ofSet_sound hset).dotLed _
      (List.mem_append_left _ (List.mem_map_of_mem (hindexes.targetsListed.subset hm)))
  have hslash : ∀ m ∈ p.targets, '/' ∉ m.fullName.toList := by
    intro m hm
    obtain ⟨x, hx, hsettles⟩ :=
      forall₂_exists_left hindexes.messages (hindexes.targetsListed.subset hm)
    rw [hsettles.fullName]
    exact hnames.fullName x hx
  have honce := hindexes.targetsOnce
  apply List.Nodup.map_on _ honce.of_map
  intro m hm n hn he
  have hname := TypeName.filePath_inj (hdot m hm) (hdot n hn) (hslash m hm) (hslash n hn) he
  exact List.inj_on_of_nodup_map honce hm hn hname

/-- The documents in files have as many definitions as the documents of the targets. -/
theorem definitionCount_eq {files : List SchemaFile} (h : render p url = .ok files) :
    ∃ ds, List.Forall₂ (fun m d => document p m = .ok d) p.targets ds ∧
      definitionCount files = (ds.map (·.definitions.length)).sum := by
  have hall := Except.mapM_eq_ok.1 h
  clear h
  unfold definitionCount
  generalize p.targets = targets at hall ⊢
  induction hall with
  | nil => exact ⟨[], .nil, rfl⟩
  | cons hf _ ih =>
    obtain ⟨d, hd, rfl⟩ := renderMessage_eq_ok.1 hf
    obtain ⟨ds, hds, hcount⟩ := ih
    exact ⟨d :: ds, .cons hd hds, congrArg (d.definitions.length + ·) hcount⟩

end Generation

namespace Program

variable {σ : Type} {access : FileAccess (StateM σ)} {p : Pool} {directory url : String}

/-! ## 3. Runs -/

/-- What a program with faults does to a state. -/
def runFrom {ε α : Type} (x : ExceptT ε (StateM σ) α) (s : σ) : Except ε α × σ := x.run.run s

theorem runFrom_bind_eq_ok {ε α β : Type} {x : ExceptT ε (StateM σ) α}
    {f : α → ExceptT ε (StateM σ) β} {s t : σ} {b : β} :
    runFrom (x >>= f) s = (.ok b, t) ↔
      ∃ a r, runFrom x s = (.ok a, r) ∧ runFrom (f a) r = (.ok b, t) := by
  unfold runFrom
  rw [ExceptT.run_bind]
  show (match (x.run.run s).1 with
    | .ok a => (f a).run
    | .error e => pure (.error e)).run (x.run.run s).2 = _ ↔ _
  rcases x.run.run s with ⟨_ | a, r⟩
  · constructor
    · intro h
      cases h
    · rintro ⟨a, r', h, -⟩
      cases h
  · constructor
    · exact fun h => ⟨a, r, rfl, h⟩
    · rintro ⟨a', r', h, hf⟩
      cases h
      exact hf

theorem runFrom_accessing {fault : FileFault → Fault} {α : Type} {x : StateM σ (Except FileFault α)}
    {a : α} {s t : σ} :
    runFrom (accessing fault x) s = (.ok a, t) ↔ x.run s = (.ok a, t) := by
  show ((x.run s).1.mapError fault, (x.run s).2) = (.ok a, t) ↔ _
  rw [Prod.ext_iff, Prod.ext_iff]
  exact and_congr_left' Except.mapError_eq_ok

theorem runFrom_writeFile {path content : String} {s t : σ} :
    runFrom (writeFile access path content) s = (.ok (), t) ↔
      ∃ made, (access.makeDirectories (parentPath path)).run s = (.ok (), made) ∧
        (access.write path content).run made = (.ok (), t) := by
  unfold writeFile
  simp only [runFrom_bind_eq_ok, runFrom_accessing]
  constructor
  · rintro ⟨_, made, h⟩
    exact ⟨made, h⟩
  · rintro ⟨made, h⟩
    exact ⟨(), made, h⟩

/-- What it takes to write files below a directory: for each in its turn, the directory that holds
it is made, and then the file is written. -/
inductive Writes (access : FileAccess (StateM σ)) (directory : String) :
    List Generation.SchemaFile → σ → σ → Prop
  | nil (s : σ) : Writes access directory [] s s
  | cons {f : Generation.SchemaFile} {rest : List Generation.SchemaFile} {s made written t : σ}
      (hmade : (access.makeDirectories (parentPath (joinPath directory f.path))).run s =
        (.ok (), made))
      (hwritten : (access.write (joinPath directory f.path) f.content).run made =
        (.ok (), written))
      (hrest : Writes access directory rest written t) :
      Writes access directory (f :: rest) s t

/-- Files are written and counted exactly if all that it takes succeeds. -/
theorem runFrom_writeFiles {files : List Generation.SchemaFile} {s t : σ} {n : Nat} :
    runFrom (writeFiles access directory files) s = (.ok n, t) ↔
      Writes access directory files s t ∧ n = files.length := by
  induction files generalizing s n with
  | nil =>
    constructor
    · intro h
      cases h
      exact ⟨.nil _, rfl⟩
    · rintro ⟨⟨⟩, rfl⟩
      rfl
  | cons f rest ih =>
    constructor
    · intro h
      obtain ⟨_, written, hfile, h⟩ := runFrom_bind_eq_ok.1 h
      obtain ⟨k, r, hk, h⟩ := runFrom_bind_eq_ok.1 h
      cases h
      obtain ⟨made, hmade, hwritten⟩ := runFrom_writeFile.1 hfile
      obtain ⟨hrest, rfl⟩ := ih.1 hk
      exact ⟨.cons hmade hwritten hrest, rfl⟩
    · rintro ⟨hwrites, rfl⟩
      cases hwrites with
      | cons hmade hwritten hrest =>
        have hfile := runFrom_writeFile.2 ⟨_, hmade, hwritten⟩
        exact runFrom_bind_eq_ok.2 ⟨(), _, hfile,
          runFrom_bind_eq_ok.2 ⟨rest.length, t, ih.2 ⟨hrest, rfl⟩, rfl⟩⟩

/-- No access that makes or writes something fails. -/
structure FileAccess.Willing (access : FileAccess (StateM σ)) : Prop where
  directories : ∀ path s, ∃ t, (access.makeDirectory path).run s = (.ok (), t)
  files : ∀ path content s, ∃ t, (access.write path content).run s = (.ok (), t)

theorem FileAccess.Willing.makeDirectories (h : access.Willing) (path : String) (s : σ) :
    ∃ t, (access.makeDirectories path).run s = (.ok (), t) := by
  rw [FileAccess.makeDirectories]
  by_cases hempty : path.isEmpty = true
  · rw [if_pos hempty]
    exact ⟨s, rfl⟩
  · rw [if_neg hempty]
    obtain ⟨t, ht⟩ := h.directories path s
    refine ⟨t, ?_⟩
    rw [StateT.run_bind, ht]
    rfl

theorem FileAccess.Willing.writes (h : access.Willing) (directory : String)
    (files : List Generation.SchemaFile) (s : σ) : ∃ t, Writes access directory files s t := by
  induction files generalizing s with
  | nil => exact ⟨s, .nil s⟩
  | cons f rest ih =>
    obtain ⟨made, hmade⟩ := h.makeDirectories (parentPath (joinPath directory f.path)) s
    obtain ⟨written, hwritten⟩ := h.files (joinPath directory f.path) f.content made
    obtain ⟨t, ht⟩ := ih written
    exact ⟨t, .cons hmade hwritten ht⟩

/-- Where rendering fails, nothing is done to any state. -/
theorem generate_eq_error {fault : Generation.Fault}
    (h : Generation.render p url = .error fault) (s : σ) :
    runFrom (generate access p directory url) s = (.error (.generation fault), s) := by
  unfold generate
  rw [h]
  rfl

/-- Where rendering succeeds, what is left to do is to write the files. -/
theorem generate_eq_ok {files : List Generation.SchemaFile}
    (h : Generation.render p url = .ok files) {s t : σ} {summary : Summary} :
    runFrom (generate access p directory url) s = (.ok summary, t) ↔
      Writes access directory files s t ∧
        summary = ⟨files.length, Generation.definitionCount files, files.length⟩ := by
  unfold generate
  rw [h]
  constructor
  · intro hrun
    obtain ⟨files', r, hfiles, hrun⟩ := runFrom_bind_eq_ok.1 hrun
    cases hfiles
    obtain ⟨n, r, hn, hrun⟩ := runFrom_bind_eq_ok.1 hrun
    cases hrun
    obtain ⟨hwrites, rfl⟩ := runFrom_writeFiles.1 hn
    exact ⟨hwrites, rfl⟩
  · rintro ⟨hwrites, rfl⟩
    have hn := runFrom_writeFiles.2 ⟨hwrites, rfl⟩
    exact runFrom_bind_eq_ok.2 ⟨files, s, rfl, runFrom_bind_eq_ok.2 ⟨files.length, t, hn, rfl⟩⟩

/-- The summary counts the targets, the definitions of their documents and the files. -/
structure Counts (p : Pool) (files : List Generation.SchemaFile) (summary : Summary) : Prop where
  documents : summary.documents = p.targets.length
  definitions : ∃ ds, List.Forall₂ (fun m d => Generation.document p m = .ok d) p.targets ds ∧
    summary.definitions = (ds.map (·.definitions.length)).sum
  files : summary.files = files.length

/-- There is one summary that counts them. -/
theorem counts_iff {files : List Generation.SchemaFile} (h : Generation.render p url = .ok files)
    {summary : Summary} :
    Counts p files summary ↔
      summary = ⟨files.length, Generation.definitionCount files, files.length⟩ := by
  have hlength : p.targets.length = files.length := (Generation.render_files h).length_eq
  obtain ⟨ds, hds, hcount⟩ := Generation.definitionCount_eq h
  constructor
  · rintro ⟨hdocuments, ⟨ds', hds', hdefinitions⟩, hfiles⟩
    -- A target has one document, so the definitions are counted over the same documents.
    have hsame : ds' = ds := by
      refine List.right_unique_forall₂' (fun m d d' hd hd' => ?_) hds' hds
      exact Except.ok.inj (hd.symm.trans hd')
    rw [hlength] at hdocuments
    rw [hsame, ← hcount] at hdefinitions
    cases summary
    cases hdocuments
    cases hdefinitions
    cases hfiles
    rfl
  · rintro rfl
    exact ⟨hlength.symm, ⟨ds, hds, hcount⟩, rfl⟩

/-- Either every target has a document, and each document goes into a file of its own, which a run
writes below the directory, or the fault is that of the first target without one, and a run touches
no file. -/
theorem render_all_or_nothing {set : DescriptorSet} {p : Pool} (hset : Pool.ofSet set = .ok p)
    (url : String) :
    ((∃ files, Generation.render p url = .ok files) ↔
      ∀ m ∈ p.targets, ∃ d, Generation.document p m = .ok d) ∧
    (∀ files, Generation.render p url = .ok files →
      (∃ base, Generation.BaseUrl url base ∧
        List.Forall₂ (Generation.FileOf p base) p.targets files) ∧
      (set.Slashless → (files.map (·.path)).Nodup) ∧
      (∀ f ∈ files, ∀ g ∈ files, ¬ pathNames f.path <+: (pathNames g.path).dropLast) ∧
      ∀ (σ : Type) (access : FileAccess (StateM σ)) (directory : String) (s : σ),
        (access.Willing → ∃ summary t,
          runFrom (generate access p directory url) s = (.ok summary, t)) ∧
        ∀ summary t, runFrom (generate access p directory url) s = (.ok summary, t) ↔
          Writes access directory files s t ∧ Counts p files summary) ∧
    ∀ fault, Generation.render p url = .error fault →
      (∃ before m after, p.targets = before ++ m :: after ∧
        (∀ n ∈ before, ∃ d, Generation.document p n = .ok d) ∧
        Generation.document p m = .error fault) ∧
      ∀ (σ : Type) (access : FileAccess (StateM σ)) (directory : String) (s : σ),
        runFrom (generate access p directory url) s = (.error (.generation fault), s) := by
  refine ⟨Generation.render_ok_iff, fun files hfiles => ?_, fun fault hfault => ?_⟩
  · have hforms := Generation.render_files hfiles
    refine ⟨⟨_, Generation.baseUrl_withFinalSlash url, hforms⟩, fun hnames => ?_, ?_, ?_⟩
    · rw [Generation.paths_eq hforms]
      exact Generation.paths_nodup hset hnames
    · intro f hf g hg
      obtain ⟨m, -, hm⟩ := forall₂_exists_left hforms hf
      obtain ⟨n, -, hn⟩ := forall₂_exists_left hforms hg
      rw [hm.path, hn.path]
      exact filePath_not_directory m.fullName n.fullName
    · intro σ access directory s
      refine ⟨fun hwilling => ?_, fun summary t => ?_⟩
      · obtain ⟨t, hwrites⟩ := hwilling.writes directory files s
        exact ⟨_, t, (generate_eq_ok hfiles).2 ⟨hwrites, rfl⟩⟩
      · rw [generate_eq_ok hfiles, counts_iff hfiles]
  · exact ⟨Generation.render_eq_error.1 hfault, fun σ access directory s =>
      generate_eq_error hfault s⟩

/-! ## 4. Files of nested messages -/

/-- Access to files that keeps what was written, path and content. -/
def recorder : FileAccess (StateM (List (String × String))) where
  read _ := return .error .notFound
  makeDirectory _ := return .ok ()
  write path content := fun written => (.ok (), written ++ [(path, content)])

theorem recorder_willing : recorder.Willing where
  directories _ s := ⟨s, rfl⟩
  files path content s := ⟨s ++ [(path, content)], rfl⟩

theorem recorder_makeDirectories (path : String) (s : List (String × String)) :
    (recorder.makeDirectories path).run s = (.ok (), s) := by
  rw [FileAccess.makeDirectories]
  split <;> rfl

theorem recorder_writes {files : List Generation.SchemaFile} {s t : List (String × String)}
    (h : Writes recorder directory files s t) :
    t = s ++ files.map fun f => (joinPath directory f.path, f.content) := by
  induction h with
  | nil s => exact (List.append_nil s).symm
  | cons hmade hwritten _ ih =>
    rw [recorder_makeDirectories] at hmade
    cases hmade
    cases hwritten
    rw [ih, List.append_assoc]
    rfl

theorem parcelPool_walks :
    Generation.walk parcelPool
        (Generation.without parcelMessage.fullName (Generation.definable parcelPool))
        (((Generation.Target.message parcelMessage).draft parcelPool).tasks []) =
      .ok [.message sizeMessage] ∧
    Generation.walk parcelPool
        (Generation.without sizeMessage.fullName (Generation.definable parcelPool))
        (((Generation.Target.message sizeMessage).draft parcelPool).tasks []) = .ok [] := by
  have hparcel : ((Generation.Target.message parcelMessage).draft parcelPool).tasks [] =
      [.visit ⟨.message sizeMessage, ["acme.Parcel", "size"]⟩] := rfl
  have hsize : ∀ path, ((Generation.Target.message sizeMessage).draft parcelPool).tasks path = [] :=
    fun _ => rfl
  constructor
  · rw [hparcel, Generation.walk, if_pos (by decide), hsize, List.append_nil, Generation.walk]
    rfl
  · rw [hsize, Generation.walk]

/-- The directory of a nested message bears the name of the message around it, the file of which has
another name. -/
theorem parcels_rendered :
    ∃ files, Generation.render parcelPool "https://acme.dev" = .ok files ∧
      files.map (·.path) = ["acme/Parcel.schema.json", "acme/Parcel/Size.schema.json"] ∧
      (files.map (·.path)).Nodup ∧
      ∃ summary written, runFrom (generate recorder parcelPool "out" "https://acme.dev") [] =
          (.ok summary, written) ∧
        written.map (·.1) = ["out/acme/Parcel.schema.json", "out/acme/Parcel/Size.schema.json"] ∧
        written.map (·.2) = files.map (·.content) ∧
        summary.documents = 2 ∧ summary.files = 2 := by
  obtain ⟨hall, hfiles, -⟩ := render_all_or_nothing parcelPool_built "https://acme.dev"
  have htargets : parcelPool.targets = [parcelMessage, sizeMessage] := rfl
  have hdocuments : ∀ m ∈ parcelPool.targets, ∃ d, Generation.document parcelPool m = .ok d := by
    rw [htargets, List.forall_mem_cons, List.forall_mem_singleton]
    obtain ⟨d, hd, -⟩ := Generation.document_of_walk parcelPool_walks.1
    obtain ⟨d', hd', -⟩ := Generation.document_of_walk parcelPool_walks.2
    exact ⟨⟨d, hd⟩, ⟨d', hd'⟩⟩
  obtain ⟨files, hrender⟩ := hall.2 hdocuments
  obtain ⟨⟨base, -, hforms⟩, hnodup, -, hrun⟩ := hfiles files hrender
  have hslashless : parcelSet.Slashless := by
    refine ⟨by decide, ?_⟩
    have hnamed : ∀ x ∈ parcelSet.namedMessages, x.2.name ∈ ["Parcel", "Size", "Depot"] := by
      simp only [DescriptorSet.namedMessages, FileDescriptor.namedMessages, parcelSet,
        MessageDescriptor.subtree, List.flatMap_cons, List.flatMap_nil]
      decide
    intro x hx
    have hnames : ∀ name ∈ ["Parcel", "Size", "Depot"], '/' ∉ name.toList := by decide
    exact hnames _ (hnamed x hx)
  have hpaths : files.map (·.path) = ["acme/Parcel.schema.json", "acme/Parcel/Size.schema.json"] :=
    Generation.paths_eq hforms
  obtain ⟨hwilling, houtcome⟩ := hrun _ recorder "out" []
  obtain ⟨summary, written, hsummary⟩ := hwilling recorder_willing
  obtain ⟨hwrites, hcount⟩ := (houtcome summary written).1 hsummary
  have hwritten : written = files.map fun f => (joinPath "out" f.path, f.content) :=
    recorder_writes hwrites
  refine ⟨files, hrender, hpaths, hnodup hslashless, summary, written, hsummary, ?_, ?_,
    hcount.documents, ?_⟩
  · have hjoined : written.map (·.1) = (files.map (·.path)).map (joinPath "out") := by
      rw [hwritten, List.map_map, List.map_map]
      rfl
    rw [hjoined, hpaths]
    decide
  · rw [hwritten, List.map_map]
    rfl
  · rw [hcount.files, ← hforms.length_eq, htargets]
    rfl

end Program

end ProtoSchema
