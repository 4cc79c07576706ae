import ProtoSchema.Proofs.Generation.Success

/-!
# One type in several documents

A type has one meaning, whichever document it stands in.  A definition of a message is the root of
the message's own document but for two references, which change places: the root of the one document
is a definition in the other, and the other way round.
-/

namespace ProtoSchema

namespace Schema

/-! ## 1. Redirecting twice -/

mutual

/-- Two redirections are one that leads the references of the schema to where both together do. -/
theorem redirect_redirect {f g h : Reference → Reference} (s : Schema)
    (hs : ∀ r ∈ s.references, g (f r) = h r) : (s.redirect f).redirect g = s.redirect h := by
  cases s with
  | object s =>
    obtain ⟨title, description, properties, required, additional, names, least, most⟩ := s
    rw [references, List.forall_mem_append, List.forall_mem_append] at hs
    rw [redirect, redirect, redirect, redirect_redirectNamed properties hs.1,
      redirect_redirectOption additional hs.2.1, redirect_redirectOption names hs.2.2]
  | array s =>
    obtain ⟨title, description, items, least, most, unique⟩ := s
    rw [references] at hs
    rw [redirect, redirect, redirect, redirect_redirectOption items hs]
  | allOf operands =>
    rw [references] at hs
    rw [redirect, redirect, redirect, redirect_redirectAll operands hs]
  | anyOf operands =>
    rw [references] at hs
    rw [redirect, redirect, redirect, redirect_redirectAll operands hs]
  | oneOf operands =>
    rw [references] at hs
    rw [redirect, redirect, redirect, redirect_redirectAll operands hs]
  | not s =>
    rw [references] at hs
    rw [redirect, redirect, redirect, redirect_redirect s hs]
  | ref target =>
    rw [redirect, redirect, redirect, hs target (by rw [references]; exact List.mem_singleton_self _)]
  | always | never | generic | string | integer | number | boolean => rfl

theorem redirect_redirectAll {f g h : Reference → Reference} (operands : List Schema)
    (hs : ∀ r ∈ referencesAll operands, g (f r) = h r) :
    redirectAll g (redirectAll f operands) = redirectAll h operands := by
  cases operands with
  | nil => rfl
  | cons s rest =>
    rw [referencesAll, List.forall_mem_append] at hs
    rw [redirectAll, redirectAll, redirectAll, redirect_redirect s hs.1,
      redirect_redirectAll rest hs.2]

theorem redirect_redirectNamed {f g h : Reference → Reference} (named : List (String × Schema))
    (hs : ∀ r ∈ referencesNamed named, g (f r) = h r) :
    redirectNamed g (redirectNamed f named) = redirectNamed h named := by
  cases named with
  | nil => rfl
  | cons x rest =>
    obtain ⟨key, s⟩ := x
    rw [referencesNamed, List.forall_mem_append] at hs
    rw [redirectNamed, redirectNamed, redirectNamed, redirect_redirect s hs.1,
      redirect_redirectNamed rest hs.2]

theorem redirect_redirectOption {f g h : Reference → Reference} (o : Option Schema)
    (hs : ∀ r ∈ referencesOption o, g (f r) = h r) :
    redirectOption g (redirectOption f o) = redirectOption h o := by
  cases o with
  | none => rfl
  | some s =>
    rw [referencesOption] at hs
    rw [redirectOption, redirectOption, redirectOption, redirect_redirect s hs]

end

end Schema

namespace Generation

open Draft

variable {p : Pool}

/-! ## 2. Exchanging documents -/

/-- Leads references from one document to another: the root is the definition `own` there, and the
definition `other` is the root. -/
def exchange (own other : String) : Reference → Reference
  | .root => .definition own
  | .definition key => if key = other then .root else .definition key
  | .elsewhere text h => .elsewhere text h

/-- A reference to a definition that is placed in one document and then exchanged stands where it is
placed in the other. -/
theorem exchange_place {own other : String} (h : own ≠ other) (key : String) :
    exchange own other (place own (.definition key)) = place other (.definition key) := by
  by_cases hkey : key = own
  · rw [hkey, place, if_pos rfl, exchange, place, if_neg h]
  · rw [place, if_neg hkey, exchange, place]

theorem redirect_exchange {own other : String} (h : own ≠ other) {t : Target} {s : Schema}
    (hs : (t.draft p).result = .ok s) :
    (s.redirect (place own)).redirect (exchange own other) = s.redirect (place other) := by
  apply Schema.redirect_redirect
  intro r hr
  -- What is drafted refers to definitions only, so no reference to a root is lost.
  obtain ⟨u, -, rfl⟩ := (Yields.target ⟨hs, rfl⟩).1.refersTo r hr
  exact exchange_place h u.key

/-! ## 3. Definitions of messages -/

/-- The parts of a document: the draft of its message and those of the types of the walk. -/
theorem document_parts {m : Message} {d : Document} (h : document p m = .ok d) :
    ∃ order, walk p (without m.fullName (definable p)) (((Target.message m).draft p).tasks []) =
        .ok order ∧
      (∃ s, ((Target.message m).draft p).result = .ok s ∧
        d.root = s.redirect (place (Target.message m).key)) ∧
      List.Forall₂ (fun t x => ∃ s, (t.draft p).result = .ok s ∧
        x = (t.key, s.redirect (place (Target.message m).key))) order d.definitions := by
  rw [document_eq] at h
  obtain ⟨order, hwalk, h⟩ := Except.bind_eq_ok.1 h
  obtain ⟨root, hroot, h⟩ := Except.bind_eq_ok.1 h
  obtain ⟨definitions, hdefinitions, h⟩ := Except.bind_eq_ok.1 h
  rw [← Except.pure_eq_ok.1 h]
  refine ⟨order, hwalk, ⟨root, hroot, rfl⟩, (Except.mapM_eq_ok.1 hdefinitions).imp ?_⟩
  exact fun t x => definition_eq_ok.1

theorem keys_of_drafts {key : String} {order : List Target} {definitions : List (String × Schema)}
    (h : List.Forall₂ (fun t x => ∃ s, (t.draft p).result = .ok s ∧
      x = (t.key, s.redirect (place key))) order definitions) :
    definitions.map (·.1) = order.map Target.key := by
  refine map_eq_of_forall₂ ?_ h
  rintro t x ⟨s, -, rfl⟩
  rfl

/-- The type of a walk that has the key of a message is the message, unless a shared type bears its
name. -/
theorem eq_message_of_key (hp : p.Sound) {m : Message} (hm : m ∈ p.messages)
    (hfresh : ∀ w : WellKnownType, m.fullName ≠ w.fullName) {t : Target} (ht : t.Known p)
    (h : t.key = (Target.message m).key) : t = .message m := by
  obtain ⟨hmessages, -, hboth⟩ := hp.declared_inj
  have hown : (Target.message m).Known p := hm
  have hname : t.fullName = m.fullName := (ht.key_inj hp hown).1 h
  cases t with
  | message n => rw [hmessages n ht m hm hname]
  | enum e => exact absurd hname.symm (hboth m hm e ht)
  | shared s => exact absurd hname.symm (hfresh s.wellKnown)

/-- A message that a document defines has a document of its own, and its definition there is the
root here, once the references are exchanged. -/
theorem definition_exchange {set : DescriptorSet} {p : Pool} (hset : Pool.ofSet set = .ok p)
    {a t : Message} (ha : a ∈ p.messages) (ht : t ∈ p.messages)
    (hfresh : ∀ w : WellKnownType, t.fullName ≠ w.fullName) {d : Document}
    (hd : document p a = .ok d) (hkey : (Target.message t).key ∈ definitionKeys d) :
    ∃ d' s, document p t = .ok d' ∧ d.definitions.lookup (Target.message t).key = some s ∧
      s.redirect (exchange (Target.message a).key (Target.message t).key) = d'.root := by
  have hp := Pool.ofSet_sound hset
  obtain ⟨order, hwalk, -, hdefinitions⟩ := document_parts hd
  obtain ⟨-, hvisits, -⟩ := walk_message hwalk
  obtain ⟨hnodup, hown⟩ := visits_keys hp ha hvisits
  have hkeys : d.definitions.map (·.1) = order.map Target.key := keys_of_drafts hdefinitions
  rw [definitionKeys, hkeys] at hkey
  -- The definition of that key is the definition of the message.
  obtain ⟨u, hu, hukey⟩ := List.mem_map.1 hkey
  obtain rfl := eq_message_of_key hp ht hfresh (visits_known hvisits u hu) hukey
  obtain ⟨x, hx, s, hs, rfl⟩ := forall₂_exists_right hdefinitions hu
  -- What the message reaches is reached from the first one too, so it can all be drafted.
  obtain ⟨r, hr, hreach⟩ := hvisits.reached _ hu
  have hreaches : Reaches p (.message a) (.message t) := .head hr hreach
  have hdrafts := (document_ok_iff_drafts hp ha).1 ⟨d, hd⟩
  obtain ⟨d', hd'⟩ := (document_ok_iff_drafts hp ht).2 fun m' hm' =>
    hdrafts m' (hreaches.trans hm')
  obtain ⟨-, -, ⟨s', hs', hroot⟩, -⟩ := document_parts hd'
  cases hs.symm.trans hs'
  have hne : (Target.message a).key ≠ (Target.message t).key := by
    intro he
    rw [he] at hown
    exact hown hkey
  refine ⟨d', _, hd', lookup_of_mem (hkeys ▸ hnodup) hx, ?_⟩
  rw [hroot]
  exact redirect_exchange hne hs

/-! ## 4. Messages that contain each other -/

def ledgerDescriptor : MessageDescriptor :=
  { name := "Ledger", oneofs := [], messages := [], enums := []
    fields := [plainField "entries" (.repeated (.message "acme.Entry"))] }

def entryDescriptor : MessageDescriptor :=
  { name := "Entry", oneofs := [], messages := [], enums := []
    fields := [plainField "ledger" (.message "acme.Ledger"),
      plainField "kind" (.enum "acme.Kind")] }

def ledgerFile (messages : List MessageDescriptor) : FileDescriptor :=
  { name := "ledger.proto", package := "acme", messages
    enums := [⟨"Kind", [⟨"DEBIT", 0⟩, ⟨"CREDIT", 1⟩]⟩] }

def ledgerSet : DescriptorSet :=
  { filesToGenerate := [], files := [ledgerFile [ledgerDescriptor, entryDescriptor]] }

def ledgerMessage : Message where
  fullName := ".acme.Ledger"
  name := "Ledger"
  oneofs := []
  fields := ledgerDescriptor.fields.map Field.ofDescriptor

def entryMessage (fullName : String) : Message where
  fullName
  name := "Entry"
  oneofs := []
  fields := entryDescriptor.fields.map Field.ofDescriptor

def ledgerKind : EnumType := ⟨".acme.Kind", [⟨"DEBIT", 0⟩, ⟨"CREDIT", 1⟩]⟩

def ledgerPool : Pool :=
  ⟨[ledgerMessage, entryMessage ".acme.Entry"], [ledgerKind], [".acme.Ledger", ".acme.Entry"]⟩

theorem ledgerPool_built : Pool.ofSet ledgerSet = .ok ledgerPool := by
  simp only [Pool.ofSet, ledgerSet, ledgerFile, ledgerDescriptor, entryDescriptor,
    DescriptorSet.declarations, messageDeclarations, enumDeclarations, List.flatMap_cons,
    List.flatMap_nil]
  rfl

theorem ledgerPool_walk :
    walk ledgerPool (without ledgerMessage.fullName (definable ledgerPool))
      (((Target.message ledgerMessage).draft ledgerPool).tasks []) =
      .ok [.message (entryMessage ".acme.Entry"), .enum ledgerKind] := by
  have hledger : ((Target.message ledgerMessage).draft ledgerPool).tasks [] =
      [.visit ⟨.message (entryMessage ".acme.Entry"), ["acme.Ledger", "entries", "items"]⟩] := rfl
  have hentry : ((Target.message (entryMessage ".acme.Entry")).draft ledgerPool).tasks
      ["acme.Ledger", "entries", "items"] =
      [.visit ⟨.message ledgerMessage,
          ["acme.Ledger", "entries", "items", "acme.Entry", "ledger"]⟩,
        .visit ⟨.enum ledgerKind,
          ["acme.Ledger", "entries", "items", "acme.Entry", "kind"]⟩] := rfl
  have hkind : ((Target.enum ledgerKind).draft ledgerPool).tasks
      ["acme.Ledger", "entries", "items", "acme.Entry", "kind"] = [] := rfl
  rw [hledger, walk, if_pos (by decide), hentry, List.append_nil, walk, if_neg (by decide), walk,
    if_pos (by decide), hkind, List.append_nil, walk]
  rfl

/-- The definition of an entry in the document of its ledger, and the root of its own document. -/
theorem ledger_exchange :
    ∃ d d' s, document ledgerPool ledgerMessage = .ok d ∧
      document ledgerPool (entryMessage ".acme.Entry") = .ok d' ∧
      d.definitions.lookup "acme.Entry" = some s ∧
      s.redirect (exchange "acme.Ledger" "acme.Entry") = d'.root := by
  have hledger : ledgerMessage ∈ ledgerPool.messages := List.mem_cons_self
  have hentry : entryMessage ".acme.Entry" ∈ ledgerPool.messages :=
    List.mem_cons_of_mem _ List.mem_cons_self
  have hfresh : ∀ w : WellKnownType, (entryMessage ".acme.Entry").fullName ≠ w.fullName := by
    intro w
    cases w <;> decide
  obtain ⟨d, hd, hkeys, -⟩ := document_of_walk ledgerPool_walk
  have hkey : (Target.message (entryMessage ".acme.Entry")).key ∈ definitionKeys d := by
    rw [definitionKeys, hkeys]
    exact List.mem_cons_self
  obtain ⟨d', s, hd', hlookup, hroot⟩ :=
    definition_exchange ledgerPool_built hledger hentry hfresh hd hkey
  exact ⟨d, d', s, hd, hd', hlookup, hroot⟩

end Generation

end ProtoSchema
