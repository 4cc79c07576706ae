import ProtoSchema.Proofs.Generation.Activations

/-!
# Translations that keep a stack

A translation keeps a stack with the names of the parts that it is in, which is the path of a fault.
A part is translated with its name on the stack, and a definition is built in the midst of the field
that first refers to it.  Whatever comes of a translation, it leaves the stack as it found it.
-/

namespace ProtoSchema.Generation

open Draft

variable {α β : Type}

/-! ## 1. Translations -/

/-- What a translation keeps: the names of the parts that it is in, the outermost first, and the
definitions. -/
structure Context where
  stack : List String
  registry : Registry

/-- Steps that may fail.  What they did to the context before is not undone. -/
abbrev Translator := ExceptT Fault (StateM Context)

namespace Translator

/-- What comes of the steps, and the context after them. -/
def run (x : Translator α) (ctx : Context) : Except Fault α × Context :=
  StateT.run (ExceptT.run x) ctx

theorem ext {x y : Translator α} (h : ∀ ctx, x.run ctx = y.run ctx) : x = y := funext h

theorem run_bind (x : Translator α) (f : α → Translator β) (ctx : Context) :
    run (x >>= f) ctx =
      match x.run ctx with
      | (.ok a, after) => (f a).run after
      | (.error e, after) => (.error e, after) := by
  unfold run ExceptT.run StateT.run
  simp only [bind, ExceptT.bind, ExceptT.mk, StateT.bind, ExceptT.bindCont]
  cases x ctx with
  | mk r after => cases r <;> rfl

theorem run_bind_ok {x : Translator α} {f : α → Translator β} {ctx after : Context} {a : α}
    (h : x.run ctx = (.ok a, after)) : run (x >>= f) ctx = (f a).run after := by
  rw [run_bind, h]

theorem run_bind_error {x : Translator α} {f : α → Translator β} {ctx after : Context} {e : Fault}
    (h : x.run ctx = (.error e, after)) : run (x >>= f) ctx = (.error e, after) := by
  rw [run_bind, h]

/-! ### What translations consist of -/

/-- Takes over a result, or fails where the translation is. -/
def conclude (r : Except Fault α) : Translator α :=
  match r with
  | .ok x => pure x
  | .error f => do throw { f with path := (← get).stack ++ f.path }

/-- Translates a part with its name on the stack, and takes one name off the stack afterwards,
whether or not the part fails. -/
def within (segment : String) (x : Translator α) : Translator α := ExceptT.mk do
  modify fun ctx => { ctx with stack := ctx.stack ++ [segment] }
  let r ← x.run
  modify fun ctx => { ctx with stack := ctx.stack.dropLast }
  return r

/-- Reserves a key, and tells whether it is new. -/
def reserve (key : String) : Translator Bool := do
  match (← get).registry.reserve key with
  | some registry =>
    modify fun ctx => { ctx with registry }
    return true
  | none => return false

def fulfill (key : String) (s : Schema) : Translator Unit :=
  modify fun ctx => { ctx with registry := ctx.registry.fulfill key s }

/-- A reference to a type in the document of a message.  Any other type is built where it is first
referred to. -/
def refTo (m : Message) (build : Target → Translator Schema) (t : Target) : Translator Schema := do
  if t.fullName = m.fullName then return .ref .root
  if ← reserve t.key then
    let s ← build t
    fulfill t.key s
  return .ref (.definition t.key)

theorem run_conclude_error (f : Fault) (ctx : Context) :
    run (conclude (.error f) : Translator α) ctx =
      (.error { f with path := ctx.stack ++ f.path }, ctx) := rfl

theorem run_reserve (key : String) (ctx : Context) :
    run (reserve key) ctx =
      match ctx.registry.reserve key with
      | some registry => (.ok true, { ctx with registry })
      | none => (.ok false, ctx) := by
  refine (run_bind_ok (rfl : run get ctx = (.ok ctx, ctx))).trans ?_
  cases ctx.registry.reserve key <;> rfl

theorem run_within (segment : String) (x : Translator α) (ctx : Context) :
    run (within segment x) ctx =
      let y := x.run { ctx with stack := ctx.stack ++ [segment] }
      (y.1, { y.2 with stack := y.2.stack.dropLast }) := rfl

section Reference

variable {m : Message} {build : Target → Translator Schema} {t : Target} {ctx : Context}

theorem run_refTo_root (h : t.fullName = m.fullName) :
    run (refTo m build t) ctx = (.ok (.ref .root), ctx) := by
  unfold refTo
  rw [if_pos h]
  rfl

theorem run_refTo_known (h : t.fullName ≠ m.fullName) (hkey : ctx.registry.reserve t.key = none) :
    run (refTo m build t) ctx = (.ok (.ref (.definition t.key)), ctx) := by
  have hreserve : run (reserve t.key) ctx = (.ok false, ctx) := by
    rw [run_reserve, hkey]
  unfold refTo
  rw [if_neg h]
  exact run_bind_ok hreserve

/-- A type that is new is built with its key reserved. -/
theorem run_refTo_new (h : t.fullName ≠ m.fullName) {registry : Registry}
    (hkey : ctx.registry.reserve t.key = some registry) :
    run (refTo m build t) ctx =
      match (build t).run { ctx with registry } with
      | (.ok s, after) =>
        (.ok (.ref (.definition t.key)),
          { after with registry := after.registry.fulfill t.key s })
      | (.error e, after) => (.error e, after) := by
  have hreserve : run (reserve t.key) ctx = (.ok true, { ctx with registry }) := by
    rw [run_reserve, hkey]
  unfold refTo
  rw [if_neg h]
  refine (run_bind_ok hreserve).trans ?_
  rw [if_pos rfl]
  cases hbuild : (build t).run { ctx with registry } with
  | mk r after =>
    cases r with
    | error e => exact run_bind_error hbuild
    | ok s => exact run_bind_ok hbuild

end Reference

/-! ## 2. Translations that restore the stack -/

/-- The stack is the same afterwards, whether or not the translation fails. -/
def Restores (x : Translator α) : Prop := ∀ ctx, (x.run ctx).2.stack = ctx.stack

theorem restores_pure (x : α) : Restores (pure x) := fun _ => rfl

theorem restores_conclude (r : Except Fault α) : Restores (conclude r) := by
  intro ctx
  cases r <;> rfl

theorem Restores.bind {x : Translator α} {f : α → Translator β} (hx : Restores x)
    (hf : ∀ a, Restores (f a)) : Restores (x >>= f) := by
  intro ctx
  have hstack := hx ctx
  rw [run_bind]
  cases hrun : x.run ctx with
  | mk r after =>
    rw [hrun] at hstack
    cases r with
    | error e => exact hstack
    | ok a => exact (hf a after).trans hstack

theorem Restores.within {x : Translator α} (h : Restores x) (segment : String) :
    Restores (within segment x) := by
  intro ctx
  show (x.run { ctx with stack := ctx.stack ++ [segment] }).2.stack.dropLast = ctx.stack
  rw [h, List.dropLast_concat]

theorem restores_refTo {m : Message} {build : Target → Translator Schema} {t : Target}
    (h : Restores (build t)) : Restores (refTo m build t) := by
  intro ctx
  by_cases hname : t.fullName = m.fullName
  · rw [run_refTo_root hname]
  · cases hkey : ctx.registry.reserve t.key with
    | none => rw [run_refTo_known hname hkey]
    | some registry =>
      have hstack := h { ctx with registry }
      rw [run_refTo_new hname hkey]
      cases hbuild : (build t).run { ctx with registry } with
      | mk r after =>
        rw [hbuild] at hstack
        cases r <;> exact hstack

theorem restores_forM {f : α → Translator PUnit} {xs : List α} (h : ∀ x ∈ xs, Restores (f x)) :
    Restores (forM xs f) := by
  induction xs with
  | nil => exact restores_pure _
  | cons x xs ih =>
    obtain ⟨hhead, htail⟩ := List.forall_mem_cons.1 h
    rw [List.forM_cons]
    exact hhead.bind fun _ => ih htail

/-! ## 3. Drafts as translations -/

variable {refer : Target → Translator Schema}

/-- Refers to a type where the draft uses it. -/
def visit (refer : Target → Translator Schema) (u : Use) : Translator PUnit :=
  u.path.foldr within (refer u.target >>= fun _ => pure ⟨⟩)

/-- Refers to all that the draft uses, and comes to its result. -/
def play (refer : Target → Translator Schema) (d : Draft α) : Translator α := do
  forM d.uses (visit refer)
  conclude d.result

section Restores

variable (hrefer : ∀ t, Restores (refer t))
include hrefer

theorem restores_visit (u : Use) : Restores (visit refer u) := by
  unfold visit
  induction u.path with
  | nil => exact (hrefer _).bind fun _ => restores_pure _
  | cons segment path ih => exact ih.within segment

theorem restores_play (d : Draft α) : Restores (play refer d) :=
  (restores_forM fun u _ => restores_visit hrefer u).bind fun _ => restores_conclude _

end Restores

/-! ### Laws -/

theorem within_pure (segment : String) (x : α) : within segment (pure x) = pure x := by
  refine ext fun ctx => ?_
  rw [run_within]
  show (Except.ok x, ({ ctx with stack := (ctx.stack ++ [segment]).dropLast } : Context)) = _
  rw [List.dropLast_concat]
  rfl

/-- What is translated within a part in two steps is translated there step by step. -/
theorem within_bind {x : Translator α} (hx : Restores x) (segment : String)
    (f : α → Translator β) :
    within segment (x >>= f) = within segment x >>= fun a => within segment (f a) := by
  refine ext fun ctx => ?_
  have hstack := hx { ctx with stack := ctx.stack ++ [segment] }
  rw [run_within, run_bind, run_bind, run_within]
  cases hrun : x.run { ctx with stack := ctx.stack ++ [segment] } with
  | mk r after =>
    rw [hrun] at hstack
    obtain ⟨stack, registry⟩ := after
    replace hstack : stack = ctx.stack ++ [segment] := hstack
    subst hstack
    cases r with
    | error e => rfl
    | ok a => simp only [run_within, List.dropLast_concat]

theorem within_conclude (segment : String) (r : Except Fault α) :
    within segment (conclude r) =
      conclude (r.mapError fun f => { f with path := segment :: f.path }) := by
  cases r with
  | ok x => exact within_pure segment x
  | error f =>
    refine ext fun ctx => ?_
    rw [run_within]
    show (Except.error ({ f with path := ctx.stack ++ [segment] ++ f.path } : Fault),
      ({ ctx with stack := (ctx.stack ++ [segment]).dropLast } : Context)) = _
    rw [List.dropLast_concat, List.append_assoc]
    rfl

theorem within_forM {f : α → Translator PUnit} {xs : List α} (h : ∀ x ∈ xs, Restores (f x))
    (segment : String) : within segment (forM xs f) = forM xs (fun x => within segment (f x)) := by
  induction xs with
  | nil => exact within_pure segment _
  | cons x xs ih =>
    obtain ⟨hhead, htail⟩ := List.forall_mem_cons.1 h
    rw [List.forM_cons, List.forM_cons, within_bind hhead, ih htail]

theorem conclude_error_bind (e : Fault) (f : α → Translator β) :
    conclude (.error e) >>= f = conclude (.error e) :=
  ext fun ctx => run_bind_error (run_conclude_error e ctx)

theorem play_pure (x : α) : play refer (pure x) = pure x := pure_bind _ _

theorem play_fail (cause : Cause) :
    play refer (fail cause : Draft α) = conclude (.error ⟨[], cause⟩) := pure_bind _ _

theorem play_bind (d : Draft α) (f : α → Draft β) :
    play refer (d >>= f) = play refer d >>= fun x => play refer (f x) := by
  show play refer (d.andThen f) = _
  unfold play
  cases h : d.result with
  | error e =>
    rw [andThen_error h, bind_assoc]
    rw [conclude_error_bind]
  | ok x =>
    rw [andThen_ok h, bind_assoc, List.forM_append, bind_assoc]
    rfl

theorem play_inside (hrefer : ∀ t, Restores (refer t)) (segment : String) (d : Draft α) :
    play refer (d.inside segment) = within segment (play refer d) := by
  have huses : ∀ u ∈ d.uses, Restores (visit refer u) := fun u _ => restores_visit hrefer u
  unfold play
  rw [within_bind (restores_forM huses), within_forM huses, within_conclude]
  show forM (d.uses.map fun u => { u with path := segment :: u.path }) (visit refer) >>= _ = _
  rw [List.forM_map]
  rfl

theorem play_mapM (f : α → Draft β) (xs : List α) :
    play refer (xs.mapM f) = xs.mapM fun x => play refer (f x) := by
  induction xs with
  | nil => exact play_pure []
  | cons x xs ih =>
    rw [List.mapM_cons, List.mapM_cons, play_bind]
    congr 1
    funext y
    rw [play_bind, ih]
    rfl

/-! ## 4. Translations of the declarations -/

section Declarations

variable (p : Pool) (refer : Target → Translator Schema)

def ofRepeated (item : ElementType) (c : FieldConstraints) : Translator Schema := do
  let rules ← play refer (rulesFor "repeated" (fun | .repeated r => some r | _ => none) c)
  let r := rules.getD {}
  let items ← within "items" (play refer (elementSchema p item (partConstraints r.items)))
  return .array
    { items := some items, minItems := r.minItems, maxItems := r.maxItems
      uniqueItems := r.unique }

def ofKeys (key : ScalarKind) (c : Option FieldConstraints) : Translator (Option Schema) :=
  match c with
  | none => return none
  | some c => do
    let s ← within "keys" (play refer (scalarSchema key c.inForce))
    return if key = .string ∧ c.inForce.string.isSome then some s else none

def ofEntries (key : ScalarKind) (value : ElementType) (c : FieldConstraints) :
    Translator Schema := do
  let rules ← play refer (rulesFor "map" (fun | .map r => some r | _ => none) c)
  let r := rules.getD {}
  let values ← within "values" (play refer (elementSchema p value (partConstraints r.values)))
  let names ← ofKeys refer key r.keys
  return .object
    { additionalProperties := some values, propertyNames := names
      minProperties := r.minPairs, maxProperties := r.maxPairs }

def ofMap (key : ScalarKind) (value : ElementType) (c : FieldConstraints) : Translator Schema :=
  if key.isMapKey then ofEntries p refer key value c else conclude (.error ⟨[], .mapKey key⟩)

def ofField (f : Field) : Translator Schema :=
  match f.type with
  | .map key value => ofMap p refer key value f.constraints.inForce
  | .repeated item => ofRepeated p refer item f.constraints.inForce
  | .scalar _ | .enum _ | .message _ => play refer (fieldSchema p f)

def ofProperty (f : Field) : Translator (String × Schema) := do
  return (f.jsonName, ← within f.name (ofField p refer f))

def ofMessage (m : Message) : Translator Schema := do
  let properties ← m.fields.mapM (ofProperty p refer)
  let object : ObjectKeywords Schema :=
    { properties
      required := (m.fields.filter isRequired).map (·.jsonName)
      additionalProperties := some .never }
  return .conjunction (.object object :: oneofChoices m)

/-- The schema of a definition.  That of a message has the key of the message on the stack. -/
def ofDefinition : Target → Translator Schema
  | .message m => within (Target.message m).key (ofMessage p refer m)
  | .enum e => return EnumType.schema e
  | .shared t => play refer t.schema

end Declarations

variable {p : Pool}

section Plays

variable (hrefer : ∀ t, Restores (refer t))
include hrefer

theorem ofRepeated_eq (item : ElementType) (c : FieldConstraints) :
    ofRepeated p refer item c = play refer (repeatedSchema p item c) := by
  refine ((play_bind _ _).trans (bind_congr fun rules => ?_)).symm
  rw [play_bind, play_inside hrefer]
  exact bind_congr fun items => play_pure _

theorem ofKeys_eq (key : ScalarKind) (c : Option FieldConstraints) :
    ofKeys refer key c = play refer (keySchema key c) := by
  cases c with
  | none => exact (play_pure none).symm
  | some c =>
    unfold keySchema ofKeys
    simp only [play_bind, play_inside hrefer, play_pure]

theorem ofMap_eq (key : ScalarKind) (value : ElementType) (c : FieldConstraints) :
    ofMap p refer key value c = play refer (mapSchema p key value c) := by
  unfold ofMap mapSchema
  cases key.isMapKey with
  | false =>
    refine Eq.symm ((play_bind _ _).trans ?_)
    rw [play_fail]
    exact conclude_error_bind _ _
  | true =>
    refine Eq.symm ((play_bind _ _).trans (bind_congr fun rules => ?_))
    rw [play_bind, play_inside hrefer]
    refine bind_congr fun values => ?_
    rw [play_bind, ofKeys_eq hrefer]
    exact bind_congr fun names => play_pure _

theorem ofField_eq (f : Field) : ofField p refer f = play refer (fieldSchema p f) := by
  unfold ofField
  cases htype : f.type with
  | map key value =>
    unfold fieldSchema
    rw [htype]
    exact ofMap_eq hrefer key value _
  | repeated item =>
    unfold fieldSchema
    rw [htype]
    exact ofRepeated_eq hrefer item _
  | _ => rfl

theorem ofProperty_eq (f : Field) :
    ofProperty p refer f = play refer (property p f) := by
  unfold property ofProperty
  simp only [play_bind, play_inside hrefer, play_pure, ofField_eq hrefer]

theorem ofMessage_eq (m : Message) : ofMessage p refer m = play refer (messageSchema p m) := by
  unfold messageSchema ofMessage
  rw [funext (ofProperty_eq hrefer)]
  simp only [play_bind, play_mapM, play_pure]

theorem ofDefinition_eq (t : Target) : ofDefinition p refer t = play refer (t.draft p) := by
  cases t with
  | message m =>
    exact (congrArg (within _) (ofMessage_eq hrefer m)).trans (play_inside hrefer _ _).symm
  | enum e => exact (play_pure _).symm
  | shared s => rfl

end Plays

/-- Every translation of a part restores the stack. -/
structure RestoresAll (p : Pool) (refer : Target → Translator Schema) : Prop where
  reference : ∀ t, Restores (refer t)
  /-- Scalars, enums, embedded messages and rules, as fields or as elements. -/
  leaf : ∀ {α : Type} (d : Draft α), Restores (play refer d)
  repeated : ∀ item c, Restores (ofRepeated p refer item c)
  keys : ∀ key c, Restores (ofKeys refer key c)
  map : ∀ key value c, Restores (ofMap p refer key value c)
  field : ∀ f, Restores (ofField p refer f)
  property : ∀ f, Restores (ofProperty p refer f)
  message : ∀ m, Restores (ofMessage p refer m)
  definition : ∀ t, Restores (ofDefinition p refer t)

theorem restoresAll (hrefer : ∀ t, Restores (refer t)) : RestoresAll p refer where
  reference := hrefer
  leaf := restores_play hrefer
  repeated item c := ofRepeated_eq hrefer item c ▸ restores_play hrefer _
  keys key c := ofKeys_eq hrefer key c ▸ restores_play hrefer _
  map key value c := ofMap_eq hrefer key value c ▸ restores_play hrefer _
  field f := ofField_eq hrefer f ▸ restores_play hrefer _
  property f := ofProperty_eq hrefer f ▸ restores_play hrefer _
  message m := ofMessage_eq hrefer m ▸ restores_play hrefer _
  definition t := ofDefinition_eq hrefer t ▸ restores_play hrefer _

/-! ## 5. Definitions inside each other -/

/-- The schema of a type in the document of a message, where types are built inside each other to a
depth. -/
def build (p : Pool) (m : Message) : Nat → Target → Translator Schema
  | 0, _ => return .never
  | depth + 1, t => do
    let s ← ofDefinition p (refTo m (build p m depth)) t
    return s.redirect (place (Target.message m).key)

theorem restores_build (p : Pool) (m : Message) (depth : Nat) (t : Target) :
    Restores (build p m depth t) := by
  induction depth generalizing t with
  | zero => exact restores_pure _
  | succ depth ih =>
    have hall : RestoresAll p (refTo m (build p m depth)) :=
      restoresAll fun u => restores_refTo (ih u)
    exact (hall.definition t).bind fun _ => restores_pure _

/-- What a translation refers to at a depth restores the stack. -/
theorem restores_refer (p : Pool) (m : Message) (depth : Nat) (t : Target) :
    Restores (refTo m (build p m depth) t) :=
  restores_refTo (restores_build p m depth t)

/-- The translation of a message: its own definition, and those that are built in the midst of it.
No type is built inside itself, so the depth is at most the number of types. -/
def translate (p : Pool) (m : Message) : Outcome :=
  match (build p m ((definable p).length + 1) (.message m)).run ⟨[], []⟩ with
  | (.error f, _) => .fault f
  | (.ok root, after) =>
    match after.registry.finish with
    | .ok definitions => .document { root, definitions }
    | .error key => .unbuilt key

end Translator

end ProtoSchema.Generation
