import ProtoSchema.Proofs.Generation.FaultPaths
import ProtoSchema.Proofs.Generation.Translation

/-!
# Breadcrumbs

What a translation comes to is the document of the message or its fault, so the stack that a
translation keeps tells the path of the fault: a walk through the declarations.
-/

namespace ProtoSchema.Generation

open Draft

variable {α : Type}

/-! ## 1. Steps -/

namespace Progress

variable {p : Pool} {m : Message} {s s' : Progress}

section Next

variable {u : Use} {uses : List Use} {result : Except Fault Schema}

theorem next_pass (hrest : s.current.rest = ⟨u :: uses, result⟩) (hold : s.Settled m u.target) :
    next p m s = .inl (s.pass ⟨uses, result⟩) := by
  unfold next
  rw [hrest]
  dsimp only
  by_cases hname : u.target.fullName = m.fullName
  · rw [if_pos hname]
  · have hreserve : (s.pass ⟨uses, result⟩).registry.reserve u.target.key = none :=
      if_pos (hold.resolve_left hname)
    rw [if_neg hname, hreserve]

theorem next_enter (hrest : s.current.rest = ⟨u :: uses, result⟩)
    (hnew : ¬ s.Settled m u.target) :
    next p m s =
      .inl ((s.pass ⟨uses, result⟩).enter p u (s.registry ++ [(u.target.key, none)])) := by
  obtain ⟨hname, hkey⟩ := not_or.1 hnew
  have hreserve : (s.pass ⟨uses, result⟩).registry.reserve u.target.key =
      some (s.registry ++ [(u.target.key, none)]) := if_neg hkey
  unfold next
  rw [hrest]
  dsimp only
  rw [if_neg hname, hreserve]

end Next

theorem next_leave {schema : Schema} {caller : Activation} {callers : List Activation}
    (hrest : s.current.rest = ⟨[], .ok schema⟩) (hcallers : s.callers = caller :: callers) :
    next p m s =
      .inl (s.leave (schema.redirect (place (Target.message m).key)) caller callers) := by
  unfold next
  rw [hrest, hcallers]

theorem Invariant.steps {remaining : List String} {order : List Target} (hp : p.Sound)
    (h : Invariant p m remaining order s) (hsteps : Steps p m s s') :
    ∃ remaining' order', Invariant p m remaining' order' s' ∧
      remaining'.length ≤ remaining.length := by
  induction hsteps with
  | refl => exact ⟨remaining, order, h, le_rfl⟩
  | tail _ hnext ih =>
    obtain ⟨remaining', order', h', hle⟩ := ih
    obtain ⟨remaining'', order'', h'', hless⟩ := h'.step hp (.of_next hnext)
    refine ⟨remaining'', order'', h'', le_trans ?_ hle⟩
    rcases Prod.lex_iff.1 hless with hlt | ⟨he, -⟩
    · exact hlt.le
    · exact he.le

end Progress

/-! ## 2. Translations take the steps of documents -/

namespace Translator

variable {p : Pool} {m : Message} {s : Progress} {refer : Target → Translator Schema}

open Progress (Steps Invariant Ends)

/-- The steps from a state come to what a translation comes to: the result of the current
activation, which waits for nothing more, or the fault. -/
inductive Follows (p : Pool) (m : Message) (s : Progress) : Except Fault Schema × Context → Prop
  | done {s' : Progress} {schema : Schema} (hsteps : Steps p m s s')
      (hcallers : s'.callers = s.callers)
      (hcurrent : s'.current = { s.current with rest := ⟨[], .ok schema⟩ }) :
      Follows p m s (.ok schema, ⟨s.current.path, s'.registry⟩)
  | failed {s' : Progress} {f : Fault} {ctx : Context} (hsteps : Steps p m s s')
      (hends : Ends m s' (.fault f)) : Follows p m s (.error f, ctx)

/-- Steps that come back to the current activation may be taken first. -/
theorem Follows.after {s₁ : Progress} {x : Except Fault Schema × Context} (h : Follows p m s₁ x)
    (hsteps : Steps p m s s₁) (hcallers : s₁.callers = s.callers) {rest : Draft Schema}
    (hcurrent : s₁.current = { s.current with rest }) : Follows p m s x := by
  cases h with
  | @done s' schema hsteps' hcallers' hcurrent' =>
    have hpath : s₁.current.path = s.current.path := by rw [hcurrent]
    rw [hpath]
    refine .done (hsteps.trans hsteps') (hcallers'.trans hcallers) ?_
    rw [hcurrent', hcurrent]
  | failed hsteps' hends => exact .failed (hsteps.trans hsteps') hends

theorem run_foldr_within {x : Translator α} (hx : Restores x) (path : List String)
    (ctx : Context) :
    run (path.foldr within x) ctx =
      let y := x.run { ctx with stack := ctx.stack ++ path }
      (y.1, { y.2 with stack := ctx.stack }) := by
  induction path generalizing ctx with
  | nil =>
    have hstack := hx ctx
    rw [List.append_nil]
    show x.run ctx = ((x.run ctx).1, { (x.run ctx).2 with stack := ctx.stack })
    rw [← hstack]
  | cons segment path ih =>
    rw [List.foldr_cons, run_within, ih]
    simp only [List.append_assoc, List.singleton_append, List.dropLast_concat]

/-- To come to a use is to refer to its type with the path of the use on the stack. -/
theorem run_visit (hrefer : ∀ t, Restores (refer t)) (u : Use) (ctx : Context) :
    run (visit refer u) ctx =
      let y := (refer u.target).run { ctx with stack := ctx.stack ++ u.path }
      (y.1.map fun _ => ⟨⟩, { y.2 with stack := ctx.stack }) := by
  unfold visit
  rw [run_foldr_within ((hrefer _).bind fun _ => restores_pure _), run_bind]
  cases (refer u.target).run { ctx with stack := ctx.stack ++ u.path } with
  | mk r after => cases r <;> rfl

theorem play_cons (u : Use) (uses : List Use) (result : Except Fault α) :
    play refer ⟨u :: uses, result⟩ = visit refer u >>= fun _ => play refer ⟨uses, result⟩ := by
  unfold play
  rw [List.forM_cons, bind_assoc]

theorem run_build (depth : Nat) (t : Target) (ctx : Context) :
    run (build p m (depth + 1) t) ctx =
      match (play (refTo m (build p m depth)) (t.draft p)).run ctx with
      | (.ok schema, after) => (.ok (schema.redirect (place (Target.message m).key)), after)
      | (.error f, after) => (.error f, after) := by
  unfold build
  rw [ofDefinition_eq (restores_refer p m depth), run_bind]
  cases (play (refTo m (build p m depth)) (t.draft p)).run ctx with
  | mk r after => cases r <;> rfl

/-- A type that is not new is referred to without a change. -/
theorem run_refTo_settled {t : Target} (h : s.Settled m t) (build : Target → Translator Schema)
    (stack : List String) :
    ∃ schema, run (refTo m build t) ⟨stack, s.registry⟩ = (.ok schema, ⟨stack, s.registry⟩) := by
  by_cases hname : t.fullName = m.fullName
  · exact ⟨_, run_refTo_root hname⟩
  · exact ⟨_, run_refTo_known hname (if_pos (h.resolve_left hname))⟩

/-- A type that is new is built, and its schema takes the place of its key. -/
theorem run_refTo_unsettled {t : Target} (h : ¬ s.Settled m t) (depth : Nat)
    (stack : List String) :
    run (refTo m (build p m (depth + 1)) t) ⟨stack, s.registry⟩ =
      match (play (refTo m (build p m depth)) (t.draft p)).run
        ⟨stack, s.registry ++ [(t.key, none)]⟩ with
      | (.ok schema, after) =>
        (.ok (.ref (.definition t.key)),
          { after with
            registry := after.registry.fulfill t.key
              (schema.redirect (place (Target.message m).key)) })
      | (.error f, after) => (.error f, after) := by
  obtain ⟨hname, hkey⟩ := not_or.1 h
  have hreserve : s.registry.reserve t.key = some (s.registry ++ [(t.key, none)]) := if_neg hkey
  rw [run_refTo_new hname hreserve, run_build]
  cases (play (refTo m (build p m depth)) (t.draft p)).run
    ⟨stack, s.registry ++ [(t.key, none)]⟩ with
  | mk r after => cases r <;> rfl

section Use

variable {u : Use} {uses : List Use} {result : Except Fault Schema} {depth : Nat}
  (hrest : s.current.rest = ⟨u :: uses, result⟩)
include hrest

/-- Where the type of a use is not new, the draft goes on as it would without the use. -/
theorem follows_pass (hold : s.Settled m u.target)
    (hafter : Follows p m (s.pass ⟨uses, result⟩)
      ((play (refTo m (build p m depth)) ⟨uses, result⟩).run ⟨s.current.path, s.registry⟩)) :
    Follows p m s
      ((play (refTo m (build p m depth)) ⟨u :: uses, result⟩).run
        ⟨s.current.path, s.registry⟩) := by
  obtain ⟨schema, hschema⟩ := run_refTo_settled hold (build p m depth) (s.current.path ++ u.path)
  have hvisit : run (visit (refTo m (build p m depth)) u) ⟨s.current.path, s.registry⟩ =
      (.ok ⟨⟩, ⟨s.current.path, s.registry⟩) := by
    rw [run_visit (restores_refer p m depth), hschema]
    rfl
  rw [play_cons, run_bind_ok hvisit]
  exact hafter.after (.single (Progress.next_pass hrest hold)) rfl rfl

/-- Where it is new, the type is built in an activation of its own, at a depth that is one less, and
the draft goes on after that. -/
theorem follows_enter (hnew : ¬ s.Settled m u.target)
    (hbuilt : Follows p m
      ((s.pass ⟨uses, result⟩).enter p u (s.registry ++ [(u.target.key, none)]))
      ((play (refTo m (build p m depth)) (u.target.draft p)).run
        ⟨s.current.path ++ u.path, s.registry ++ [(u.target.key, none)]⟩))
    (hafter : ∀ s' : Progress, Steps p m s s' → s'.callers = s.callers →
      s'.current = { s.current with rest := ⟨uses, result⟩ } →
      Follows p m s' ((play (refTo m (build p m (depth + 1))) ⟨uses, result⟩).run
        ⟨s'.current.path, s'.registry⟩)) :
    Follows p m s
      ((play (refTo m (build p m (depth + 1))) ⟨u :: uses, result⟩).run
        ⟨s.current.path, s.registry⟩) := by
  have hentered := Progress.next_enter (p := p) hrest hnew
  have hreferred := run_refTo_unsettled (p := p) hnew depth (s.current.path ++ u.path)
  generalize (play (refTo m (build p m depth)) (u.target.draft p)).run
    ⟨s.current.path ++ u.path, s.registry ++ [(u.target.key, none)]⟩ = y at hreferred hbuilt
  rw [play_cons]
  cases hbuilt with
  | @failed s' f ctx hsteps hends =>
    have hvisit : run (visit (refTo m (build p m (depth + 1))) u) ⟨s.current.path, s.registry⟩ =
        (.error f, ⟨s.current.path, ctx.registry⟩) := by
      rw [run_visit (restores_refer p m (depth + 1)), hreferred]
      rfl
    rw [run_bind_error hvisit]
    exact .failed (Relation.ReflTransGen.head hentered hsteps : Steps p m s s') hends
  | @done s' schema hsteps hcallers hcurrent =>
    let defined : Schema := schema.redirect (place (Target.message m).key)
    have hvisit : run (visit (refTo m (build p m (depth + 1))) u) ⟨s.current.path, s.registry⟩ =
        (.ok ⟨⟩, ⟨s.current.path, s'.registry.fulfill u.target.key defined⟩) := by
      rw [run_visit (restores_refer p m (depth + 1)), hreferred]
      rfl
    rw [run_bind_ok hvisit]
    let left : Progress := s'.leave defined (s.pass ⟨uses, result⟩).current s.callers
    have hleft : Progress.next p m s' = .inl left :=
      Progress.next_leave (congrArg Activation.rest hcurrent) hcallers
    have hreach : Steps p m s left :=
      .tail (Relation.ReflTransGen.head hentered hsteps : Steps p m s s') hleft
    have hregistry : left.registry = s'.registry.fulfill u.target.key defined := by
      have htarget : s'.current.target = u.target := congrArg Activation.target hcurrent
      show s'.registry.fulfill s'.current.target.key defined = _
      rw [htarget]
    rw [← hregistry]
    exact (hafter left hreach rfl rfl).after hreach rfl rfl

end Use

/-- What a translation of the current draft comes to, the steps come to.  The induction is on the
depth, and for each depth on the uses that are left. -/
theorem follows_play (hp : p.Sound) {depth : Nat} {remaining : List String} {order : List Target}
    (h : Invariant p m remaining order s) (hdepth : remaining.length ≤ depth) {d : Draft Schema}
    (hrest : s.current.rest = d) :
    Follows p m s
      ((play (refTo m (build p m depth)) d).run ⟨s.current.path, s.registry⟩) := by
  induction depth using Nat.strong_induction_on generalizing s remaining order d with
  | h depth ihdepth =>
    obtain ⟨uses, result⟩ := d
    induction uses generalizing s remaining order with
    | nil =>
      cases result with
      | ok schema => exact .done .refl rfl (by rw [← hrest])
      | error f => exact .failed .refl (.fault hrest)
    | cons u uses ih =>
      by_cases hold : s.Settled m u.target
      · exact follows_pass hrest hold (ih (h.pass hrest hp hold) hdepth rfl)
      · obtain ⟨hmem, henter⟩ := h.enter hrest hp hold
        have hless := length_without_lt hmem
        obtain ⟨depth, rfl⟩ : ∃ k, depth = k + 1 := ⟨depth - 1, by omega⟩
        refine follows_enter hrest hold
          (ihdepth depth (Nat.lt_succ_self _) henter (by omega) rfl) ?_
        intro s' hsteps hcallers hcurrent
        obtain ⟨remaining', order', hinv, hle⟩ := h.steps hp hsteps
        exact ih hinv (hle.trans hdepth) (congrArg Activation.rest hcurrent)

/-- The translation of a message comes to its document, or to the fault for which it has none. -/
theorem translate_eq (hp : p.Sound) (hm : m ∈ p.messages) :
    translate p m = .of (document p m) := by
  have hinitial := Invariant.initial hm
  have hlength : (without m.fullName (definable p)).length ≤ (definable p).length :=
    List.length_filter_le _ _
  have hfollows : Follows p m (.initial p m)
      ((play (refTo m (build p m (definable p).length)) ((Target.message m).draft p)).run
        ⟨[], []⟩) := follows_play hp hinitial hlength rfl
  have hrun := run_build (p := p) (m := m) (definable p).length (.message m) ⟨[], []⟩
  generalize (play (refTo m (build p m (definable p).length)) ((Target.message m).draft p)).run
    ⟨[], []⟩ = y at hrun hfollows
  unfold translate
  rw [hrun]
  cases hfollows with
  | failed hsteps hends =>
    obtain ⟨remaining, order, hinv, -⟩ := hinitial.steps hp hsteps
    exact hinv.outcome hends
  | @done s' schema hsteps hcallers hcurrent =>
    obtain ⟨remaining, order, hinv, -⟩ := hinitial.steps hp hsteps
    have hrest : s'.current.rest = ⟨[], .ok schema⟩ := congrArg Activation.rest hcurrent
    dsimp only
    cases hfinish : s'.registry.finish with
    | ok definitions => exact hinv.outcome (.document hrest hcallers hfinish)
    | error key => exact hinv.outcome (.unbuilt hrest hcallers hfinish)

end Translator

/-! ## 3. Paths of faults -/

open Translator

/-- A translation comes to the document of the message or to its fault.  The path of the fault is a
walk from the message, from field to field through embedded messages, on which no key of a message
is twice; what lies at its end has the type or the constraints that the cause tells, and is not
well-formed.  Whatever a translation of a part comes to, and however deep it is, it leaves the stack
as it found it. -/
theorem fault_breadcrumbs {set : DescriptorSet} {p : Pool} (hset : Pool.ofSet set = .ok p)
    {m : Message} (hm : m ∈ p.messages) :
    translate p m = .of (document p m) ∧
      (∀ f, translate p m = .fault f → ∃ crumbs last s, Leads p m crumbs last.message ∧
        last.At s ∧ f.path = (crumbs ++ [last]).flatMap Crumb.segments ∧
          ((crumbs ++ [last]).map Crumb.key).Nodup ∧ AtFault p s f.cause ∧
            ¬ TypeWellFormed p s.type s.constraints) ∧
      ∀ depth, RestoresAll p (refTo m (build p m depth)) := by
  have hp := Pool.ofSet_sound hset
  have htranslate := translate_eq hp hm
  refine ⟨htranslate, ?_, fun depth => ?_⟩
  · intro f hf
    have hdocument : document p m = .error f := by
      rw [htranslate] at hf
      cases hd : document p m with
      | ok d =>
        rw [hd] at hf
        cases hf
      | error g =>
        rw [hd] at hf
        cases hf
        rfl
    obtain ⟨crumbs, last, s, hwalk⟩ := document_fault hdocument
    exact ⟨crumbs, last, s, hwalk.leads, hwalk.at_last, hwalk.path, hwalk.keys_nodup hp hm,
      hwalk.fault, hwalk.fault.not_wellFormed⟩
  · exact restoresAll (restores_refer p m depth)

/-- The rules on a note are for truth values. -/
def noteFault : Fault where
  path := ["acme.Order", "lines", "items", "acme.Line", "note"]
  cause := .misapplied "bool" "string"

/-- An order leads to the note of one of its lines. -/
theorem order_breadcrumbs :
    translate orderPool orderMessage = .fault noteFault ∧
      (∃ crumbs last s, Leads orderPool orderMessage crumbs last.message ∧ last.At s ∧
        noteFault.path = (crumbs ++ [last]).flatMap Crumb.segments ∧
          ((crumbs ++ [last]).map Crumb.key).Nodup ∧ AtFault orderPool s noteFault.cause ∧
            ¬ TypeWellFormed orderPool s.type s.constraints) ∧
      ∀ depth, RestoresAll orderPool (refTo orderMessage (build orderPool orderMessage depth)) := by
  have hfault : translate orderPool orderMessage = .fault noteFault := rfl
  obtain ⟨-, hwalk, hrestores⟩ := fault_breadcrumbs orderPool_built List.mem_cons_self
  exact ⟨hfault, hwalk _ hfault, hrestores⟩

end ProtoSchema.Generation
