import ProtoSchema.Proofs.Pattern.Converted

/-!
# Which converted patterns are patterns

A converted pattern is a pattern of the target dialect unless it repeats an assertion: an assertion
is the one part without parts of its own that the target does not let a quantifier follow, and it is
converted without a group around it.  The other parts of the grammar are met by every pattern that
can be read and means something.
-/

namespace ProtoSchema.Pattern

open Grammar

/-! ## 1. Repeated assertions -/

def Regex.isAssertion : Regex → Bool
  | .assertion .. => true
  | _ => false

mutual

/-- Whether somewhere in a pattern a repetition applies to an assertion. -/
def Regex.repeatsAssertion : Regex → Bool
  | .repetition _ _ _ body => body.isAssertion || body.repeatsAssertion
  | .group _ _ body => body.repeatsAssertion
  | .alternation _ rs | .concat _ rs => Regex.anyRepeatsAssertion rs
  | _ => false

def Regex.anyRepeatsAssertion : List Regex → Bool
  | [] => false
  | r :: rest => r.repeatsAssertion || Regex.anyRepeatsAssertion rest

end

def Ecma.isAssertion : Ecma → Bool
  | .assertion _ => true
  | _ => false

/-- An operand is one term. -/
theorem Ecma.onto_of_isOperand {e : Ecma} (h : e.isOperand = true) (t : Tree) :
    e.onto t = .cons (e.onto .empty).first t ∧
      (e.onto .empty).first.isAssertion = e.isAssertion := by
  cases e with
  | empty => cases h
  | repetition q lazy body => cases h
  | alternation branches => cases h
  | concat parts => cases h
  | _ =>
    simp only [Ecma.onto]
    exact ⟨rfl, rfl⟩

/-- A leaf is one term, which is no assertion. -/
theorem Ecma.onto_of_isLeaf {e : Ecma} (h : e.isLeaf = true) :
    e.isAssertion = false ∧ ∃ l, ∀ t, e.onto t = .cons (.leaf l) t := by
  cases e with
  | empty | assertion | repetition | group | alternation | concat => cases h
  | _ =>
    simp only [Ecma.onto]
    exact ⟨rfl, _, fun _ => rfl⟩

/-- The tree of a converted pattern quantifies an assertion where the pattern repeats one. -/
structure QuantifiesAs (r : Regex) (e : Ecma) : Prop where
  operand : (grouped r.needsGroup e).isAssertion = r.isAssertion
  row : r.isAlternation = false →
    ∀ t, (e.onto t).quantifiesAtoms = (!r.repeatsAssertion && t.quantifiesAtoms)
  whole : (e.onto .empty).quantifiesAtoms = !r.repeatsAssertion

theorem QuantifiesAs.ofRow {r : Regex} {e : Ecma}
    (ho : (grouped r.needsGroup e).isAssertion = r.isAssertion)
    (h : ∀ t, (e.onto t).quantifiesAtoms = (!r.repeatsAssertion && t.quantifiesAtoms)) :
    QuantifiesAs r e := by
  have hempty : Tree.empty.quantifiesAtoms = true := rfl
  refine ⟨ho, fun _ => h, ?_⟩
  rw [h, hempty, Bool.and_true]

theorem QuantifiesAs.ofLeaf {r : Regex} {e : Ecma} (h : e.isLeaf = true)
    (hr : r.needsGroup = false) (ha : r.isAssertion = false) (hn : r.repeatsAssertion = false) :
    QuantifiesAs r e := by
  obtain ⟨hassertion, l, honto⟩ := Ecma.onto_of_isLeaf h
  refine .ofRow ?_ fun t => ?_
  · rw [hr, ha]
    exact hassertion
  · rw [honto, hn]
    rfl

/-- A group around a pattern quantifies nothing. -/
theorem quantifiesAtoms_grouped (needed : Bool) (e : Ecma) :
    ((grouped needed e).onto .empty).quantifiesAtoms = (e.onto .empty).quantifiesAtoms := by
  cases needed with
  | true =>
    change ((Ecma.group false e).onto .empty).quantifiesAtoms = _
    rw [Ecma.onto]
    exact Bool.and_true _
  | false => rfl

/-- The branches of an alternation quantify an assertion where one of them does. -/
theorem quantifiesAtoms_branches {f : Flags} {rs : List Regex} {es : List Ecma}
    (h : List.Forall₂ (fun p e => QuantifiesAs p.2 e) (Regex.placed f rs) es) :
    (Ecma.ontoBranches es).quantifiesAtoms = !Regex.anyRepeatsAssertion rs := by
  induction rs generalizing f es with
  | nil =>
    rw [Regex.placed, List.forall₂_nil_left_iff] at h
    subst h
    rfl
  | cons r rest ih =>
    rw [Regex.placed, List.forall₂_cons_left_iff] at h
    obtain ⟨e, es, he, hes, rfl⟩ := h
    have hrest := ih hes
    rw [Regex.anyRepeatsAssertion, Bool.not_or, ← hrest, ← he.whole]
    cases es with
    | nil => exact (Bool.and_true _).symm
    | cons e' es => rfl

/-- The parts of a row quantify an assertion where one of them does. -/
theorem quantifiesAtoms_parts {f : Flags} {rs : List Regex} {es : List Ecma} (t : Tree)
    (h : List.Forall₂ (fun p e => ∃ e', QuantifiesAs p.2 e' ∧ grouped p.2.isAlternation e' = e)
      (Regex.placed f rs) es) :
    (Ecma.ontoParts es t).quantifiesAtoms =
      (!Regex.anyRepeatsAssertion rs && t.quantifiesAtoms) := by
  induction rs generalizing f es with
  | nil =>
    rw [Regex.placed, List.forall₂_nil_left_iff] at h
    subst h
    rfl
  | cons r rest ih =>
    rw [Regex.placed, List.forall₂_cons_left_iff] at h
    obtain ⟨_, es, ⟨e, he, rfl⟩, hes, rfl⟩ := h
    have hrest := ih hes
    have hfirst : ∀ t, ((grouped r.isAlternation e).onto t).quantifiesAtoms =
        (!r.repeatsAssertion && t.quantifiesAtoms) := by
      intro t
      cases ha : r.isAlternation with
      | true =>
        change ((Ecma.group false e).onto t).quantifiesAtoms = _
        rw [Ecma.onto, Tree.quantifiesAtoms, Tree.quantifiesAtoms, he.whole]
      | false => exact he.row ha t
    rw [Ecma.ontoParts, hfirst, hrest, Regex.anyRepeatsAssertion, Bool.not_or, Bool.and_assoc]

theorem Regex.WellFormed.quantifiesAs {m : Mode} {r : Regex} (hw : r.WellFormed) {f : Flags}
    {e : Ecma} (hl : r.LeavesFit m f) (h : r.toEcma f = .ok e) : QuantifiesAs r e := by
  induction hw generalizing f e with
  | empty span =>
    cases h
    exact .ofRow rfl fun t => (Bool.true_and _).symm
  | flags span items =>
    cases h
    exact .ofRow rfl fun t => (Bool.true_and _).symm
  | literal l =>
    cases h
    exact .ofLeaf (ecmaLiteral_isLeaf _ _) rfl rfl rfl
  | dot span =>
    cases h
    split
    · exact .ofLeaf rfl rfl rfl rfl
    · exact .ofLeaf rfl rfl rfl rfl
  | assertion span a =>
    unfold Regex.toEcma at h
    split at h
    · cases h
      exact .ofRow rfl fun t => rfl
    · cases h
  | property hp =>
    cases h
    exact .ofLeaf rfl rfl rfl rfl
  | shorthand s =>
    cases h
    exact .ofLeaf rfl rfl rfl rfl
  | bracket hb =>
    cases h
    exact .ofLeaf (ecmaClass_isLeaf _ _ _) rfl rfl rfl
  | @repetition span count greedy body hcount hbody hw ih =>
    obtain ⟨e', he, h⟩ := Except.bind_eq_ok.1 h
    cases h
    have hq := ih hl he
    -- The quantified operand is an assertion exactly if the repeated part is one.
    have ho := (hw.convertsTo hl he).operand hbody
    have hfirst := Ecma.onto_of_isOperand ho .empty
    have hwhole : ((grouped body.needsGroup e').onto .empty).first.quantifiesAtoms =
        !body.repeatsAssertion := by
      rw [← hq.whole, ← quantifiesAtoms_grouped body.needsGroup e', hfirst.1]
      exact (Bool.and_true _).symm
    refine .ofRow rfl fun t => ?_
    rw [Ecma.onto, Tree.quantifiesAtoms, Tree.quantifiesAtoms, hfirst.2, hq.operand, hwhole,
      Regex.repeatsAssertion, Bool.not_or]
  | @group span kind body _ ih =>
    obtain ⟨e', he, h⟩ := Except.bind_eq_ok.1 h
    cases h
    have hwhole := (ih hl he).whole
    refine .ofRow rfl fun t => ?_
    rw [Ecma.onto, Tree.quantifiesAtoms, Tree.quantifiesAtoms, hwhole, Regex.repeatsAssertion]
  | @alternation span branches _ ha _ ih =>
    obtain ⟨es, hes, h⟩ := Except.bind_eq_ok.1 h
    cases h
    refine ⟨rfl, fun h => absurd h.symm Bool.false_ne_true, ?_⟩
    rw [Ecma.onto, Regex.repeatsAssertion]
    refine quantifiesAtoms_branches (f := f) ?_
    refine forall₂_imp_of_mem (Regex.branchesToEcma_eq_ok.1 hes) fun p hp e he => ?_
    exact ih p.2 (Regex.mem_of_placed hp) (Regex.allLeavesFit_iff.1 hl p hp) he
  | @concat span parts _ ih =>
    obtain ⟨es, hes, h⟩ := Except.bind_eq_ok.1 h
    cases h
    refine .ofRow rfl fun t => ?_
    rw [Ecma.onto, Regex.repeatsAssertion]
    refine quantifiesAtoms_parts (f := f) t ?_
    refine forall₂_imp_of_mem (Regex.partsToEcma_eq_ok.1 hes) fun p hp e he => ?_
    obtain ⟨e', he', hgrouped⟩ := he
    exact ⟨e', ih p.2 (Regex.mem_of_placed hp) (Regex.allLeavesFit_iff.1 hl p hp) he', hgrouped⟩

/-! ## 2. Converted texts -/

/-- What a converted text comes from. -/
theorem convertText_eq_ok {pattern text : String} (h : convertText pattern = .ok text) :
    ∃ r e, parse pattern = .ok r ∧ r.check {} = .ok () ∧ r.toEcma {} = .ok e ∧ text = e.text := by
  unfold convertText at h
  cases hconvert : convert pattern with
  | error fault =>
    rw [hconvert] at h
    cases h
  | ok e =>
    rw [hconvert] at h
    cases h
    unfold convert at hconvert
    obtain ⟨r, hr, hconvert⟩ := Except.bind_eq_ok.1 hconvert
    obtain ⟨⟨⟩, hc, he⟩ := Except.bind_eq_ok.1 hconvert
    exact ⟨r, e, Except.mapError_eq_ok.1 hr, Except.mapError_eq_ok.1 hc, he, rfl⟩

/-- A converted pattern is a pattern of the target dialect, read as code points, exactly if the
pattern that it comes from repeats no assertion. -/
theorem isPattern_convertText {pattern text : String} (h : convertText pattern = .ok text) :
    ∃ r, parse pattern = .ok r ∧
      (IsPattern .points text.toList ↔ r.repeatsAssertion = false) := by
  obtain ⟨r, e, hr, hc, he, rfl⟩ := convertText_eq_ok h
  have hw := parse_wellFormed hr
  have hl := hw.leavesFit hc
  have hreads := (hw.convertsTo hl he).fits.reads_text
  refine ⟨r, hr, ?_⟩
  rw [isPattern_iff hreads, (hw.quantifiesAs hl he).whole, Bool.not_eq_true']

/-- The start of the text, repeated. -/
def repeatedStart : Regex :=
  .repetition ⟨⟨0, 1, 1⟩, ⟨2, 1, 3⟩⟩ .any true (.assertion ⟨⟨0, 1, 1⟩, ⟨1, 1, 2⟩⟩ .startLine)

theorem parse_repeatedStart : parse "^*" = .ok repeatedStart := by
  have hchars : "^*".toList = ['^', '*'] := by decide
  unfold parse Cursor.ofPattern
  rw [hchars]
  cbv

/-- A repeated assertion comes out as it is, which the target dialect does not take. -/
theorem repeatedStart_not_isPattern :
    convertText "^*" = .ok "^*" ∧ ¬ IsPattern .points "^*".toList := by
  have hconvert : convertText "^*" = .ok "^*" := by
    unfold convertText convert
    rw [parse_repeatedStart]
    rfl
  obtain ⟨r, hr, hiff⟩ := isPattern_convertText hconvert
  rw [parse_repeatedStart] at hr
  cases hr
  refine ⟨hconvert, fun h => ?_⟩
  have hnot := hiff.1 h
  exact absurd hnot (by decide)

end ProtoSchema.Pattern
