import ProtoSchema.Proofs.Pattern.Literal

/-!
# What the parts of a written pattern match

A part that is written in front of an alternative is read together with it, so what a part means is
a relation between positions that holds in front of every alternative.  Each kind of part has one
lemma, and the relation of a pattern is put together from those of its parts.
-/

namespace ProtoSchema.Pattern

open Grammar

/-! ## 1. Relations between positions -/

/-- Between which positions of a text something matches. -/
abbrev Spans := List Nat → Nat → Nat → Prop

namespace Spans

/-- A text that stands after a position. -/
def text (w : List Nat) : Spans := fun u i j => w <+: u.drop i ∧ j = i + w.length

def assertion (a : EcmaAssertion) : Spans := fun u i j => i = j ∧ a.Holds u i

/-- Elements up to the end of the text at most. -/
def anything : Spans := fun u i j => i ≤ j ∧ (j ≤ u.length ∨ i = j)

/-- One match and another one from where it ends. -/
def andThen (R S : Spans) : Spans := fun u i j => ∃ k, R u i k ∧ S u k j

def row : List Spans → Spans
  | [] => fun _ i j => i = j
  | R :: Rs => R.andThen (row Rs)

def oneOf (Rs : List Spans) : Spans := fun u i j => ∃ R ∈ Rs, R u i j

theorem andThen_assoc (R S T : Spans) : (R.andThen S).andThen T = R.andThen (S.andThen T) := by
  funext u i j
  apply propext
  unfold andThen
  simp only [← exists_and_left, ← exists_and_right, and_assoc]
  exact exists_comm

theorem andThen_row_nil (R : Spans) : R.andThen (row []) = R := by
  funext u i j
  exact propext exists_eq_right

theorem row_nil_andThen (R : Spans) : (row []).andThen R = R := by
  funext u i j
  apply propext
  change (∃ k, i = k ∧ R u k j) ↔ R u i j
  rw [exists_eq_left']

end Spans

/-! ## 2. What trees mean -/

def Grammar.Atom.isPropertyFree : Atom → Bool
  | property .. => false
  | _ => true

def Grammar.Member.isPropertyFree : Member → Bool
  | atom a => a.isPropertyFree
  | range .. => true

def Grammar.Leaf.isPropertyFree : Leaf → Bool
  | dot => true
  | atom a => a.isPropertyFree
  | set _ members => members.all (·.isPropertyFree)

/-- Whether a tree has no property class.  What such a class takes is left to a validator. -/
def Grammar.Tree.isPropertyFree : Tree → Bool
  | cons term rest => term.isPropertyFree && rest.isPropertyFree
  | either first rest => first.isPropertyFree && rest.isPropertyFree
  | leaf l => l.isPropertyFree
  | group _ body => body.isPropertyFree
  | quantified operand _ _ => operand.isPropertyFree
  | _ => true

/-- The tree has no property classes and matches as a relation says. -/
structure Grammar.Tree.Means (t : Tree) (R : Spans) : Prop where
  propertyFree : t.isPropertyFree = true
  matches_iff : ∀ u i j, t.Matches u i j ↔ R u i j

section

variable {t t' : Tree} {R S : Spans}

theorem means_empty : Tree.empty.Means (.row []) :=
  ⟨rfl, fun _ _ _ => Iff.rfl⟩

theorem means_cons (h : t.Means R) (h' : t'.Means S) : (Tree.cons t t').Means (R.andThen S) :=
  ⟨Bool.and_eq_true_iff.2 ⟨h.propertyFree, h'.propertyFree⟩, fun u i j =>
    exists_congr fun k => and_congr (h.matches_iff u i k) (h'.matches_iff u k j)⟩

theorem means_literal (w : List Nat) (h : t.Means S) :
    (literal w t).Means ((Spans.text w).andThen S) := by
  constructor
  · induction w with
    | nil => exact h.propertyFree
    | cons x w ih => exact ih
  · intro u i j
    rw [matches_literal, h.matches_iff]
    constructor
    · rintro ⟨hw, ht⟩
      exact ⟨_, ⟨hw, rfl⟩, ht⟩
    · rintro ⟨_, ⟨hw, rfl⟩, ht⟩
      exact ⟨hw, ht⟩

/-- The class of white space and everything else takes each element, and so a row of any length. -/
theorem means_anything (lazy : Bool) :
    (Tree.quantified (.leaf (.set false [.atom (.escape .space), .atom (.escape .notSpace)])) .any
      lazy).Means .anything := by
  refine ⟨rfl, fun u i j => ?_⟩
  have takes : ∀ x,
      (Leaf.set false [.atom (.escape .space), .atom (.escape .notSpace)]).Takes x := by
    intro x
    by_cases hx : IsSpaceUnit x
    · exact ⟨_, List.mem_cons_self, hx⟩
    · exact ⟨_, List.mem_cons_of_mem _ List.mem_cons_self, hx⟩
  have iterates : ∀ n i, Iterates (TakesOne
      (Leaf.set false [.atom (.escape .space), .atom (.escape .notSpace)]).Takes u) n i j ↔
        j = i + n ∧ (n = 0 ∨ j ≤ u.length) := by
    intro n
    induction n with
    | zero =>
      intro i
      change i = j ↔ _
      omega
    | succ n ih =>
      intro i
      change (∃ k, TakesOne _ u i k ∧ Iterates _ n k j) ↔ _
      constructor
      · rintro ⟨k, ⟨rfl, x, hx, -⟩, hrest⟩
        have hi := (List.getElem?_eq_some_iff.1 hx).1
        have hj := (ih _).1 hrest
        omega
      · rintro ⟨hj, hle⟩
        have hi : i < u.length := by omega
        exact ⟨i + 1, ⟨rfl, _, List.getElem?_eq_getElem hi, takes _⟩, (ih _).2 (by omega)⟩
  change Repeats _ 0 none i j ↔ i ≤ j ∧ (j ≤ u.length ∨ i = j)
  rw [repeats_iff]
  constructor
  · rintro ⟨n, -, -, hn⟩
    have hj := (iterates n i).1 hn
    omega
  · rintro ⟨hle, hj⟩
    exact ⟨j - i, Nat.zero_le _, nofun, (iterates _ i).2 (by omega)⟩

end

/-! ## 3. What parts denote -/

/-- In front of every alternative, a part is read as something that matches as `R` says. -/
def Ecma.Denotes (m : Mode) (r : Ecma) (R : Spans) : Prop :=
  ∀ ⦃i k : List Char⦄ ⦃t : Tree⦄ ⦃S : Spans⦄, Reads m false .alternative i k t → t.Means S →
    ∃ t', Reads m false .alternative (m.source r.print ++ i) k t' ∧ t'.Means (R.andThen S)

namespace Ecma

variable {m : Mode}

theorem denotes_text (m : Mode) (s : List Char) :
    (concat (s.map char)).Denotes m (.text (m.encodeText s)) := by
  intro i k t S hread ht
  have hprint : print (concat (s.map char)) = s.flatMap (escapeChar metaOutside) := by
    induction s with
    | nil => rfl
    | cons c s ih => exact congrArg (escapeChar metaOutside c ++ ·) ih
  rw [hprint]
  exact ⟨_, reads_literal s hread, means_literal _ ht⟩

/-- A part that is read as one term. -/
theorem denotes_of_term {r : Ecma} {R : Spans}
    (h : ∀ i, ∃ t, Reads m false .term (m.source r.print ++ i) i t ∧ t.Means R) :
    r.Denotes m R := by
  intro i k t S hread ht
  obtain ⟨u, hu, hmeans⟩ := h i
  exact ⟨_, .cons hu hread, means_cons hmeans ht⟩

theorem denotes_assertion (m : Mode) (a : EcmaAssertion) :
    (assertion a).Denotes m (.assertion a) := by
  refine denotes_of_term fun i => ⟨.assertion a, ?_, rfl, fun _ _ _ => Iff.rfl⟩
  have hsource : m.source (assertion a).print = a.print := by
    cases m <;> cases a <;> rfl
  rw [hsource]
  exact .bare (.assertion a)

theorem denotes_anything (m : Mode) :
    (repetition .any false anyChar).Denotes m .anything := by
  refine denotes_of_term fun i => ⟨_, ?_, means_anything false⟩
  have hsource : m.source (repetition .any false anyChar).print =
      ['[', '\\', 's', '\\', 'S', ']', '*'] := by
    cases m <;> rfl
  have hclass : ReadsLeaf m ('[' :: '\\' :: 's' :: '\\' :: 'S' :: ']' :: '*' :: i) ('*' :: i)
      (.set false [.atom (.escape .space), .atom (.escape .notSpace)]) :=
    .set (by simp) (.single rfl (by simp) (.single rfl (by simp) .nil))
  rw [hsource]
  exact .quantified (.leaf hclass) (.inr rfl) rfl

theorem denotes_concat {rs : List Ecma} {Rs : List Spans} (h : List.Forall₂ (Denotes m) rs Rs) :
    (concat rs).Denotes m (.row Rs) := by
  induction h with
  | nil =>
    intro i k t S hread ht
    rw [Spans.row_nil_andThen]
    exact ⟨t, hread, ht⟩
  | @cons r R rs Rs hr _ ih =>
    intro i k t S hread ht
    have hprint : print (concat (r :: rs)) = print r ++ print (concat rs) := rfl
    rw [hprint, m.source_append, List.append_assoc, Spans.row, Spans.andThen_assoc]
    obtain ⟨t', hread', ht'⟩ := ih hread ht
    exact hr hread' ht'

/-- Branches are read up to the closing parenthesis. -/
theorem reads_branches {rs : List Ecma} {Rs : List Spans} (h : List.Forall₂ (Denotes m) rs Rs)
    (hne : rs ≠ []) (k : List Char) :
    ∃ t, Reads m false .disjunction (m.source (printBranches rs) ++ ')' :: k) (')' :: k) t ∧
      t.Means (.oneOf Rs) := by
  induction h with
  | nil => exact absurd rfl hne
  | @cons r R rs Rs hr hrs ih =>
    cases hrs with
    | nil =>
      obtain ⟨t, hread, ht⟩ := hr (k := ')' :: k) .empty means_empty
      rw [Spans.andThen_row_nil] at ht
      refine ⟨t, .only hread, ht.propertyFree, fun u i j => ?_⟩
      rw [ht.matches_iff]
      simp [Spans.oneOf]
    | @cons r' R' rs Rs hr' hrs' =>
      obtain ⟨t, hread, ht⟩ := ih (List.cons_ne_nil _ _)
      obtain ⟨t', hread', ht'⟩ := hr (k := '|' :: (m.source (printBranches (r' :: rs)) ++
        ')' :: k)) .empty means_empty
      rw [Spans.andThen_row_nil] at ht'
      have hprint : printBranches (r :: r' :: rs) = print r ++ ('|' :: printBranches (r' :: rs)) :=
        rfl
      have hbar : m.source ('|' :: printBranches (r' :: rs)) =
          '|' :: m.source (printBranches (r' :: rs)) := by
        cases m <;> rfl
      rw [hprint, m.source_append, hbar, List.append_assoc, List.cons_append]
      refine ⟨_, .either hread' hread,
        Bool.and_eq_true_iff.2 ⟨ht'.propertyFree, ht.propertyFree⟩, fun u i j => ?_⟩
      change t'.Matches u i j ∨ t.Matches u i j ↔ _
      rw [ht'.matches_iff, ht.matches_iff]
      simp [Spans.oneOf]

/-- A part that is read as one operand, so that a quantifier may apply to it. -/
def DenotesOperand (m : Mode) (r : Ecma) (R : Spans) : Prop :=
  ∀ k, ∃ t, Reads m false .operand (m.source r.print ++ k) k t ∧ t.isAssertion = false ∧ t.Means R

theorem DenotesOperand.denotes {r : Ecma} {R : Spans} (h : r.DenotesOperand m R) :
    r.Denotes m R := by
  refine denotes_of_term fun k => ?_
  obtain ⟨t, hread, -, ht⟩ := h k
  exact ⟨t, .bare hread, ht⟩

theorem denotesOperand_group (capturing : Bool) {rs : List Ecma} {Rs : List Spans}
    (h : List.Forall₂ (Denotes m) rs Rs) (hne : rs ≠ []) :
    (group capturing (alternation rs)).DenotesOperand m (.oneOf Rs) := by
  intro k
  obtain ⟨body, hread, hbody⟩ := reads_branches h hne k
  have hclose : m.source [')'] = [')'] := by cases m <;> rfl
  have hopen : ∀ opening : List Char, m.source opening = opening →
      m.source (opening ++ printBranches rs ++ [')']) ++ k =
        opening ++ (m.source (printBranches rs) ++ ')' :: k) := by
    intro opening hsource
    rw [m.source_append, m.source_append, hsource, hclose, List.append_assoc, List.append_assoc]
    rfl
  cases capturing with
  | true =>
    change ∃ t, Reads m false .operand (m.source (['('] ++ printBranches rs ++ [')']) ++ k) k t ∧ _
    rw [hopen ['('] (by cases m <;> rfl)]
    exact ⟨_, .capture hread, rfl, hbody.propertyFree, hbody.matches_iff⟩
  | false =>
    change ∃ t, Reads m false .operand
      (m.source (['(', '?', ':'] ++ printBranches rs ++ [')']) ++ k) k t ∧ _
    rw [hopen ['(', '?', ':'] (by cases m <;> rfl)]
    exact ⟨_, .group hread, rfl, hbody.propertyFree, hbody.matches_iff⟩

theorem denotes_group {rs : List Ecma} {Rs : List Spans} (h : List.Forall₂ (Denotes m) rs Rs)
    (hne : rs ≠ []) : (group false (alternation rs)).Denotes m (.oneOf Rs) :=
  (denotesOperand_group false h hne).denotes

/-- A pattern is read as a whole. -/
theorem Denotes.reads {r : Ecma} {R : Spans} (h : r.Denotes m R) :
    ∃ t, Reads m false .disjunction (m.source r.text.toList) [] t ∧ t.Means R := by
  obtain ⟨t, hread, ht⟩ := h (k := []) .empty means_empty
  rw [List.append_nil] at hread
  rw [Spans.andThen_row_nil] at ht
  rw [text, String.toList_ofList]
  exact ⟨t, .only hread, ht⟩

/-! ## 4. What patterns select -/

/-- The pattern has a match in the texts with a property and in no others. -/
def Selects (m : Mode) (r : Ecma) (P : List Char → Prop) : Prop :=
  ∃ R, r.Denotes m R ∧ ∀ t, (∃ i j, R (m.encodeText t) i j) ↔ P t

/-- It is a pattern without property classes, and validators find it where it selects. -/
theorem Selects.reads {r : Ecma} {P : List Char → Prop} (h : r.Selects m P) :
    ∃ tree, Reads m false .disjunction (m.source r.text.toList) [] tree ∧
      tree.isPropertyFree = true ∧ ∀ t, (∃ i j, tree.Matches (m.encodeText t) i j) ↔ P t := by
  obtain ⟨R, hR, hP⟩ := h
  obtain ⟨tree, hread, hmeans⟩ := hR.reads
  refine ⟨tree, hread, hmeans.propertyFree, fun t => ?_⟩
  rw [← hP t]
  exact exists₂_congr fun i j => hmeans.matches_iff _ i j

theorem selects_text (m : Mode) (s : List Char) :
    (concat (s.map char)).Selects m (s <:+: ·) := by
  refine ⟨_, denotes_text m s, fun t => ?_⟩
  refine Iff.trans ?_ m.encodeText_isInfix_iff
  rw [List.infix_iff_prefix_suffix]
  constructor
  · rintro ⟨i, _, hw, -⟩
    exact ⟨_, hw, List.drop_suffix i _⟩
  · rintro ⟨u, hw, hu⟩
    rw [List.suffix_iff_eq_drop.1 hu] at hw
    exact ⟨_, _, hw, rfl⟩

theorem selects_start (m : Mode) (s : List Char) :
    (concat [.assertion .start, concat (s.map char)]).Selects m (s <+: ·) := by
  refine ⟨_, denotes_concat (.cons (denotes_assertion m .start) (.cons (denotes_text m s) .nil)),
    fun t => ?_⟩
  refine Iff.trans ?_ m.encodeText_isPrefix_iff
  constructor
  · rintro ⟨_, j, _, ⟨rfl, rfl⟩, _, ⟨hw, -⟩, -⟩
    exact hw
  · exact fun hw => ⟨0, _, 0, ⟨rfl, rfl⟩, _, ⟨hw, rfl⟩, rfl⟩

theorem selects_stop (m : Mode) (s : List Char) :
    (concat [concat (s.map char), .assertion .stop]).Selects m (s <:+ ·) := by
  refine ⟨_, denotes_concat (.cons (denotes_text m s) (.cons (denotes_assertion m .stop) .nil)),
    fun t => ?_⟩
  refine Iff.trans ?_ m.encodeText_isSuffix_iff
  constructor
  · rintro ⟨i, _, _, ⟨hw, rfl⟩, _, ⟨rfl, hstop⟩, rfl⟩
    have hlength : (m.encodeText t).length ≤ i + (m.encodeText s).length := hstop.ge
    have hdrop : ((m.encodeText t).drop i).length ≤ (m.encodeText s).length := by
      rw [List.length_drop]
      omega
    rw [hw.eq_of_length_le hdrop]
    exact List.drop_suffix _ _
  · intro hw
    have hlength := hw.length_le
    refine ⟨(m.encodeText t).length - (m.encodeText s).length, _, _, ⟨?_, rfl⟩, _, ⟨rfl, ?_⟩, rfl⟩
    · exact (List.suffix_iff_eq_drop.1 hw) ▸ List.prefix_rfl
    · change _ = (m.encodeText t).length
      omega

end Ecma

end ProtoSchema.Pattern
