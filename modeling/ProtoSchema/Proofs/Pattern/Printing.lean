import ProtoSchema.Proofs.Pattern.Spelling

/-!
# Printed patterns

The text of a pattern is read back as one tree, which `onto` builds from the pattern.  Text has no
structure of its own, so this needs parentheses in the right places: around what a quantifier
applies to, and around an alternation inside a row.
-/

namespace ProtoSchema.Pattern

open Grammar

/-! ## 1. Trees of patterns -/

def Grammar.Tree.first : Tree → Tree
  | cons term _ => term
  | _ => empty

namespace Ecma

/-- Whether a pattern is printed as one operand of a quantifier. -/
def isOperand : Ecma → Bool
  | empty | repetition .. | alternation _ | concat _ => false
  | _ => true

def isAlternation : Ecma → Bool
  | alternation _ => true
  | _ => false

mutual

/-- The terms of a pattern in front of an alternative.  An alternation has no terms of its own; its
branches are a disjunction. -/
def onto : Ecma → Tree → Tree
  | empty, t => t
  | char c, t => .cons (.leaf (.atom (.code c.toNat))) t
  | dot, t => .cons (.leaf .dot) t
  | assertion a, t => .cons (.assertion a) t
  | escape e, t => .cons (.leaf (.atom (.escape e))) t
  | property negated name, t => .cons (.leaf (.atom (.property negated name.toList))) t
  | set negated members, t => .cons (.leaf (.set negated (members.map ClassMember.member))) t
  | repetition q lazy body, t => .cons (.quantified (body.onto .empty).first q lazy) t
  | group capturing body, t => .cons (.group capturing (body.onto .empty)) t
  | alternation branches, _ => ontoBranches branches
  | concat parts, t => ontoParts parts t

def ontoBranches : List Ecma → Tree
  | [] => .empty
  | [r] => r.onto .empty
  | r :: rest => .either (r.onto .empty) (ontoBranches rest)

def ontoParts : List Ecma → Tree → Tree
  | [], t => t
  | r :: rest, t => r.onto (ontoParts rest t)

end

/-- What the text of a pattern needs to be read back.  What may stand where is decided by
parentheses: a quantifier applies to an operand, and only a group holds an alternation. -/
inductive Fits (m : Mode) : Ecma → Prop
  | empty : Fits m .empty
  | char {c : Char} (h : m.takes c = true) : Fits m (.char c)
  | dot : Fits m .dot
  | assertion (a : EcmaAssertion) : Fits m (.assertion a)
  | escape (e : ClassEscape) : Fits m (.escape e)
  | property {negated : Bool} {name : String} (hm : m = .points) (h : '}' ∉ name.toList) :
      Fits m (.property negated name)
  | set {negated : Bool} {members : List ClassMember} (h : ∀ x ∈ members, x.Fits m) :
      Fits m (.set negated members)
  | repetition {q : Quantifier} {lazy : Bool} {body : Ecma} (hq : q.Ordered)
      (ho : body.isOperand = true) (h : Fits m body) : Fits m (.repetition q lazy body)
  | group {capturing : Bool} {body : Ecma} (h : Fits m body) : Fits m (.group capturing body)
  | alternation {branches : List Ecma} (ha : ∀ r ∈ branches, r.isAlternation = false)
      (h : ∀ r ∈ branches, Fits m r) : Fits m (.alternation branches)
  | concat {parts : List Ecma} (ha : ∀ r ∈ parts, r.isAlternation = false)
      (h : ∀ r ∈ parts, Fits m r) : Fits m (.concat parts)

end Ecma

/-! ## 2. Reading back -/

section

variable {m : Mode}

/-- In front of an alternative, the text of a pattern is read as its terms. -/
def Ecma.ReadsOnto (m : Mode) (e : Ecma) : Prop :=
  ∀ i k t, Reads m true .alternative i k t → Reads m true .alternative (e.print ++ i) k (e.onto t)

/-- The text of a pattern is read as an operand. -/
def Ecma.ReadsOperand (m : Mode) (e : Ecma) : Prop :=
  ∀ k, Reads m true .operand (e.print ++ k) k (e.onto .empty).first ∧
    ∀ t, e.onto t = .cons (e.onto .empty).first t

theorem Ecma.ReadsOperand.readsOnto {e : Ecma} (h : e.ReadsOperand m) : e.ReadsOnto m := by
  intro i k t hi
  obtain ⟨hread, honto⟩ := h i
  rw [honto]
  exact .cons (.bare hread) hi

theorem readsOperand_leaf {e : Ecma} {l : Leaf} (honto : ∀ t, e.onto t = .cons (.leaf l) t)
    (h : ∀ k, ReadsLeaf m (e.print ++ k) k l) : e.ReadsOperand m := by
  intro k
  rw [honto .empty]
  exact ⟨.leaf (h k), honto⟩

theorem readsOperand_group {body : Ecma} (capturing : Bool)
    (h : ∀ k, Reads m true .disjunction (body.print ++ k) k (body.onto .empty)) :
    (Ecma.group capturing body).ReadsOperand m := by
  intro k
  refine ⟨?_, fun t => by rw [Ecma.onto, Ecma.onto]; rfl⟩
  have happend : body.print ++ [')'] ++ k = body.print ++ ')' :: k := List.append_assoc ..
  rw [Ecma.onto, Ecma.print]
  cases capturing with
  | true =>
    change Reads m true .operand ('(' :: (body.print ++ [')'] ++ k)) k _
    rw [happend]
    exact .capture (h _)
  | false =>
    change Reads m true .operand ('(' :: '?' :: ':' :: (body.print ++ [')'] ++ k)) k _
    rw [happend]
    exact .group (h _)

theorem readsOnto_repetition {q : Quantifier} {body : Ecma} (hq : q.Ordered) (lazy : Bool)
    (h : body.ReadsOperand m) : (Ecma.repetition q lazy body).ReadsOnto m := by
  intro i k t hi
  have hread := quantifier?_print hq ((if lazy then ['?'] else []) ++ i)
  rw [Ecma.onto, Ecma.print, List.append_assoc, List.append_assoc]
  exact .cons (.quantified (h _).1 (.inl rfl) hread) hi

theorem readsOnto_concat {parts : List Ecma} (h : ∀ r ∈ parts, r.ReadsOnto m) :
    (Ecma.concat parts).ReadsOnto m := by
  intro i k t hi
  rw [Ecma.onto, Ecma.print]
  induction parts with
  | nil => exact hi
  | cons r rest ih =>
    have hrest := ih fun s hs => h s (List.mem_cons_of_mem _ hs)
    rw [Ecma.ontoParts, Ecma.printParts, List.append_assoc]
    exact h r List.mem_cons_self _ _ _ hrest

theorem Ecma.ReadsOnto.disjunction {e : Ecma} (h : e.ReadsOnto m) (k : List Char) :
    Reads m true .disjunction (e.print ++ k) k (e.onto .empty) :=
  .only (h k k .empty .empty)

theorem reads_alternation {branches : List Ecma} (h : ∀ r ∈ branches, r.ReadsOnto m)
    (k : List Char) :
    Reads m true .disjunction ((Ecma.alternation branches).print ++ k) k
      ((Ecma.alternation branches).onto .empty) := by
  rw [Ecma.onto, Ecma.print]
  induction branches with
  | nil => exact .only .empty
  | cons r rest ih =>
    have hr := h r List.mem_cons_self
    cases rest with
    | nil => exact hr.disjunction k
    | cons s rest =>
      have hrest := ih fun s hs => h s (List.mem_cons_of_mem _ hs)
      rw [Ecma.printBranches, Ecma.ontoBranches, List.append_assoc]
      · exact .either (hr _ _ .empty .empty) hrest
      · rintro ⟨⟩
      · rintro ⟨⟩

/-- A pattern that is an operand is read as one, one that is no alternation in front of any
alternative, and each as a disjunction. -/
theorem Ecma.Fits.reads {e : Ecma} (h : e.Fits m) :
    (e.isOperand = true → e.ReadsOperand m) ∧ (e.isAlternation = false → e.ReadsOnto m) ∧
      ∀ k, Reads m true .disjunction (e.print ++ k) k (e.onto .empty) := by
  -- An operand is a term by itself, and a term starts an alternative.
  have operand : ∀ {e : Ecma}, e.ReadsOperand m → (e.isOperand = true → e.ReadsOperand m) ∧
      (e.isAlternation = false → e.ReadsOnto m) ∧
      ∀ k, Reads m true .disjunction (e.print ++ k) k (e.onto .empty) :=
    fun h => ⟨fun _ => h, fun _ => h.readsOnto, h.readsOnto.disjunction⟩
  have row : ∀ {e : Ecma}, e.isOperand = false → e.ReadsOnto m →
      (e.isOperand = true → e.ReadsOperand m) ∧ (e.isAlternation = false → e.ReadsOnto m) ∧
      ∀ k, Reads m true .disjunction (e.print ++ k) k (e.onto .empty) := by
    intro e hnot h
    refine ⟨fun ho => ?_, fun _ => h, h.disjunction⟩
    rw [hnot] at ho
    cases ho
  induction h with
  | empty => exact row rfl fun i k t hi => hi
  | char hc =>
    exact operand (readsOperand_leaf (fun _ => by rw [Ecma.onto]) fun k => .atom (by
      rw [Ecma.print]
      exact covers_outside.atom? hc k))
  | dot => exact operand (readsOperand_leaf (fun _ => by rw [Ecma.onto]) fun _ => .dot)
  | assertion a =>
    refine operand fun k => ⟨?_, fun t => by rw [Ecma.onto, Ecma.onto]; rfl⟩
    rw [Ecma.onto, Ecma.print]
    exact .assertion a
  | escape e =>
    exact operand (readsOperand_leaf (fun _ => by rw [Ecma.onto]) fun k => .atom (by
      rw [Ecma.print]
      exact atom?_classEscape ..))
  | property hm hname =>
    subst hm
    exact operand (readsOperand_leaf (fun _ => by rw [Ecma.onto]) fun k => .atom (by
      rw [Ecma.print]
      exact atom?_printProperty _ _ hname k))
  | set hms =>
    exact operand (readsOperand_leaf (fun _ => by rw [Ecma.onto]) (readsLeaf_set hms _))
  | @repetition q lazy body hq ho _ ih =>
    exact row rfl (readsOnto_repetition hq lazy (ih.1 ho))
  | group _ ih => exact operand (readsOperand_group _ ih.2.2)
  | alternation ha _ ih =>
    refine ⟨fun h => absurd h Bool.false_ne_true, fun h => absurd h.symm Bool.false_ne_true, ?_⟩
    exact reads_alternation fun r hr => (ih r hr).2.1 (ha r hr)
  | concat ha _ ih =>
    exact row rfl (readsOnto_concat fun r hr => (ih r hr).2.1 (ha r hr))

/-- The text of a pattern is read as its tree. -/
theorem Ecma.Fits.reads_text {e : Ecma} (h : e.Fits m) :
    Reads m true .disjunction e.text.toList [] (e.onto .empty) := by
  have hread := h.reads.2.2 []
  rw [List.append_nil] at hread
  rwa [Ecma.text, String.toList_ofList]

end

end ProtoSchema.Pattern
