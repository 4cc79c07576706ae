import Mathlib
import ProtoSchema.Pattern.Ecma

/-!
# The grammar of ECMAScript patterns

Which texts a validator takes as patterns, and the tree that it reads in each.  A pattern is read
as code units, or as code points under the flag that also allows property classes.  The grammar has
no look-around and no references to groups, since nothing here writes them, and a hyphen in a class
that is no part of a range is escaped.

A reading is a relation between a text, what is left of it, and a tree.  A validator reads a text in
one way only: what may follow a part decides where the part ends.
-/

namespace ProtoSchema.Pattern.Grammar

/-! ## 1. Trees -/

/-- What a pattern is read as: code units without flags, code points with the Unicode flag. -/
inductive Mode
  | units
  | points
deriving DecidableEq, Repr

/-- Whether a character is one unit of a pattern. -/
def Mode.takes : Mode → Char → Bool
  | units, c => c.toNat ≤ 0xFFFF
  | points, _ => true

theorem Mode.takes_of_le (m : Mode) {c : Char} (h : c.toNat ≤ 0xFFFF) : m.takes c = true := by
  cases m with
  | units => exact decide_eq_true h
  | points => rfl

inductive Atom
  | code (n : Nat)
  | escape (e : ClassEscape)
  | property (negated : Bool) (name : List Char)
deriving DecidableEq, Repr

inductive Member
  | atom (a : Atom)
  | range (lo hi : Nat)
deriving DecidableEq, Repr

inductive Leaf
  | dot
  | atom (a : Atom)
  | set (negated : Bool) (members : List Member)
deriving DecidableEq, Repr

/-- A pattern as it is read.  An alternative is a row of terms that ends in `empty`, and a
disjunction a row of alternatives. -/
inductive Tree
  | empty
  | cons (term rest : Tree)
  | either (first rest : Tree)
  | assertion (a : EcmaAssertion)
  | leaf (l : Leaf)
  | group (capturing : Bool) (body : Tree)
  | quantified (operand : Tree) (q : Quantifier) (lazy : Bool)
deriving DecidableEq, Repr

def Tree.isAssertion : Tree → Bool
  | assertion _ => true
  | _ => false

/-- Whether no quantifier of a tree applies to an assertion. -/
def Tree.quantifiesAtoms : Tree → Bool
  | cons term rest => term.quantifiesAtoms && rest.quantifiesAtoms
  | either first rest => first.quantifiesAtoms && rest.quantifiesAtoms
  | group _ body => body.quantifiesAtoms
  | quantified operand _ _ => !operand.isAssertion && operand.quantifiesAtoms
  | _ => true

/-! ## 2. Atoms and quantifiers

These parts of a text are read by functions, which return what follows. -/

/-- The characters that stand for themselves only after a backslash. -/
def syntaxCharacters : List Char :=
  ['^', '$', '\\', '.', '*', '+', '?', '(', ')', '[', ']', '{', '}', '|']

def controlCode? : Char → Option Nat
  | 't' => some 0x09
  | 'n' => some 0x0A
  | 'v' => some 0x0B
  | 'f' => some 0x0C
  | 'r' => some 0x0D
  | _ => none

def classEscape? : Char → Option ClassEscape
  | 'd' => some .digit
  | 'D' => some .notDigit
  | 's' => some .space
  | 'S' => some .notSpace
  | 'w' => some .word
  | 'W' => some .notWord
  | _ => none

/-- How many hexadecimal digits follow a letter. -/
def hexWidth? : Char → Option Nat
  | 'x' => some 2
  | 'u' => some 4
  | _ => none

def hexNumber? (ds : List Char) : Option Nat :=
  ds.foldlM (fun n d => (Text.hexValue d).map (n * 16 + ·)) 0

/-- The number that the first `width` characters write in hexadecimal digits. -/
def hexCode? (width : Nat) (i : List Char) : Option (Atom × List Char) :=
  if width ≤ i.length then (hexNumber? (i.take width)).map fun n => (.code n, i.drop width)
  else none

/-- A name in braces. -/
def propertyName? (negated : Bool) : List Char → Option (Atom × List Char)
  | '{' :: i =>
    match i.dropWhile (· != '}') with
    | _ :: k => some (.property negated (i.takeWhile (· != '}')), k)
    | [] => none
  | _ => none

/-- What an escape means after its backslash; the characters of `identity` stand for themselves. -/
def escaped? (m : Mode) (identity : List Char) : List Char → Option (Atom × List Char)
  | [] => none
  | c :: k =>
    match controlCode? c, classEscape? c, hexWidth? c with
    | some n, _, _ => some (.code n, k)
    | none, some e, _ => some (.escape e, k)
    | none, none, some width => hexCode? width k
    | none, none, none =>
      if m = .points ∧ (c = 'p' ∨ c = 'P') then propertyName? (c == 'P') k
      else if c ∈ identity then some (.code c.toNat, k)
      else none

/-- A character that is not among `reserved`, or an escape. -/
def atom? (m : Mode) (reserved identity : List Char) : List Char → Option (Atom × List Char)
  | [] => none
  | c :: k =>
    if c = '\\' then escaped? m identity k
    else if c ∈ reserved ∨ m.takes c = false then none
    else some (.code c.toNat, k)

def outside? (m : Mode) : List Char → Option (Atom × List Char) :=
  atom? m syntaxCharacters syntaxCharacters

/-- An atom of a class.  Only the closing bracket and the hyphen have a meaning there. -/
def inside? (m : Mode) : List Char → Option (Atom × List Char) :=
  atom? m [']', '-'] ('-' :: syntaxCharacters)

/-- The count in braces, after the opening one.  A lower bound may not exceed the upper one. -/
def braced? (i : List Char) : Option (Quantifier × List Char) :=
  let least := i.takeWhile Text.isDigit
  if least.isEmpty then none
  else
    match i.dropWhile Text.isDigit with
    | '}' :: k => some (.exactly (Text.decimalValue least), k)
    | ',' :: '}' :: k => some (.atLeast (Text.decimalValue least), k)
    | ',' :: j =>
      let most := j.takeWhile Text.isDigit
      match j.dropWhile Text.isDigit with
      | '}' :: k =>
        if most.isEmpty ∨ Text.decimalValue most < Text.decimalValue least then none
        else some (.between (Text.decimalValue least) (Text.decimalValue most), k)
      | _ => none
    | _ => none

def quantifier? : List Char → Option (Quantifier × List Char)
  | '*' :: k => some (.any, k)
  | '+' :: k => some (.some, k)
  | '?' :: k => some (.optional, k)
  | '{' :: k => braced? k
  | _ => none

/-! ## 3. Readings -/

/-- Reads the members of a class and its closing bracket. -/
inductive ReadsMembers (m : Mode) : List Char → List Char → List Member → Prop
  | nil {k : List Char} : ReadsMembers m (']' :: k) k []
  | single {i j k : List Char} {a : Atom} {ms : List Member} (ha : inside? m i = some (a, j))
      (hj : j.head? ≠ some '-') (h : ReadsMembers m j k ms) :
      ReadsMembers m i k (.atom a :: ms)
  | range {i j j' k : List Char} {lo hi : Nat} {ms : List Member}
      (hlo : inside? m i = some (.code lo, '-' :: j)) (hhi : inside? m j = some (.code hi, j'))
      (hle : lo ≤ hi) (h : ReadsMembers m j' k ms) : ReadsMembers m i k (.range lo hi :: ms)

inductive ReadsLeaf (m : Mode) : List Char → List Char → Leaf → Prop
  | dot {k : List Char} : ReadsLeaf m ('.' :: k) k .dot
  | atom {i k : List Char} {a : Atom} (h : outside? m i = some (a, k)) : ReadsLeaf m i k (.atom a)
  | set {i k : List Char} {ms : List Member} (hi : i.head? ≠ some '^')
      (h : ReadsMembers m i k ms) : ReadsLeaf m ('[' :: i) k (.set false ms)
  | negatedSet {i k : List Char} {ms : List Member} (h : ReadsMembers m i k ms) :
      ReadsLeaf m ('[' :: '^' :: i) k (.set true ms)

/-- The kinds of parts.  An operand is what stands before a quantifier: an assertion or an atom. -/
inductive Nonterminal
  | disjunction
  | alternative
  | term
  | operand
deriving DecidableEq, Repr

/-- `Reads m lenient s i k t` says that a part of kind `s` is read at the start of `i` as `t`, and
that `k` is left.  No quantifier may follow an assertion, unless `lenient` is set. -/
inductive Reads (m : Mode) (lenient : Bool) :
    Nonterminal → List Char → List Char → Tree → Prop
  | only {i k : List Char} {t : Tree} (h : Reads m lenient .alternative i k t) :
      Reads m lenient .disjunction i k t
  | either {i j k : List Char} {t u : Tree} (h : Reads m lenient .alternative i ('|' :: j) t)
      (h' : Reads m lenient .disjunction j k u) : Reads m lenient .disjunction i k (.either t u)
  | empty {k : List Char} : Reads m lenient .alternative k k .empty
  | cons {i j k : List Char} {t u : Tree} (h : Reads m lenient .term i j t)
      (h' : Reads m lenient .alternative j k u) : Reads m lenient .alternative i k (.cons t u)
  | bare {i k : List Char} {t : Tree} (h : Reads m lenient .operand i k t) :
      Reads m lenient .term i k t
  | quantified {i j k : List Char} {t : Tree} {q : Quantifier} {z : Bool}
      (h : Reads m lenient .operand i j t) (ht : lenient = true ∨ t.isAssertion = false)
      (hq : quantifier? j = some (q, (if z then ['?'] else []) ++ k)) :
      Reads m lenient .term i k (.quantified t q z)
  | assertion {k : List Char} (a : EcmaAssertion) :
      Reads m lenient .operand (a.print ++ k) k (.assertion a)
  | leaf {i k : List Char} {l : Leaf} (h : ReadsLeaf m i k l) :
      Reads m lenient .operand i k (.leaf l)
  | capture {i k : List Char} {t : Tree} (h : Reads m lenient .disjunction i (')' :: k) t) :
      Reads m lenient .operand ('(' :: i) k (.group true t)
  | group {i k : List Char} {t : Tree} (h : Reads m lenient .disjunction i (')' :: k) t) :
      Reads m lenient .operand ('(' :: '?' :: ':' :: i) k (.group false t)

/-- Whether a text is a pattern. -/
def IsPattern (m : Mode) (text : List Char) : Prop := ∃ t, Reads m false .disjunction text [] t

variable {m : Mode} {lenient : Bool}

/-! ## 4. Where parts end -/

/-- The characters that no term starts with. -/
def termEnders : List Char := [')', '|', '*', '+', '?', '{']

/-- What may follow a part that is read as far as it goes. -/
def Stops : Nonterminal → List Char → Prop
  | .disjunction, k => ∀ c ∈ k.head?, c = ')'
  | .alternative, k => ∀ c ∈ k.head?, c = ')' ∨ c = '|'
  | .term, k => ∀ c ∈ k.head?, c ∉ ['*', '+', '?', '{']
  | .operand, _ => True

theorem Stops.alternative {k : List Char} (h : Stops .disjunction k) : Stops .alternative k := by
  intro c hc
  exact .inl (h c hc)

theorem Stops.term {k : List Char} (h : Stops .alternative k) : Stops .term k := by
  intro c hc
  rcases h c hc with rfl | rfl <;> decide

theorem outside?_start {i k : List Char} {a : Atom} (h : outside? m i = some (a, k)) :
    ∃ c j, i = c :: j ∧ c ∉ termEnders := by
  cases i with
  | nil => cases h
  | cons c j =>
    refine ⟨c, j, rfl, fun hc => ?_⟩
    have hs : c ≠ '\\' := by
      rintro rfl
      exact absurd hc (by decide)
    have hr : c ∈ syntaxCharacters := by
      have hsub : termEnders.all (syntaxCharacters.contains ·) = true := by decide
      exact List.contains_iff_mem.1 (List.all_eq_true.1 hsub c hc)
    rw [outside?, atom?, if_neg hs, if_pos (.inl hr)] at h
    cases h

theorem ReadsLeaf.start {i k : List Char} {l : Leaf} (h : ReadsLeaf m i k l) :
    ∃ c j, i = c :: j ∧ c ∉ termEnders := by
  cases h with
  | dot => exact ⟨_, _, rfl, by decide⟩
  | atom h => exact outside?_start h
  | set _ _ => exact ⟨_, _, rfl, by decide⟩
  | negatedSet _ => exact ⟨_, _, rfl, by decide⟩

/-- An operand starts with a character that ends no term. -/
theorem Reads.operand_start {i k : List Char} {t : Tree} (h : Reads m lenient .operand i k t) :
    ∃ c j, i = c :: j ∧ c ∉ termEnders := by
  cases h with
  | @assertion k a =>
    cases a with
    | start => exact ⟨'^', k, rfl, by decide⟩
    | stop => exact ⟨'$', k, rfl, by decide⟩
    | boundary => exact ⟨'\\', 'b' :: k, rfl, by decide⟩
    | notBoundary => exact ⟨'\\', 'B' :: k, rfl, by decide⟩
  | leaf h => exact h.start
  | capture _ => exact ⟨_, _, rfl, by decide⟩
  | group _ => exact ⟨_, _, rfl, by decide⟩

theorem Reads.term_start {i k : List Char} {t : Tree} (h : Reads m lenient .term i k t) :
    ∃ c j, i = c :: j ∧ c ∉ termEnders := by
  cases h with
  | bare h => exact h.operand_start
  | quantified h _ _ => exact h.operand_start

/-- Nothing that is read as an alternative goes on from the end of a term with a quantifier. -/
theorem Reads.stops_term {i k : List Char} {t : Tree} (h : Reads m lenient .alternative i k t)
    (hk : Stops .alternative k) : Stops .term i := by
  cases h with
  | empty => exact hk.term
  | cons h _ =>
    obtain ⟨c, j, rfl, hc⟩ := h.term_start
    intro d hd
    cases hd
    intro hmem
    exact hc (List.mem_of_mem_drop (i := 2) hmem)

/-- A disjunction that ends before a closing parenthesis does not start with a question mark. -/
theorem Reads.not_question {i k : List Char} {t : Tree}
    (h : Reads m lenient .disjunction ('?' :: i) (')' :: k) t) : False := by
  have alternative : ∀ {k : List Char} {t : Tree}, Stops .alternative k →
      Reads m lenient .alternative ('?' :: i) k t → False := by
    intro k t hk h
    exact absurd (h.stops_term hk '?' rfl) (by decide)
  cases h with
  | only h => exact alternative (fun c hc => by cases hc; exact .inl rfl) h
  | either h _ => exact alternative (fun c hc => by cases hc; exact .inr rfl) h

/-! ## 5. One reading -/

theorem ReadsMembers.unique {i k k' : List Char} {ms ms' : List Member}
    (h : ReadsMembers m i k ms) (h' : ReadsMembers m i k' ms') : k = k' ∧ ms = ms' := by
  have closing : ∀ k, inside? m (']' :: k) = none := fun k => rfl
  induction h generalizing k' ms' with
  | nil =>
    cases h' with
    | nil => exact ⟨rfl, rfl⟩
    | single ha _ _ => rw [closing] at ha; cases ha
    | range hlo _ _ _ => rw [closing] at hlo; cases hlo
  | single ha hj _ ih =>
    cases h' with
    | nil => rw [closing] at ha; cases ha
    | single ha' _ h' =>
      rw [ha] at ha'
      cases ha'
      obtain ⟨rfl, rfl⟩ := ih h'
      exact ⟨rfl, rfl⟩
    | range hlo _ _ _ =>
      rw [ha] at hlo
      cases hlo
      exact absurd rfl hj
  | range hlo hhi _ _ ih =>
    cases h' with
    | nil => rw [closing] at hlo; cases hlo
    | single ha' hj' _ =>
      rw [hlo] at ha'
      cases ha'
      exact absurd rfl hj'
    | range hlo' hhi' _ h' =>
      rw [hlo] at hlo'
      cases hlo'
      rw [hhi] at hhi'
      cases hhi'
      obtain ⟨rfl, rfl⟩ := ih h'
      exact ⟨rfl, rfl⟩

theorem ReadsLeaf.unique {i k k' : List Char} {l l' : Leaf} (h : ReadsLeaf m i k l)
    (h' : ReadsLeaf m i k' l') : k = k' ∧ l = l' := by
  have dot : ∀ k, outside? m ('.' :: k) = none := fun k => rfl
  have bracket : ∀ k, outside? m ('[' :: k) = none := fun k => rfl
  cases h with
  | dot =>
    cases h' with
    | dot => exact ⟨rfl, rfl⟩
    | atom h' => rw [dot] at h'; cases h'
  | atom h =>
    cases h' with
    | dot => rw [dot] at h; cases h
    | atom h' =>
      rw [h] at h'
      cases h'
      exact ⟨rfl, rfl⟩
    | set _ _ => rw [bracket] at h; cases h
    | negatedSet _ => rw [bracket] at h; cases h
  | set hi h =>
    cases h' with
    | atom h' => rw [bracket] at h'; cases h'
    | set _ h' =>
      obtain ⟨rfl, rfl⟩ := h.unique h'
      exact ⟨rfl, rfl⟩
    | negatedSet _ => exact absurd rfl hi
  | negatedSet h =>
    cases h' with
    | atom h' => rw [bracket] at h'; cases h'
    | set hi _ => exact absurd rfl hi
    | negatedSet h' =>
      obtain ⟨rfl, rfl⟩ := h.unique h'
      exact ⟨rfl, rfl⟩

theorem assertion_not_leaf {k k' : List Char} {a : EcmaAssertion} {l : Leaf}
    (h : ReadsLeaf m (a.print ++ k) k' l) : False := by
  have none : outside? m (a.print ++ k) = none := by
    cases a with
    | start => rfl
    | stop => rfl
    | boundary => cases m <;> rfl
    | notBoundary => cases m <;> rfl
  generalize hi : a.print ++ k = i at h none
  cases h with
  | dot => cases a <;> cases hi
  | atom h => rw [none] at h; cases h
  | set _ _ => cases a <;> cases hi
  | negatedSet _ => cases a <;> cases hi

theorem parenthesis_not_leaf {i k : List Char} {l : Leaf} (h : ReadsLeaf m ('(' :: i) k l) :
    False := by
  have none : outside? m ('(' :: i) = none := rfl
  cases h with
  | atom h => rw [none] at h; cases h

theorem EcmaAssertion.print_inj {a b : EcmaAssertion} {k l : List Char}
    (h : a.print ++ k = b.print ++ l) : a = b ∧ k = l := by
  cases a <;> cases b <;> cases h <;> exact ⟨rfl, rfl⟩

theorem assertion_not_parenthesis {a : EcmaAssertion} {k i : List Char}
    (h : a.print ++ k = '(' :: i) : False := by
  cases a <;> cases h

/-- A lazy mark belongs to the quantifier before it. -/
theorem lazyMark_unique {z z' : Bool} {k k' : List Char} (hk : Stops .term k) (hk' : Stops .term k')
    (h : (if z then ['?'] else []) ++ k = (if z' then ['?'] else []) ++ k') : z = z' ∧ k = k' := by
  have question : ∀ k, ¬ Stops .term ('?' :: k) := fun k h => h '?' rfl (by decide)
  cases z <;> cases z'
  · exact ⟨rfl, h⟩
  · subst h
    exact absurd hk (question k')
  · subst h
    exact absurd hk' (question k)
  · cases h
    exact ⟨rfl, rfl⟩

theorem quantifier?_stops {k : List Char} (h : Stops .term k) : quantifier? k = none := by
  cases k with
  | nil => rfl
  | cons c k =>
    have hc := h c rfl
    unfold quantifier?
    split
    case h_5 => rfl
    all_goals
      rename_i heq
      cases heq
      exact absurd (by decide) hc

/-- A text is read in one way.  The induction is on the first reading; what may follow tells where
the second one ends. -/
theorem Reads.unique {s : Nonterminal} {i k k' : List Char} {t t' : Tree}
    (h : Reads m lenient s i k t) (h' : Reads m lenient s i k' t') (hk : Stops s k)
    (hk' : Stops s k') : k = k' ∧ t = t' := by
  -- What may follow each of the parts, and what may not.
  have bar : ∀ j, Stops .alternative ('|' :: j) := fun j c hc => by cases hc; exact .inr rfl
  have noBar : ∀ j, ¬ Stops .disjunction ('|' :: j) := fun j h => absurd (h '|' rfl) (by decide)
  have close : ∀ j, Stops .disjunction (')' :: j) := fun j c hc => by cases hc; rfl
  have notEnder : ∀ {c j}, Stops .alternative (c :: j) → c ∉ termEnders → False := by
    intro c j h hc
    rcases h c rfl with rfl | rfl <;> exact hc (by decide)
  induction h generalizing k' t' with
  | only h ih =>
    cases h' with
    | only h' => exact ih h' hk.alternative hk'.alternative
    | either h' _ =>
      obtain ⟨rfl, -⟩ := ih h' hk.alternative (bar _)
      exact absurd hk (noBar _)
  | either h _ ih ih' =>
    cases h' with
    | only h' =>
      obtain ⟨rfl, -⟩ := ih h' (bar _) hk'.alternative
      exact absurd hk' (noBar _)
    | either h' h'' =>
      obtain ⟨hj, rfl⟩ := ih h' (bar _) (bar _)
      cases hj
      obtain ⟨rfl, rfl⟩ := ih' h'' hk hk'
      exact ⟨rfl, rfl⟩
  | empty =>
    cases h' with
    | empty => exact ⟨rfl, rfl⟩
    | cons h' _ =>
      -- The second reading goes on with a term where the first one has to stop.
      obtain ⟨c, j, rfl, hc⟩ := h'.term_start
      exact (notEnder hk hc).elim
  | cons h hr ih ih' =>
    cases h' with
    | empty =>
      obtain ⟨c, j, rfl, hc⟩ := h.term_start
      exact (notEnder hk' hc).elim
    | cons h' hr' =>
      obtain ⟨rfl, rfl⟩ := ih h' (hr.stops_term hk) (hr'.stops_term hk')
      obtain ⟨rfl, rfl⟩ := ih' hr' hk hk'
      exact ⟨rfl, rfl⟩
  | bare h ih =>
    cases h' with
    | bare h' => exact ih h' trivial trivial
    | quantified h' _ hq =>
      obtain ⟨rfl, -⟩ := ih h' trivial trivial
      rw [quantifier?_stops hk] at hq
      cases hq
  | quantified h _ hq ih =>
    cases h' with
    | bare h' =>
      obtain ⟨rfl, -⟩ := ih h' trivial trivial
      rw [quantifier?_stops hk'] at hq
      cases hq
    | quantified h' _ hq' =>
      obtain ⟨rfl, rfl⟩ := ih h' trivial trivial
      rw [hq, Option.some.injEq, Prod.mk.injEq] at hq'
      obtain ⟨rfl, hz⟩ := hq'
      obtain ⟨rfl, rfl⟩ := lazyMark_unique hk hk' hz
      exact ⟨rfl, rfl⟩
  | @assertion k a =>
    generalize hi : a.print ++ k = i at h'
    cases h' with
    | assertion b =>
      obtain ⟨rfl, rfl⟩ := EcmaAssertion.print_inj hi
      exact ⟨rfl, rfl⟩
    | leaf h' =>
      subst hi
      exact (assertion_not_leaf h').elim
    | capture _ => exact (assertion_not_parenthesis hi).elim
    | group _ => exact (assertion_not_parenthesis hi).elim
  | @leaf i k l h =>
    generalize hi : i = i' at h'
    cases h' with
    | assertion b =>
      subst hi
      exact (assertion_not_leaf h).elim
    | leaf h' =>
      subst hi
      obtain ⟨rfl, rfl⟩ := h.unique h'
      exact ⟨rfl, rfl⟩
    | capture _ =>
      subst hi
      exact (parenthesis_not_leaf h).elim
    | group _ =>
      subst hi
      exact (parenthesis_not_leaf h).elim
  | capture h ih =>
    generalize hi : '(' :: _ = i' at h'
    cases h' with
    | assertion b => exact (assertion_not_parenthesis hi.symm).elim
    | leaf h' =>
      subst hi
      exact (parenthesis_not_leaf h').elim
    | capture h' =>
      cases hi
      obtain ⟨hk, rfl⟩ := ih h' (close _) (close _)
      cases hk
      exact ⟨rfl, rfl⟩
    | group _ =>
      cases hi
      exact h.not_question.elim
  | group h ih =>
    generalize hi : '(' :: _ = i' at h'
    cases h' with
    | assertion b => exact (assertion_not_parenthesis hi.symm).elim
    | leaf h' =>
      subst hi
      exact (parenthesis_not_leaf h').elim
    | capture h' =>
      cases hi
      exact h'.not_question.elim
    | group h' =>
      cases hi
      obtain ⟨hk, rfl⟩ := ih h' (close _) (close _)
      cases hk
      exact ⟨rfl, rfl⟩

/-- What holds of some reading of a text holds of the one that it has. -/
theorem Reads.exists_iff {text : List Char} {t : Tree} {P : Tree → Prop}
    (h : Reads m lenient .disjunction text [] t) :
    (∃ u, Reads m lenient .disjunction text [] u ∧ P u) ↔ P t := by
  constructor
  · rintro ⟨u, hu, hP⟩
    have hnil : Stops .disjunction [] := fun c hc => by cases hc
    obtain ⟨-, rfl⟩ := h.unique hu hnil hnil
    exact hP
  · exact fun hP => ⟨t, h, hP⟩

/-! ## 6. Quantified assertions -/

/-- A pattern is one also where assertions may be quantified, and then none is. -/
theorem Reads.relax {s : Nonterminal} {i k : List Char} {t : Tree} (h : Reads m false s i k t) :
    Reads m true s i k t ∧ t.quantifiesAtoms = true := by
  induction h with
  | only _ ih => exact ⟨.only ih.1, ih.2⟩
  | either _ _ ih ih' =>
    refine ⟨.either ih.1 ih'.1, ?_⟩
    rw [Tree.quantifiesAtoms, ih.2, ih'.2]
    rfl
  | empty => exact ⟨.empty, rfl⟩
  | cons _ _ ih ih' =>
    refine ⟨.cons ih.1 ih'.1, ?_⟩
    rw [Tree.quantifiesAtoms, ih.2, ih'.2]
    rfl
  | bare _ ih => exact ⟨.bare ih.1, ih.2⟩
  | quantified _ ht hq ih =>
    have hatom := ht.resolve_left Bool.false_ne_true
    refine ⟨.quantified ih.1 (.inl rfl) hq, ?_⟩
    rw [Tree.quantifiesAtoms, ih.2, hatom]
    rfl
  | assertion a => exact ⟨.assertion a, rfl⟩
  | leaf h => exact ⟨.leaf h, rfl⟩
  | capture _ ih => exact ⟨.capture ih.1, ih.2⟩
  | group _ ih => exact ⟨.group ih.1, ih.2⟩

theorem Reads.strict {s : Nonterminal} {i k : List Char} {t : Tree} (h : Reads m true s i k t)
    (ht : t.quantifiesAtoms = true) : Reads m false s i k t := by
  induction h with
  | only _ ih => exact .only (ih ht)
  | either _ _ ih ih' =>
    rw [Tree.quantifiesAtoms, Bool.and_eq_true] at ht
    exact .either (ih ht.1) (ih' ht.2)
  | empty => exact .empty
  | cons _ _ ih ih' =>
    rw [Tree.quantifiesAtoms, Bool.and_eq_true] at ht
    exact .cons (ih ht.1) (ih' ht.2)
  | bare _ ih => exact .bare (ih ht)
  | quantified _ _ hq ih =>
    rw [Tree.quantifiesAtoms, Bool.and_eq_true, Bool.not_eq_true'] at ht
    exact .quantified (ih ht.2) (.inr ht.1) hq
  | assertion a => exact .assertion a
  | leaf h => exact .leaf h
  | capture _ ih => exact .capture (ih ht)
  | group _ ih => exact .group (ih ht)

/-- A text that is read with quantified assertions allowed is a pattern if its tree has none. -/
theorem isPattern_iff {text : List Char} {t : Tree} (h : Reads m true .disjunction text [] t) :
    IsPattern m text ↔ t.quantifiesAtoms = true := by
  constructor
  · rintro ⟨u, hu⟩
    have hnil : Stops .disjunction [] := fun c hc => by cases hc
    obtain ⟨-, rfl⟩ := h.unique hu.relax.1 hnil hnil
    exact hu.relax.2
  · intro ht
    exact ⟨t, h.strict ht⟩

end ProtoSchema.Pattern.Grammar
