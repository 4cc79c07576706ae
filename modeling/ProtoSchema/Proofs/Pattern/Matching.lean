import ProtoSchema.Pattern.Conversion
import ProtoSchema.Proofs.Pattern.Grammar

/-!
# What patterns match

Between which positions of a text a pattern can match.  A pattern of the target dialect is matched
against code units and without flags, as the tree that a validator reads; a pattern of the source
dialect against characters, under the flags that hold where its parts stand, the multi-line flag
apart, which is off.  Which of its matches a pattern prefers is left out, and so greed makes no
difference.
-/

namespace ProtoSchema.Pattern

open Grammar

/-! ## 1. Texts and repetitions -/

section

variable {α : Type}

/-- One element is taken, which has a property. -/
def TakesOne (P : α → Prop) (t : List α) (i j : Nat) : Prop :=
  j = i + 1 ∧ ∃ u, t[i]? = some u ∧ P u

/-- An element with a property stands after a position. -/
def StandsAfter (P : α → Prop) (t : List α) (i : Nat) : Prop := ∃ u, t[i]? = some u ∧ P u

/-- An element with a property stands before a position. -/
def StandsBefore (P : α → Prop) (t : List α) (i : Nat) : Prop := ∃ k, i = k + 1 ∧ StandsAfter P t k

end

/-- `n` matches, each from where the one before it ends. -/
def Iterates (R : Nat → Nat → Prop) : Nat → Nat → Nat → Prop
  | 0, i, j => i = j
  | n + 1, i, j => ∃ k, R i k ∧ Iterates R n k j

/-- The repetition of the target dialect: an iteration that takes nothing is refused once the least
number of them is reached. -/
inductive Repeats (R : Nat → Nat → Prop) : Nat → Option Nat → Nat → Nat → Prop
  | done {most : Option Nat} {i : Nat} : Repeats R 0 most i i
  | more {least : Nat} {most : Option Nat} {i j k : Nat} (hmost : most ≠ some 0) (h : R i k)
      (hk : least = 0 → k ≠ i) (hrest : Repeats R (least - 1) (most.map (· - 1)) k j) :
      Repeats R least most i j

/-- Refusing iterations that take nothing costs no match. -/
theorem repeats_iff {R : Nat → Nat → Prop} {least : Nat} {most : Option Nat} {i j : Nat} :
    Repeats R least most i j ↔ ∃ n, least ≤ n ∧ (∀ m ∈ most, n ≤ m) ∧ Iterates R n i j := by
  constructor
  · intro h
    induction h with
    | done => exact ⟨0, le_rfl, fun _ _ => Nat.zero_le _, rfl⟩
    | @more least most i j k hmost h _ _ ih =>
      obtain ⟨n, hn, hm, hiter⟩ := ih
      refine ⟨n + 1, by omega, fun m hmem => ?_, k, h, hiter⟩
      have hpos : m ≠ 0 := by
        rintro rfl
        exact hmost hmem
      have hle := hm (m - 1) (Option.mem_map_of_mem _ hmem)
      omega
  · -- By induction on the number of iterations, with those that take nothing left out.
    rintro ⟨n, hn, hm, hiter⟩
    induction n generalizing least most i with
    | zero =>
      have hij : i = j := hiter
      obtain rfl : least = 0 := by omega
      subst hij
      exact .done
    | succ n ih =>
      obtain ⟨k, h, hrest⟩ := hiter
      by_cases hempty : least = 0 ∧ k = i
      · -- The iteration takes nothing and is not needed: leave it out.
        obtain ⟨rfl, rfl⟩ := hempty
        exact ih (Nat.zero_le _) (fun m hmem => by have := hm m hmem; omega) hrest
      · refine .more ?_ h (fun h0 hk => hempty ⟨h0, hk⟩) (ih (by omega) ?_ hrest)
        · rintro rfl
          have hle := hm 0 rfl
          omega
        · intro m hmem
          obtain ⟨m', hm', rfl⟩ := Option.mem_map.1 hmem
          have hle := hm m' hm'
          omega

/-! ## 2. The target dialect -/

/-- The code units of a text. -/
def utf16 (t : List Char) : List Nat :=
  t.flatMap fun c =>
    if c.toNat ≤ 0xFFFF then [c.toNat]
    else [0xD800 + (c.toNat - 0x10000) / 0x400, 0xDC00 + (c.toNat - 0x10000) % 0x400]

/-- In the basic plane each character is one code unit. -/
theorem utf16_eq_map {t : List Char} (h : ∀ c ∈ t, c.toNat ≤ 0xFFFF) :
    utf16 t = t.map Char.toNat := by
  induction t with
  | nil => rfl
  | cons c t ih =>
    obtain ⟨hc, ht⟩ := List.forall_mem_cons.1 h
    rw [utf16, List.flatMap_cons, if_pos hc, List.map_cons, ← ih ht]
    rfl

def IsDigitUnit (u : Nat) : Prop := 0x30 ≤ u ∧ u ≤ 0x39

/-- White space and line ends. -/
def IsSpaceUnit (u : Nat) : Prop :=
  u ∈ [0x09, 0x0A, 0x0B, 0x0C, 0x0D, 0x20, 0xA0, 0x1680, 0x2028, 0x2029, 0x202F, 0x205F, 0x3000,
    0xFEFF] ∨ 0x2000 ≤ u ∧ u ≤ 0x200A

def IsWordUnit (u : Nat) : Prop :=
  IsDigitUnit u ∨ 0x41 ≤ u ∧ u ≤ 0x5A ∨ 0x61 ≤ u ∧ u ≤ 0x7A ∨ u = 0x5F

def ClassEscape.Takes : ClassEscape → Nat → Prop
  | digit, u => IsDigitUnit u
  | notDigit, u => ¬ IsDigitUnit u
  | space, u => IsSpaceUnit u
  | notSpace, u => ¬ IsSpaceUnit u
  | word, u => IsWordUnit u
  | notWord, u => ¬ IsWordUnit u

namespace Grammar

/-- The code units that an atom takes.  A property class is no part of a pattern without flags. -/
def Atom.Takes : Atom → Nat → Prop
  | code n, u => u = n
  | escape e, u => e.Takes u
  | property .., _ => False

def Member.Takes : Member → Nat → Prop
  | atom a, u => a.Takes u
  | range lo hi, u => lo ≤ u ∧ u ≤ hi

def Leaf.Takes : Leaf → Nat → Prop
  | dot, u => u ∉ [0x0A, 0x0D, 0x2028, 0x2029]
  | atom a, u => a.Takes u
  | set false members, u => ∃ x ∈ members, x.Takes u
  | set true members, u => ¬ ∃ x ∈ members, x.Takes u

end Grammar

def EcmaAssertion.Holds (t : List Nat) (i : Nat) : EcmaAssertion → Prop
  | start => i = 0
  | stop => i = t.length
  | boundary => ¬(StandsBefore IsWordUnit t i ↔ StandsAfter IsWordUnit t i)
  | notBoundary => StandsBefore IsWordUnit t i ↔ StandsAfter IsWordUnit t i

def Quantifier.least : Quantifier → Nat
  | optional | any => 0
  | some => 1
  | exactly n | atLeast n | between n _ => n

def Quantifier.most : Quantifier → Option Nat
  | optional => .some 1
  | exactly n => .some n
  | between _ m => .some m
  | any | some | atLeast _ => none

/-- Whether a tree can match from one position of a text to another. -/
def Grammar.Tree.Matches (t : List Nat) : Tree → Nat → Nat → Prop
  | empty, i, j => i = j
  | cons term rest, i, j => ∃ k, term.Matches t i k ∧ rest.Matches t k j
  | either first rest, i, j => first.Matches t i j ∨ rest.Matches t i j
  | assertion a, i, j => i = j ∧ a.Holds t i
  | leaf l, i, j => TakesOne l.Takes t i j
  | group _ body, i, j => body.Matches t i j
  | quantified operand q _, i, j => Repeats (operand.Matches t) q.least q.most i j

/-- Whether the pattern that a text is can match from one position to another. -/
def PatternMatches (pattern : List Char) (t : List Nat) (i j : Nat) : Prop :=
  ∃ tree, Reads .units false .disjunction pattern [] tree ∧ tree.Matches t i j

/-! ## 3. The source dialect -/

/-- The characters whose code points are in a set. -/
def InSet (s : Unicode.CodeSet) (c : Char) : Prop := c.toNat ∈ s

def Assertion.Holds (t : List Char) (i : Nat) : Assertion → Prop
  | startLine | startText => i = 0
  | endLine | endText => i = t.length
  | boundary => ¬(StandsBefore (InSet Unicode.wordChars) t i ↔
      StandsAfter (InSet Unicode.wordChars) t i)
  | notBoundary => StandsBefore (InSet Unicode.wordChars) t i ↔
      StandsAfter (InSet Unicode.wordChars) t i
  | wordStart | wordStartAngle => ¬ StandsBefore (InSet Unicode.wordChars) t i ∧
      StandsAfter (InSet Unicode.wordChars) t i
  | wordEnd | wordEndAngle => StandsBefore (InSet Unicode.wordChars) t i ∧
      ¬ StandsAfter (InSet Unicode.wordChars) t i
  | wordStartHalf => ¬ StandsBefore (InSet Unicode.wordChars) t i
  | wordEndHalf => ¬ StandsAfter (InSet Unicode.wordChars) t i

/-- Whether a repetition may take a number of iterations. -/
def Count.Allows : Count → Nat → Prop
  | optional, n => n ≤ 1
  | any, _ => True
  | some, n => 1 ≤ n
  | exactly m, n => n = m
  | atLeast m, n => m ≤ n
  | between l m, n => l ≤ n ∧ n ≤ m

mutual

/-- Whether a pattern can match from one position of a text to another.  A part that takes one
character takes those of the set that it denotes. -/
def Regex.Matches (t : List Char) (f : Flags) : Regex → Nat → Nat → Prop
  | .empty _, i, j | .flags .., i, j => i = j
  | .literal l, i, j =>
    TakesOne (InSet (finishSet f.ignoreCase false ⟨[.single l.char.toNat]⟩)) t i j
  | .dot _, i, j => TakesOne (fun c => f.dotMatchesNewline = true ∨ c ≠ '\n') t i j
  | .assertion _ a, i, j => i = j ∧ a.Holds t i
  | .property p, i, j => TakesOne (InSet (finishSet f.ignoreCase p.excludes p.codeSet)) t i j
  | .shorthand s, i, j => TakesOne (InSet (finishSet false s.negated s.kind.codeSet)) t i j
  | .bracket _ negated body, i, j =>
    TakesOne (InSet (finishSet f.ignoreCase negated (body.codeSet f.ignoreCase))) t i j
  | .repetition _ count _ body, i, j => ∃ n, count.Allows n ∧ Iterates (body.Matches t f) n i j
  | .group _ kind body, i, j => body.Matches t (kind.inside f) i j
  | .alternation _ rs, i, j => Regex.SomeMatches t f rs i j
  | .concat _ rs, i, j => Regex.RowMatches t f rs i j

def Regex.SomeMatches (t : List Char) (f : Flags) : List Regex → Nat → Nat → Prop
  | [], _, _ => False
  | r :: rest, i, j => r.Matches t f i j ∨ Regex.SomeMatches t (r.flagsAfter f) rest i j

def Regex.RowMatches (t : List Char) (f : Flags) : List Regex → Nat → Nat → Prop
  | [], i, j => i = j
  | r :: rest, i, j => ∃ k, r.Matches t f i k ∧ Regex.RowMatches t (r.flagsAfter f) rest k j

end

/-- The quantifier of a repetition asks for the same numbers of iterations. -/
theorem Count.allows_iff {count : Count} {n : Nat} :
    count.Allows n ↔ count.toEcma.least ≤ n ∧ ∀ m ∈ count.toEcma.most, n ≤ m := by
  cases count <;>
    simp only [Count.Allows, Count.toEcma, Quantifier.least, Quantifier.most, Option.mem_def,
      Option.some.injEq, forall_eq', reduceCtorEq, false_imp_iff, implies_true, and_true,
      Nat.zero_le, true_and]
  omega

end ProtoSchema.Pattern
