import ProtoSchema.Descriptor.ScalarKind
import ProtoSchema.Proofs.Pattern.Words

/-!
# Decimal strings

The patterns of the strings that stand for 64-bit integers, put together from parts, and the
languages of these parts.  The decimal digits of an integer are a word of them.

A hyphen at the end of a class stands for itself, and the grammar reads it after a backslash only,
so a pattern with such a hyphen is read with the hyphen escaped.
-/

namespace ProtoSchema.Pattern

open Grammar
open scoped Computability

/-- The pattern with a backslash before each hyphen that ends a class. -/
def escapeHyphens : List Char → List Char
  | '\\' :: c :: k => '\\' :: c :: escapeHyphens k
  | '-' :: ']' :: k => '\\' :: '-' :: ']' :: escapeHyphens k
  | c :: k => c :: escapeHyphens k
  | [] => []

example : escapeHyphens ['[', '+', '-', ']', '-', '\\', '-', ']'] =
    ['[', '+', '\\', '-', ']', '-', '\\', '-', ']'] := by decide

/-! ## 1. Single characters -/

section

variable {m : Mode}

/-- Characters of the basic plane are matched as their code points in both modes. -/
theorem encodeText_eq_map (m : Mode) {t : List Char} (h : ∀ c ∈ t, c.toNat ≤ 0xFFFF) :
    m.encodeText t = t.map Char.toNat := by
  have hencode : ∀ c ∈ t, m.encode c = [c.toNat] := by
    intro c hc
    cases m with
    | points => rfl
    | units => exact if_pos (h c hc)
  rw [Mode.encodeText, List.flatMap_congr hencode, List.map_eq_flatMap]

theorem spells_char {c : Char} (hc : c.toNat ≤ 0xFFFF) :
    (Ecma.char c).SpellsOperand m (letters (· = c.toNat)) := by
  have htakes : m.takes c = true := m.takes_of_le hc
  refine Ecma.spellsOperand_leaf (l := .atom (.code c.toNat)) (fun k => ?_) rfl fun _ => Iff.rfl
  rw [Ecma.print, m.source_eq_self (takes_escapeChar htakes)]
  exact .atom (covers_outside.atom? htakes k)

/-- A class that is written in the basic plane and has no property classes. -/
theorem spells_set {ms : List ClassMember} {P : Nat → Prop} (hfits : ∀ x ∈ ms, x.Fits m)
    (hbasic : (Ecma.set false ms).print.all (·.toNat ≤ 0xFFFF) = true)
    (hfree : (ms.map ClassMember.member).all (·.isPropertyFree) = true)
    (hP : ∀ u, (∃ x ∈ ms.map ClassMember.member, x.Takes u) ↔ P u) :
    (Ecma.set false ms).SpellsOperand m (letters P) := by
  have hsource : m.source (Ecma.set false ms).print = (Ecma.set false ms).print :=
    m.source_eq_self fun c hc =>
      m.takes_of_le (of_decide_eq_true (List.all_eq_true.1 hbasic c hc))
  refine Ecma.spellsOperand_leaf (l := .set false (ms.map ClassMember.member)) (fun k => ?_)
    hfree hP
  rw [hsource]
  exact readsLeaf_set hfits false k

/-- A class of two characters. -/
theorem spells_pair {c d : Char} (hc : c.toNat ≤ 0xFFFF) (hd : d.toNat ≤ 0xFFFF)
    (hbasic : (Ecma.set false [.single (.char c), .single (.char d)]).print.all
      (·.toNat ≤ 0xFFFF) = true) :
    (Ecma.set false [.single (.char c), .single (.char d)]).SpellsOperand m
      (letters fun u => u = c.toNat ∨ u = d.toNat) := by
  have hfits : ∀ x ∈ [ClassMember.single (.char c), .single (.char d)], x.Fits m :=
    List.forall_mem_cons.2 ⟨m.takes_of_le hc, List.forall_mem_singleton.2 (m.takes_of_le hd)⟩
  refine spells_set hfits hbasic rfl fun u => ?_
  simp [ClassMember.member, Member.Takes, ClassAtom.code, Atom.Takes]

end

namespace Decimal

/-! ## 2. Languages -/

def digit : Language Nat := letters IsDigitUnit

def nonzero : Language Nat := letters fun u => 0x31 ≤ u ∧ u ≤ 0x39

/-- Digits without zeros in front. -/
def whole : Language Nat := letters (· = '0'.toNat) + nonzero * digit∗

def fraction : Language Nat := 1 + letters (· = '.'.toNat) * (digit * digit∗)

def exponent : Language Nat :=
  1 + letters (fun u => u = 'e'.toNat ∨ u = 'E'.toNat) *
    ((1 + letters fun u => u = '+'.toNat ∨ u = '-'.toNat) * (digit * digit∗))

/-- The decimal strings of unsigned integers. -/
def unsigned : Language Nat := whole * (fraction * exponent)

/-- The decimal strings of signed integers. -/
def signed : Language Nat := (1 + letters (· = '-'.toNat)) * unsigned

/-! ## 3. Parts that spell them -/

def wholePart : Ecma :=
  -- (?:0|[1-9]\d*)
  .group false (.alternation [.char '0',
    .concat [.set false [.range (.char '1') (.char '9')], .repetition .any false (.escape .digit)]])

def fractionPart : Ecma :=
  -- (?:\.\d+)?
  .repetition .optional false (.group false (.alternation
    [.concat [.char '.', .repetition .some false (.escape .digit)]]))

def exponentPart : Ecma :=
  -- (?:[eE][+\-]?\d+)?
  .repetition .optional false (.group false (.alternation
    [.concat [.set false [.single (.char 'e'), .single (.char 'E')],
      .repetition .optional false (.set false [.single (.char '+'), .single (.char '-')]),
      .repetition .some false (.escape .digit)]]))

def unsignedPart : Ecma := .concat [wholePart, fractionPart, exponentPart]

def signedPart : Ecma := .concat [.repetition .optional false (.char '-'), unsignedPart]

section

variable {m : Mode}

theorem spells_digit : (Ecma.escape .digit).SpellsOperand m digit := by
  refine Ecma.spellsOperand_leaf (l := .atom (.escape .digit)) (fun k => ?_) rfl fun _ => Iff.rfl
  have hsource : m.source (Ecma.escape .digit).print = (Ecma.escape .digit).print := by
    cases m <;> rfl
  rw [hsource]
  exact .atom (atom?_classEscape m _ _ .digit k)

theorem spells_nonzero :
    (Ecma.set false [.range (.char '1') (.char '9')]).SpellsOperand m nonzero := by
  have hfits : (ClassMember.range (.char '1') (.char '9')).Fits m :=
    ⟨m.takes_of_le (by decide), m.takes_of_le (by decide), by decide⟩
  refine spells_set (List.forall_mem_singleton.2 hfits) (by decide) rfl fun u => ?_
  simp [ClassMember.member, Member.Takes, ClassAtom.code]

/-- The digits in front of a point, in a group of either kind. -/
theorem spellsOperand_whole (capturing : Bool) :
    (Ecma.group capturing (.alternation [.char '0',
      .concat [.set false [.range (.char '1') (.char '9')],
        .repetition .any false (.escape .digit)]])).SpellsOperand m whole := by
  have hbranch := Ecma.spells_concat
    (.cons (spells_nonzero (m := m)).spells (.cons (Ecma.spells_any spells_digit) .nil))
  have hgroup := Ecma.spellsOperand_group capturing
    (.cons (spells_char (c := '0') (by decide)).spells (.cons hbranch .nil)) (List.cons_ne_nil _ _)
  have hwhole : [letters (· = '0'.toNat), [nonzero, digit∗].prod].sum = whole := by simp [whole]
  exact hwhole ▸ hgroup

theorem spells_wholePart : wholePart.Spells m whole := (spellsOperand_whole false).spells

/-- A point and the digits after it, in a group of either kind that may be left out. -/
theorem spells_fraction (capturing : Bool) :
    (Ecma.repetition .optional false (.group capturing (.alternation
      [.concat [.char '.', .repetition .some false (.escape .digit)]]))).Spells m fraction := by
  have hbranch := Ecma.spells_concat
    (.cons (spells_char (m := m) (c := '.') (by decide)).spells
      (.cons (Ecma.spells_some spells_digit) .nil))
  have hgroup := Ecma.spellsOperand_group capturing (.cons hbranch .nil) (List.cons_ne_nil _ _)
  have hfraction :
      1 + [[letters (· = '.'.toNat), digit * digit∗].prod].sum = fraction := by simp [fraction]
  exact hfraction ▸ Ecma.spells_optional hgroup

theorem spells_fractionPart : fractionPart.Spells m fraction := spells_fraction false

theorem spells_exponentPart : exponentPart.Spells m exponent := by
  have hmark := spells_pair (m := m) (c := 'e') (d := 'E') (by decide) (by decide) (by decide)
  have hsign := spells_pair (m := m) (c := '+') (d := '-') (by decide) (by decide) (by decide)
  have hbranch := Ecma.spells_concat
    (.cons hmark.spells (.cons (Ecma.spells_optional hsign)
      (.cons (Ecma.spells_some spells_digit) .nil)))
  have hgroup := Ecma.spellsOperand_group false (.cons hbranch .nil) (List.cons_ne_nil _ _)
  have hexponent : 1 + [[letters (fun u => u = 'e'.toNat ∨ u = 'E'.toNat),
      1 + letters (fun u => u = '+'.toNat ∨ u = '-'.toNat), digit * digit∗].prod].sum =
        exponent := by
    simp [exponent]
  exact hexponent ▸ Ecma.spells_optional hgroup

theorem spells_unsignedPart : unsignedPart.Spells m unsigned := by
  have hparts := Ecma.spells_concat
    (.cons (spells_wholePart (m := m)) (.cons spells_fractionPart (.cons spells_exponentPart .nil)))
  have hunsigned : [whole, fraction, exponent].prod = unsigned := by simp [unsigned]
  exact hunsigned ▸ hparts

theorem spells_signedPart : signedPart.Spells m signed := by
  have hminus := Ecma.spells_optional (spells_char (m := m) (c := '-') (by decide))
  have hparts := Ecma.spells_concat (.cons hminus (.cons spells_unsignedPart .nil))
  have hsigned : [1 + letters (· = '-'.toNat), unsigned].prod = signed := by simp [signed]
  exact hsigned ▸ hparts

end

/-- The patterns of decimal strings are written from their parts, but for a hyphen. -/
theorem escapeHyphens_unsignedDecimal : escapeHyphens NumericKind.unsignedDecimal.toList =
    (Ecma.concat [.assertion .start, unsignedPart, .assertion .stop]).text.toList := by
  rfl

theorem escapeHyphens_signedDecimal : escapeHyphens NumericKind.signedDecimal.toList =
    (Ecma.concat [.assertion .start, signedPart, .assertion .stop]).text.toList := by
  rfl

/-! ## 4. The digits of integers -/

/-- The digits of a positive number start with one that is not zero. -/
theorem toDigits_mem_positive {n : Nat} (hn : 0 < n) :
    (Nat.toDigits 10 n).map Char.toNat ∈ nonzero * digit∗ := by
  have digitChar : ∀ d < 10, (Nat.digitChar d).toNat = 0x30 + d := by decide
  induction n using Nat.base_induction 10 (by decide) with
  | single d hd =>
    have hfirst : [(Nat.digitChar d).toNat] ∈ nonzero := by
      refine singleton_mem_letters ?_
      rw [digitChar d hd]
      omega
    rw [Nat.toDigits_of_lt_base hd]
    exact Language.append_mem_mul hfirst (Language.nil_mem_kstar digit)
  | digit n d hd hpos ih =>
    have hlast : [(Nat.digitChar d).toNat] ∈ digit := by
      refine singleton_mem_letters ?_
      rw [digitChar d hd, IsDigitUnit]
      omega
    -- The last digit is one more iteration at the end of those that follow the first digit.
    obtain ⟨v, hv, w, hw, hvw⟩ := Language.mem_mul.1 (ih hpos)
    rw [← Nat.toDigits_append_toDigits (by decide) hpos hd, List.map_append, ← hvw,
      Nat.toDigits_of_lt_base hd, List.append_assoc]
    have hdigits : w ++ [(Nat.digitChar d).toNat] ∈ digit∗ :=
      Set.mem_of_mem_of_subset (Language.append_mem_mul hw hlast) (kstar_mul_le_kstar (a := digit))
    exact Language.append_mem_mul hv hdigits

theorem toDigits_mem_whole (n : Nat) : (Nat.toDigits 10 n).map Char.toNat ∈ whole := by
  rcases Nat.eq_zero_or_pos n with rfl | hn
  · exact .inl (singleton_mem_letters rfl)
  · exact .inr (toDigits_mem_positive hn)

theorem whole_le_unsigned : whole ≤ unsigned := by
  intro w hw
  -- The fraction and the exponent may both be left out.
  have hrest : [] ++ [] ∈ fraction * exponent :=
    Language.append_mem_mul (.inl Language.nil_mem_one) (.inl Language.nil_mem_one)
  have hmem : w ++ [] ∈ unsigned := Language.append_mem_mul hw hrest
  rwa [List.append_nil] at hmem

theorem isDigitUnit_toNat {c : Char} (h : Text.isDigit c = true) : IsDigitUnit c.toNat := by
  rw [Text.isDigit, Bool.and_eq_true, decide_eq_true_eq, decide_eq_true_eq] at h
  exact h

theorem encodeText_digits (m : Mode) {ds : List Char} (h : ∀ c ∈ ds, Text.isDigit c = true) :
    m.encodeText ds = ds.map Char.toNat :=
  encodeText_eq_map m fun c hc => (isDigitUnit_toNat (h c hc)).2.trans (by decide)

/-- Digits that are there at all are what stands after a point. -/
theorem digits_mem {ds : List Char} (h : ∀ c ∈ ds, Text.isDigit c = true) (hne : ds ≠ []) :
    ds.map Char.toNat ∈ digit * digit∗ := by
  have hone : ∀ c ∈ ds, [c.toNat] ∈ digit :=
    fun c hc => singleton_mem_letters (isDigitUnit_toNat (h c hc))
  have hrow : ds.map Char.toNat = (ds.map fun c => [c.toNat]).flatten := by
    rw [← List.flatMap_def, List.map_eq_flatMap]
  obtain ⟨c, ds, rfl⟩ := List.exists_cons_of_ne_nil hne
  rw [hrow, List.map_cons, List.flatten_cons]
  refine Language.append_mem_mul (hone c List.mem_cons_self) (Language.join_mem_kstar ?_)
  intro w hw
  obtain ⟨d, hd, rfl⟩ := List.mem_map.1 hw
  exact hone d (List.mem_cons_of_mem _ hd)

theorem toString_nat_mem_unsigned (m : Mode) (n : Nat) :
    m.encodeText (toString n).toList ∈ unsigned := by
  rw [Nat.toString_eq_repr, Nat.toList_repr, encodeText_digits m fun _ => isDigit_toDigits]
  exact whole_le_unsigned (toDigits_mem_whole n)

/-- A negative integer is spelled as its absolute value after a hyphen. -/
theorem toString_int_mem_signed (m : Mode) (n : Int) :
    m.encodeText (toString n).toList ∈ signed := by
  cases n with
  | ofNat n =>
    have hspelled : toString (Int.ofNat n) = toString n := rfl
    have hnone : [] ∈ 1 + letters (· = '-'.toNat) := .inl Language.nil_mem_one
    rw [hspelled]
    exact Language.append_mem_mul hnone (toString_nat_mem_unsigned m n)
  | negSucc n =>
    have hspelled : toString (Int.negSucc n) = "-" ++ toString (n + 1) := rfl
    have hlist : "-".toList = ['-'] := rfl
    have hminus : m.encodeText ['-'] ∈ 1 + letters (· = '-'.toNat) := by
      have hencode : m.encodeText ['-'] = ['-'.toNat] := by cases m <;> rfl
      exact .inr (hencode ▸ singleton_mem_letters rfl)
    rw [hspelled, String.toList_append, hlist, m.encodeText_append]
    exact Language.append_mem_mul hminus (toString_nat_mem_unsigned m (n + 1))

/-- The decimal string of an unsigned integer starts with a digit. -/
theorem unsigned_start {w : List Nat} (h : w ∈ unsigned) : ∃ u v, w = u :: v ∧ IsDigitUnit u := by
  obtain ⟨v, hv, rest, -, rfl⟩ := Language.mem_mul.1 h
  -- What stands in front is a zero or a digit that is not zero.
  rcases hv with ⟨u, rfl, rfl⟩ | hv
  · exact ⟨_, _, rfl, by decide, by decide⟩
  · obtain ⟨_, ⟨u, hu, rfl⟩, ds, -, rfl⟩ := Language.mem_mul.1 hv
    exact ⟨_, _, rfl, by omega, by omega⟩

theorem unsigned_head {m : Mode} {t : List Char} (h : m.encodeText t ∈ unsigned) :
    t.head? ≠ some '-' := by
  intro hhead
  obtain ⟨rest, rfl⟩ := List.head?_eq_some_iff.1 hhead
  obtain ⟨u, v, huv, hu⟩ := unsigned_start h
  have hencode : m.encodeText ('-' :: rest) = '-'.toNat :: m.encodeText rest := by
    cases m <;> rfl
  rw [hencode] at huv
  obtain ⟨rfl, -⟩ := List.cons.inj huv
  exact absurd hu.1 (by decide)

end Decimal

end ProtoSchema.Pattern
