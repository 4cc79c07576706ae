import ProtoSchema.Proofs.Constraint.Bounds
import ProtoSchema.Proofs.Generation.Leaves
import ProtoSchema.Proofs.Pattern.Decimal

/-!
# Schemas of numbers

Rules on numbers come to what they say: a number is accepted if it belongs to the kind and satisfies
all of them.  The decimal strings of 64-bit integers are beyond the rules, and every integer of the
kind has one.
-/

namespace ProtoSchema

open Pattern Grammar Generation

/-! ## 1. The integers of a kind -/

namespace NumericKind

/-- How many bits the integers of a kind have. -/
def width? : NumericKind → Option Nat
  | int32 | uint32 | sint32 | fixed32 | sfixed32 => some 32
  | int64 | uint64 | sint64 | fixed64 | sfixed64 => some 64
  | float | double => none

/-- The integer is one of the kind. -/
def Has (kind : NumericKind) (n : Int) : Prop :=
  ∃ w ∈ kind.width?, match kind.domain with
    | .natural => 0 ≤ n ∧ n < 2 ^ w
    | .integer => -2 ^ (w - 1) ≤ n ∧ n < 2 ^ (w - 1)
    | .real => False

theorem Has.nonneg {kind : NumericKind} {n : Int} (h : kind.Has n)
    (hkind : kind.domain = .natural) : 0 ≤ n := by
  obtain ⟨w, -, h⟩ := h
  rw [hkind] at h
  exact h.1

/-- The kinds of 64 bits are those with decimal strings. -/
theorem decimalPattern?_of_wide {kind : NumericKind} (h : kind.width? = some 64) :
    kind.domain = .natural ∧ kind.decimalPattern? = some unsignedDecimal ∨
      kind.domain = .integer ∧ kind.decimalPattern? = some signedDecimal := by
  cases kind <;> first
    | exact .inl ⟨rfl, rfl⟩
    | exact .inr ⟨rfl, rfl⟩
    | cases h

theorem width?_of_decimalPattern? {kind : NumericKind} {pattern : String}
    (h : pattern ∈ kind.decimalPattern?) : kind.width? = some 64 := by
  cases kind <;> first
    | rfl
    | cases h

end NumericKind

/-! ## 2. Bounds -/

/-- The number belongs to a domain and satisfies every rule that is given. -/
structure NumericRules.Satisfied (domain : NumberDomain) (r : NumberRules) (n : Number) : Prop where
  integral : domain ≠ .real → n.Integral
  natural : domain = .natural → Number.zero.AtMost n
  equals : ∀ x ∈ r.equals, n.Same x
  allow : r.allow = [] ∨ ∃ x ∈ r.allow, n.Same x
  deny : ∀ x ∈ r.deny, ¬ n.Same x
  gt : ∀ x ∈ r.gt, x.Less n
  gte : ∀ x ∈ r.gte, x.AtMost n
  lt : ∀ x ∈ r.lt, n.Less x
  lte : ∀ x ∈ r.lte, n.AtMost x

/-- The bounds of rules that are given in the numbers of a kind, or of none. -/
inductive NumericKind.Bounds : NumericKind → NumberRules → Prop
  | none (kind : NumericKind) : Bounds kind {}
  | integers {kind : NumericKind} {r : NumericRules Int} {b : NumberRules}
      (hr : ∀ n ∈ r.numbers, kind.Has n) (hkind : kind.domain ≠ .real)
      (h : r.bounds (fun n => some (.int n)) = .ok b) : Bounds kind b
  | double {r : NumericRules BinaryFloat} {b : NumberRules}
      (h : r.bounds Number.ofBinary64? = .ok b) : Bounds .double b
  | float {r : NumericRules BinaryFloat} {b : NumberRules}
      (h : r.bounds Number.ofBinary32? = .ok b) : Bounds .float b

theorem Number.int_atMost_int {a b : Int} : (Number.int a).AtMost (.int b) ↔ a ≤ b := by
  simp [Number.AtMost, Number.value]

theorem Number.AtMost.trans {a b c : Number} (hab : a.AtMost b) (hbc : b.AtMost c) :
    a.AtMost c := by
  obtain ⟨x, y, hx, hy, hxy⟩ := hab
  obtain ⟨y', z, hy', hz, hyz⟩ := hbc
  cases hy.symm.trans hy'
  exact ⟨x, z, hx, hz, hxy.trans hyz⟩

/-- A least value that is given for natural numbers is natural. -/
theorem NumericKind.Bounds.zero_atMost_gte {kind : NumericKind} {b : NumberRules}
    (h : kind.Bounds b) (hkind : kind.domain = .natural) : ∀ x ∈ b.gte, Number.zero.AtMost x := by
  intro x hx
  cases h with
  | none => cases hx
  | @integers _ r _ hr _ h =>
    have hgte := (NumericRules.bounds_eq_ok h).gte
    rw [Option.mem_def.1 hx] at hgte
    generalize hn : r.gte = least at hgte
    cases hgte with
    | @some n _ hnx =>
      cases hnx
      have hmem : n ∈ r.numbers := by simp [NumericRules.numbers, hn]
      exact Number.int_atMost_int.2 ((hr n hmem).nonneg hkind)
  -- The other kinds are of real numbers.
  | double | float => cases hkind

theorem NumericRules.admits_iff_satisfied {domain : NumberDomain} {r : NumberRules} {n : Number}
    (hgte : domain = .natural → ∀ x ∈ r.gte, Number.zero.AtMost x) :
    r.Admits domain n ↔ r.Satisfied domain n := by
  constructor
  · intro h
    refine { h with natural := fun hdomain => ?_ }
    -- A least value takes the place of zero, but it is not below zero.
    cases hleast : r.gte with
    | none => exact h.natural hdomain hleast
    | some x => exact (hgte hdomain x hleast).trans (h.gte x hleast)
  · exact fun h => { h with natural := fun hdomain _ => h.natural hdomain }

/-! ## 3. Decimal strings -/

/-- The dialect reads patterns as a mode of the grammar does, where a hyphen may also stand for
itself at the end of a class. -/
def Dialect.ReadsHyphens (m : Mode) (δ : Dialect) : Prop :=
  ∀ p tree, Reads m false .disjunction (m.source (escapeHyphens p.toList)) [] tree →
    tree.isPropertyFree = true →
      ∀ text : String, δ.Matches p text ↔ ∃ i j, tree.Matches (m.encodeText text.toList) i j

/-- The dialect of a mode that reads such hyphens and knows no formats. -/
def hyphenated (m : Mode) : Dialect where
  Matches := fun p text => m.Finds (escapeHyphens p.toList) text.toList
  HasFormat := fun _ _ => False

theorem hyphenated_readsHyphens (m : Mode) : (hyphenated m).ReadsHyphens m :=
  fun _ _ hread _ _ => m.finds_iff hread

section

variable {m : Mode} {δ : Dialect}

theorem Dialect.ReadsHyphens.matches_iff (hδ : δ.ReadsHyphens m) {p : String} {r : Ecma}
    {P : List Char → Prop} (hp : escapeHyphens p.toList = r.text.toList) (h : r.Selects m P)
    {text : String} : δ.Matches p text ↔ P text.toList := by
  obtain ⟨tree, hread, hfree, hmatch⟩ := h.reads
  rw [← hp] at hread
  exact (hδ p tree hread hfree text).trans (hmatch _)

theorem matches_unsignedDecimal (hδ : δ.ReadsHyphens m) {text : String} :
    δ.Matches NumericKind.unsignedDecimal text ↔ m.encodeText text.toList ∈ Decimal.unsigned :=
  hδ.matches_iff Decimal.escapeHyphens_unsignedDecimal
    (Ecma.selects_whole Decimal.spells_unsignedPart)

theorem matches_signedDecimal (hδ : δ.ReadsHyphens m) {text : String} :
    δ.Matches NumericKind.signedDecimal text ↔ m.encodeText text.toList ∈ Decimal.signed :=
  hδ.matches_iff Decimal.escapeHyphens_signedDecimal
    (Ecma.selects_whole Decimal.spells_signedPart)

/-- Integers of 64 bits have decimal strings, and natural ones have no others. -/
theorem decimalPattern?_exact (hδ : δ.ReadsHyphens m) {kind : NumericKind}
    (hkind : kind.width? = some 64) : ∃ pattern ∈ kind.decimalPattern?,
      (∀ n, kind.Has n → δ.Matches pattern (toString n)) ∧
        (kind.domain = .natural →
          ∀ text, δ.Matches pattern text → text.toList.head? ≠ some '-') := by
  rcases kind.decimalPattern?_of_wide hkind with ⟨hnatural, hpattern⟩ | ⟨hinteger, hpattern⟩
  · refine ⟨_, hpattern, fun n hn => ?_, fun _ text hmatch => ?_⟩
    · obtain ⟨k, rfl⟩ := Int.eq_ofNat_of_zero_le (hn.nonneg hnatural)
      exact (matches_unsignedDecimal hδ).2 (Decimal.toString_nat_mem_unsigned m k)
    · exact Decimal.unsigned_head ((matches_unsignedDecimal hδ).1 hmatch)
  · refine ⟨_, hpattern, fun n _ => ?_, fun hnatural => ?_⟩
    · exact (matches_signedDecimal hδ).2 (Decimal.toString_int_mem_signed m n)
    · rw [hinteger] at hnatural
      cases hnatural

end

/-! ## 4. Schemas -/

namespace Generation

/-- The schema of a kind accepts the numbers of its domain that satisfy every rule, and for integers
of 64 bits the strings of a pattern, whatever the rules.  Every integer of the kind in plain decimal
is such a string, and no string with a hyphen in front is one if the kind is of natural numbers. -/
theorem numericSchema_exact {m : Mode} {δ : Dialect} (hδ : δ.ReadsHyphens m) {kind : NumericKind}
    {b : NumberRules} (hb : kind.Bounds b) :
    (∀ refs v, (numericSchema kind b).Holds δ refs v ↔
      (∃ n, v = .number n ∧ b.Satisfied kind.domain n) ∨
        (kind.width? = some 64 ∧ ∃ text, v = .string text ∧
          ∃ pattern ∈ kind.decimalPattern?, δ.Matches pattern text)) ∧
      (kind.width? = some 64 → ∃ pattern ∈ kind.decimalPattern?,
        (∀ n, kind.Has n → δ.Matches pattern (toString n)) ∧
          (kind.domain = .natural →
            ∀ text, δ.Matches pattern text → text.toList.head? ≠ some '-')) := by
  refine ⟨fun refs v => ?_, decimalPattern?_exact hδ⟩
  rw [holds_numericSchema, NumericConforms]
  simp only [NumericRules.admits_iff_satisfied hb.zero_atMost_gte]
  -- Only kinds of 64 bits have a pattern, so both sides are about the same strings.
  refine or_congr_right ⟨?_, ?_⟩
  · rintro ⟨pattern, hpattern, text, rfl, hmatch⟩
    exact ⟨kind.width?_of_decimalPattern? hpattern, text, rfl, pattern, hpattern, hmatch⟩
  · rintro ⟨-, text, rfl, pattern, hpattern, hmatch⟩
    exact ⟨pattern, hpattern, text, rfl, hmatch⟩

/-- A number that the rules leave out may still be written as a string. -/
theorem denied_number_spelled :
    NumericKind.uint64.Bounds { gte := some (.int 5), deny := [.int 7] } ∧
      (hyphenated .units).ReadsHyphens .units ∧
      ∃ s, s = numericSchema .uint64 { gte := some (.int 5), deny := [.int 7] } ∧
        s.Holds (hyphenated .units) (fun _ _ => False) (.number (.int 6)) ∧
        ¬ s.Holds (hyphenated .units) (fun _ _ => False) (.number (.int 7)) ∧
        s.Holds (hyphenated .units) (fun _ _ => False) (.string "7") := by
  have hbounds : NumericKind.uint64.Bounds { gte := some (.int 5), deny := [.int 7] } := by
    have hnumbers : ∀ n ∈ [5, 7], NumericKind.uint64.Has n :=
      List.forall_mem_cons.2 ⟨⟨64, rfl, by decide, by decide⟩,
        List.forall_mem_singleton.2 ⟨64, rfl, by decide, by decide⟩⟩
    exact .integers (r := { gte := some 5, deny := [7] }) hnumbers nofun rfl
  obtain ⟨hholds, hspelled⟩ := numericSchema_exact (hyphenated_readsHyphens .units) hbounds
  obtain ⟨pattern, hpattern, hevery, -⟩ := hspelled rfl
  refine ⟨hbounds, hyphenated_readsHyphens .units, _, rfl, ?_, ?_, ?_⟩
  · refine (hholds _ _).2 (.inl ⟨.int 6, rfl, ?_⟩)
    exact {
      integral := fun _ => ⟨6, rfl⟩
      natural := fun _ => Number.int_atMost_int.2 (by decide)
      equals := nofun
      allow := .inl rfl
      deny := List.forall_mem_singleton.2 (by simp [Number.Same, Number.value])
      gt := nofun
      gte := fun x hx => by
        cases hx
        exact Number.int_atMost_int.2 (by decide)
      lt := nofun
      lte := nofun }
  · intro h
    rcases (hholds _ _).1 h with ⟨n, hn, hsatisfied⟩ | ⟨-, text, htext, -⟩
    · cases hn
      exact hsatisfied.deny (.int 7) List.mem_cons_self rfl
    · cases htext
  · have hseven : NumericKind.uint64.Has 7 := ⟨64, rfl, by decide, by decide⟩
    exact (hholds _ _).2 (.inr ⟨rfl, "7", rfl, pattern, hpattern, hevery 7 hseven⟩)

end Generation

end ProtoSchema
