import ProtoSchema.Proofs.Pattern.Denotation

/-!
# Patterns and languages

A part of a pattern that looks at nothing but the elements that it takes matches the words of a
language.  Rows, branches and repetitions of such parts are products, sums and iterations of their
languages.
-/

namespace ProtoSchema.Pattern

open Grammar
open scoped Computability

/-- The words of one element that has a property. -/
def letters (P : Nat → Prop) : Language Nat := fun w => ∃ x, P x ∧ w = [x]

theorem singleton_mem_letters {P : Nat → Prop} {x : Nat} (h : P x) : [x] ∈ letters P :=
  ⟨x, h, rfl⟩

/-! ## 1. Words between positions -/

namespace Spans

/-- The positions with a word of a language between them. -/
def words (L : Language Nat) : Spans := fun u i j => ∃ w ∈ L, text w u i j

theorem text_append {v w u : List Nat} {i j : Nat} :
    text (v ++ w) u i j ↔ ∃ k, text v u i k ∧ text w u k j := by
  unfold text
  constructor
  · rintro ⟨⟨rest, hrest⟩, rfl⟩
    rw [List.append_assoc] at hrest
    -- The second word stands where the first one ends.
    refine ⟨i + v.length, ⟨⟨_, hrest⟩, rfl⟩, ⟨rest, ?_⟩, by rw [List.length_append, Nat.add_assoc]⟩
    rw [← List.drop_drop, ← hrest, List.drop_left]
  · rintro ⟨_, ⟨⟨rest, hrest⟩, rfl⟩, hw, rfl⟩
    rw [← List.drop_drop, ← hrest, List.drop_left] at hw
    obtain ⟨rest', rfl⟩ := hw
    refine ⟨⟨rest', ?_⟩, by rw [List.length_append, Nat.add_assoc]⟩
    rw [← hrest, List.append_assoc]

theorem words_one : words 1 = row [] := by
  funext u i j
  apply propext
  constructor
  · rintro ⟨w, hw, -, rfl⟩
    rw [(Language.mem_one w).1 hw]
    rfl
  · rintro rfl
    exact ⟨[], Language.nil_mem_one, List.nil_prefix, rfl⟩

theorem words_mul (L M : Language Nat) : words (L * M) = (words L).andThen (words M) := by
  funext u i j
  apply propext
  constructor
  · rintro ⟨_, hvw, htext⟩
    obtain ⟨v, hv, w, hw, rfl⟩ := Language.mem_mul.1 hvw
    obtain ⟨k, hvk, hwk⟩ := text_append.1 htext
    exact ⟨k, ⟨v, hv, hvk⟩, w, hw, hwk⟩
  · rintro ⟨k, ⟨v, hv, hvk⟩, w, hw, hwk⟩
    exact ⟨v ++ w, Language.append_mem_mul hv hw, text_append.2 ⟨k, hvk, hwk⟩⟩

theorem row_words (Ls : List (Language Nat)) : row (Ls.map words) = words Ls.prod := by
  induction Ls with
  | nil => exact words_one.symm
  | cons L Ls ih => rw [List.map_cons, row, ih, List.prod_cons, words_mul]

theorem oneOf_words (Ls : List (Language Nat)) : oneOf (Ls.map words) = words Ls.sum := by
  funext u i j
  apply propext
  have hsum : ∀ w, w ∈ Ls.sum ↔ ∃ L ∈ Ls, w ∈ L := by
    intro w
    induction Ls with
    | nil => exact iff_of_false (Language.notMem_zero w) (by simp)
    | cons L Ls ih => rw [List.sum_cons, Language.mem_add, ih, List.exists_mem_cons_iff]
  constructor
  · rintro ⟨R, hR, hmatch⟩
    obtain ⟨L, hL, rfl⟩ := List.mem_map.1 hR
    obtain ⟨w, hw, htext⟩ := hmatch
    exact ⟨w, (hsum w).2 ⟨L, hL, hw⟩, htext⟩
  · rintro ⟨w, hw, htext⟩
    obtain ⟨L, hL, hwL⟩ := (hsum w).1 hw
    exact ⟨words L, List.mem_map_of_mem hL, w, hwL, htext⟩

/-- One element that has a property. -/
theorem takesOne_iff {P : Nat → Prop} {u : List Nat} {i j : Nat} :
    TakesOne P u i j ↔ words (letters P) u i j := by
  have hstart : ∀ x, [x] <+: u.drop i ↔ u[i]? = some x := by
    intro x
    rw [← List.head?_drop]
    cases u.drop i with
    | nil => simp
    | cons y rest => simp [List.cons_prefix_cons, eq_comm]
  constructor
  · rintro ⟨rfl, x, hx, hP⟩
    exact ⟨[x], singleton_mem_letters hP, (hstart x).2 hx, rfl⟩
  · rintro ⟨_, ⟨x, hP, rfl⟩, hx, rfl⟩
    exact ⟨rfl, x, (hstart x).1 hx, hP⟩

theorem iterates_iff {L : Language Nat} {u : List Nat} {n i j : Nat} :
    Iterates (words L u) n i j ↔ words (L ^ n) u i j := by
  induction n generalizing i with
  | zero =>
    rw [pow_zero, words_one]
    exact Iff.rfl
  | succ n ih =>
    rw [pow_succ', words_mul]
    exact exists_congr fun k => and_congr_right fun _ => ih

/-- The words of all powers that a quantifier allows. -/
theorem repeats_words_iff {L : Language Nat} {q : Quantifier} {u : List Nat} {i j : Nat} :
    Repeats (words L u) q.least q.most i j ↔
      ∃ n, q.least ≤ n ∧ (∀ k ∈ q.most, n ≤ k) ∧ words (L ^ n) u i j := by
  rw [repeats_iff]
  simp only [iterates_iff]

/-- From the start to the end of a text. -/
theorem words_whole_iff {L : Language Nat} {u : List Nat} :
    (∃ i j, row [.assertion .start, words L, .assertion .stop] u i j) ↔ u ∈ L := by
  constructor
  · rintro ⟨_, _, _, ⟨rfl, rfl⟩, _, ⟨w, hw, hprefix, rfl⟩, _, ⟨rfl, hstop⟩, rfl⟩
    -- Both ends are fixed, so the word is the whole text.
    have hlength : w.length = u.length := by
      rw [← hstop, Nat.zero_add]
    rw [List.drop_zero] at hprefix
    rwa [← hprefix.eq_of_length hlength]
  · intro hu
    exact ⟨0, u.length, 0, ⟨rfl, rfl⟩, u.length, ⟨u, hu, List.prefix_rfl, (Nat.zero_add _).symm⟩,
      u.length, ⟨rfl, rfl⟩, rfl⟩

end Spans

/-! ## 2. What parts spell -/

namespace Ecma

variable {m : Mode} {r : Ecma} {L : Language Nat}

/-- In front of every alternative, a part matches the words of a language. -/
def Spells (m : Mode) (r : Ecma) (L : Language Nat) : Prop := r.Denotes m (.words L)

/-- As an operand, a part matches the words of a language. -/
def SpellsOperand (m : Mode) (r : Ecma) (L : Language Nat) : Prop := r.DenotesOperand m (.words L)

theorem SpellsOperand.spells (h : r.SpellsOperand m L) : r.Spells m L :=
  DenotesOperand.denotes h

/-- A part that is read as a leaf without property classes. -/
theorem spellsOperand_leaf {l : Leaf} {P : Nat → Prop}
    (h : ∀ k, ReadsLeaf m (m.source r.print ++ k) k l) (hfree : l.isPropertyFree = true)
    (hP : ∀ u, l.Takes u ↔ P u) : r.SpellsOperand m (letters P) := by
  obtain rfl : l.Takes = P := funext fun u => propext (hP u)
  exact fun k => ⟨.leaf l, .leaf (h k), rfl, hfree, fun _ _ _ => Spans.takesOne_iff⟩

theorem spells_concat {rs : List Ecma} {Ls : List (Language Nat)}
    (h : List.Forall₂ (Spells m) rs Ls) : (concat rs).Spells m Ls.prod := by
  unfold Spells
  rw [← Spans.row_words]
  exact denotes_concat (List.forall₂_map_right_iff.2 h)

theorem spellsOperand_group (capturing : Bool) {rs : List Ecma} {Ls : List (Language Nat)}
    (h : List.Forall₂ (Spells m) rs Ls) (hne : rs ≠ []) :
    (group capturing (alternation rs)).SpellsOperand m Ls.sum := by
  unfold SpellsOperand
  rw [← Spans.oneOf_words]
  exact denotesOperand_group capturing (List.forall₂_map_right_iff.2 h) hne

/-- A repetition spells the powers that its quantifier allows. -/
theorem spells_repetition (h : r.SpellsOperand m L) {q : Quantifier} (hq : q.Ordered)
    (hsource : m.source q.print = q.print) {M : Language Nat}
    (hM : ∀ w, w ∈ M ↔ ∃ n, q.least ≤ n ∧ (∀ k ∈ q.most, n ≤ k) ∧ w ∈ L ^ n) :
    (repetition q false r).Spells m M := by
  refine denotes_of_term fun k => ?_
  have hprint :
      m.source (repetition q false r).print ++ k = m.source r.print ++ (q.print ++ k) := by
    have happend : (repetition q false r).print = r.print ++ q.print ++ [] := rfl
    rw [happend, List.append_nil, m.source_append, hsource, List.append_assoc]
  obtain ⟨t, hread, hatom, ht⟩ := h (q.print ++ k)
  rw [hprint]
  refine ⟨.quantified t q false, .quantified hread (.inr hatom) (quantifier?_print hq k),
    ht.propertyFree, fun u i j => ?_⟩
  -- The tree is matched where a word stands, so its repetitions are those of the words.
  have hwords : t.Matches u = Spans.words L u := by
    funext i j
    exact propext (ht.matches_iff u i j)
  change Repeats (t.Matches u) q.least q.most i j ↔ Spans.words M u i j
  rw [hwords, Spans.repeats_words_iff]
  constructor
  · rintro ⟨n, hn, hmost, w, hw, htext⟩
    exact ⟨w, (hM w).2 ⟨n, hn, hmost, hw⟩, htext⟩
  · rintro ⟨w, hw, htext⟩
    obtain ⟨n, hn, hmost, hwn⟩ := (hM w).1 hw
    exact ⟨n, hn, hmost, w, hwn, htext⟩

theorem spells_optional (h : r.SpellsOperand m L) :
    (repetition .optional false r).Spells m (1 + L) := by
  refine spells_repetition (q := .optional) h trivial (by cases m <;> rfl) fun w => ?_
  rw [Language.mem_add]
  constructor
  · rintro (hw | hw)
    · exact ⟨0, Nat.zero_le _, fun k _ => Nat.zero_le k, by rwa [pow_zero]⟩
    · exact ⟨1, Nat.zero_le _, fun k hk => (Option.some.inj hk).le, by rwa [pow_one]⟩
  · rintro ⟨n, -, hmost, hw⟩
    have hn : n ≤ 1 := hmost 1 rfl
    interval_cases n
    · exact .inl (by rwa [pow_zero] at hw)
    · exact .inr (by rwa [pow_one] at hw)

theorem spells_any (h : r.SpellsOperand m L) : (repetition .any false r).Spells m L∗ := by
  refine spells_repetition (q := .any) h trivial (by cases m <;> rfl) fun w => ?_
  rw [Language.kstar_eq_iSup_pow, Language.mem_iSup]
  exact exists_congr fun n => ⟨fun hw => ⟨Nat.zero_le _, nofun, hw⟩, fun hw => hw.2.2⟩

theorem spells_some (h : r.SpellsOperand m L) : (repetition .some false r).Spells m (L * L∗) := by
  refine spells_repetition (q := .some) h trivial (by cases m <;> rfl) fun w => ?_
  rw [Language.kstar_eq_iSup_pow, Language.mul_iSup, Language.mem_iSup]
  -- The first iteration is the one that has to be there.
  simp only [← pow_succ']
  constructor
  · rintro ⟨n, hw⟩
    exact ⟨n + 1, Nat.le_add_left 1 n, nofun, hw⟩
  · rintro ⟨n, hn, -, hw⟩
    obtain ⟨k, rfl⟩ := Nat.exists_eq_add_of_le' hn
    exact ⟨k, hw⟩

/-- Between the start and the end of a text, a part selects the texts that it spells. -/
theorem selects_whole (h : r.Spells m L) :
    (concat [.assertion .start, r, .assertion .stop]).Selects m (m.encodeText · ∈ L) :=
  ⟨_, denotes_concat (.cons (denotes_assertion m .start)
    (.cons h (.cons (denotes_assertion m .stop) .nil))), fun _ => Spans.words_whole_iff⟩

end Ecma

end ProtoSchema.Pattern
