import Mathlib
import ProtoSchema.Unicode.CodeSet

/-!
# What sets of code points hold

Which code points the operations on sets keep, and in which form they leave the ranges.  Scalar
values are what matters: the steps over the surrogates leave ranges that begin and end with them.
-/

namespace ProtoSchema.Unicode

/-! ## 1. Members -/

instance : Membership Nat CodeRange := ⟨fun r n => r.lo ≤ n ∧ n ≤ r.hi⟩

theorem CodeRange.mem_iff {r : CodeRange} {n : Nat} : n ∈ r ↔ r.lo ≤ n ∧ n ≤ r.hi := Iff.rfl

theorem CodeSet.mem_iff {s : CodeSet} {n : Nat} : n ∈ s ↔ ∃ r ∈ s.ranges, n ∈ r := by
  change s.ranges.any (·.contains n) = true ↔ _
  rw [List.any_eq_true]
  refine exists_congr fun r => and_congr_right fun _ => ?_
  rw [CodeRange.contains, Bool.and_eq_true, decide_eq_true_eq, decide_eq_true_eq]
  rfl

/-- Ranges in the order of their first members. -/
def Ascending (rs : List CodeRange) : Prop := rs.Pairwise (·.lo ≤ ·.lo)

/-- Ranges with a gap between each two of them. -/
def Apart (rs : List CodeRange) : Prop := rs.Pairwise (·.hi + 1 < ·.lo)

/-! ## 2. Joined ranges -/

/-- What holds of ranges that touch and of their join holds of all that joining leaves. -/
theorem coalesceFrom_forall {P : CodeRange → Prop}
    (join : ∀ r s, P r → P s → r.lo ≤ s.lo → s.lo ≤ r.hi + 1 → P ⟨r.lo, max r.hi s.hi⟩)
    {r : CodeRange} {rs : List CodeRange} (ha : Ascending (r :: rs)) (h : ∀ s ∈ r :: rs, P s) :
    ∀ s ∈ CodeSet.coalesceFrom r rs, P s := by
  induction rs generalizing r with
  | nil => exact h
  | cons t rs ih =>
    obtain ⟨hr, hrest⟩ := List.pairwise_cons.1 ha
    have hrt : r.lo ≤ t.lo := hr t List.mem_cons_self
    have ht : P t := h t (List.mem_cons_of_mem _ List.mem_cons_self)
    have hrs : ∀ s ∈ rs, P s :=
      fun s hs => h s (List.mem_cons_of_mem _ (List.mem_cons_of_mem _ hs))
    unfold CodeSet.coalesceFrom
    -- Either the next range joins the current one, or the current one is left as it is.
    split
    · rename_i htouch
      refine ih ?_ ?_
      · exact List.pairwise_cons.2
          ⟨fun s hs => hr s (List.mem_cons_of_mem _ hs), (List.pairwise_cons.1 hrest).2⟩
      · intro s hs
        rcases List.mem_cons.1 hs with rfl | hs
        · exact join r t (h r List.mem_cons_self) ht hrt htouch
        · exact hrs s hs
    · intro s hs
      rcases List.mem_cons.1 hs with rfl | hs
      · exact h s List.mem_cons_self
      · refine ih hrest ?_ s hs
        intro s hs
        exact h s (List.mem_cons_of_mem _ hs)

/-- Joining changes no member. -/
theorem mem_coalesceFrom {r : CodeRange} {rs : List CodeRange} (ha : Ascending (r :: rs)) {n : Nat} :
    (∃ s ∈ CodeSet.coalesceFrom r rs, n ∈ s) ↔ ∃ s ∈ r :: rs, n ∈ s := by
  induction rs generalizing r with
  | nil => exact Iff.rfl
  | cons t rs ih =>
    obtain ⟨hr, hrest⟩ := List.pairwise_cons.1 ha
    have hrt : r.lo ≤ t.lo := hr t List.mem_cons_self
    unfold CodeSet.coalesceFrom
    split
    · rename_i htouch
      have hjoin : n ∈ (⟨r.lo, max r.hi t.hi⟩ : CodeRange) ↔ n ∈ r ∨ n ∈ t := by
        simp only [CodeRange.mem_iff]
        omega
      rw [ih]
      · simp only [List.exists_mem_cons_iff, hjoin, or_assoc]
      · exact List.pairwise_cons.2
          ⟨fun s hs => hr s (List.mem_cons_of_mem _ hs), (List.pairwise_cons.1 hrest).2⟩
    · rw [List.exists_mem_cons_iff, ih hrest, List.exists_mem_cons_iff (l := t :: rs)]

theorem coalesceFrom_apart {r : CodeRange} {rs : List CodeRange} (ha : Ascending (r :: rs)) :
    Apart (CodeSet.coalesceFrom r rs) := by
  induction rs generalizing r with
  | nil => exact List.pairwise_singleton _ _
  | cons t rs ih =>
    obtain ⟨hr, hrest⟩ := List.pairwise_cons.1 ha
    unfold CodeSet.coalesceFrom
    split
    · refine ih (List.pairwise_cons.2 ⟨?_, (List.pairwise_cons.1 hrest).2⟩)
      exact fun s hs => hr s (List.mem_cons_of_mem _ hs)
    · rename_i hgap
      refine List.pairwise_cons.2 ⟨fun s hs => ?_, ih hrest⟩
      have hlo : t.lo ≤ s.lo := by
        refine coalesceFrom_forall (P := fun s => t.lo ≤ s.lo) (fun r _ h _ _ _ => h) hrest ?_ s hs
        intro s hs
        rcases List.mem_cons.1 hs with rfl | hs
        · exact le_rfl
        · exact (List.pairwise_cons.1 hrest).1 s hs
      omega

theorem mergeSort_ascending (rs : List CodeRange) :
    Ascending (rs.mergeSort fun r s => r.lo ≤ s.lo) := by
  have htrans : ∀ a b c : CodeRange, decide (a.lo ≤ b.lo) = true → decide (b.lo ≤ c.lo) = true →
      decide (a.lo ≤ c.lo) = true := by
    intro a b c hab hbc
    simp only [decide_eq_true_eq] at *
    omega
  have htotal : ∀ a b : CodeRange, (decide (a.lo ≤ b.lo) || decide (b.lo ≤ a.lo)) = true := by
    intro a b
    simp only [Bool.or_eq_true, decide_eq_true_eq]
    omega
  exact (List.pairwise_mergeSort htrans htotal rs).imp fun h => of_decide_eq_true h

namespace CodeSet

theorem ofRanges_forall {P : CodeRange → Prop}
    (join : ∀ r s, P r → P s → r.lo ≤ s.lo → s.lo ≤ r.hi + 1 → P ⟨r.lo, max r.hi s.hi⟩)
    {rs : List CodeRange} (h : ∀ r ∈ rs, P r) : ∀ r ∈ (ofRanges rs).ranges, P r := by
  have ha := mergeSort_ascending rs
  have hP : ∀ r ∈ rs.mergeSort (fun r s => r.lo ≤ s.lo), P r :=
    fun r hr => h r (List.mem_mergeSort.1 hr)
  unfold ofRanges coalesce
  split
  · exact List.forall_mem_nil _
  · rename_i heq
    rw [heq] at ha hP
    exact coalesceFrom_forall join ha hP

theorem mem_ofRanges {rs : List CodeRange} {n : Nat} : n ∈ ofRanges rs ↔ ∃ r ∈ rs, n ∈ r := by
  have ha := mergeSort_ascending rs
  have hmem : (∃ r ∈ rs, n ∈ r) ↔ ∃ r ∈ rs.mergeSort (fun r s => r.lo ≤ s.lo), n ∈ r :=
    exists_congr fun r => and_congr_left fun _ => List.mem_mergeSort.symm
  rw [mem_iff, hmem]
  unfold ofRanges coalesce
  split
  · rename_i heq
    rw [heq]
  · rename_i heq
    rw [heq] at ha ⊢
    exact mem_coalesceFrom ha

theorem ofRanges_apart (rs : List CodeRange) : Apart (ofRanges rs).ranges := by
  have ha := mergeSort_ascending rs
  unfold ofRanges coalesce
  split
  · exact List.Pairwise.nil
  · rename_i heq
    rw [heq] at ha
    exact coalesceFrom_apart ha

theorem mem_union {a b : CodeSet} {n : Nat} : n ∈ a.union b ↔ n ∈ a ∨ n ∈ b := by
  rw [union, mem_ofRanges, mem_iff, mem_iff]
  simp only [List.mem_append, or_and_right, exists_or]

end CodeSet

/-! ## 3. Steps over the surrogates -/

theorem nextScalar_cases (n : Nat) :
    n = 0xD7FF ∧ nextScalar n = 0xE000 ∨ n ≠ 0xD7FF ∧ nextScalar n = n + 1 := by
  unfold nextScalar
  split <;> simp_all

theorem prevScalar_cases (n : Nat) :
    n = 0xE000 ∧ prevScalar n = 0xD7FF ∨ n ≠ 0xE000 ∧ prevScalar n = n - 1 := by
  unfold prevScalar
  split <;> simp_all

theorem isValidChar_prevScalar {n : Nat} (hn : n.isValidChar) : (prevScalar n).isValidChar := by
  have hprev := prevScalar_cases n
  unfold Nat.isValidChar at *
  omega

theorem isValidChar_nextScalar {n m : Nat} (hn : n.isValidChar) (hm : m.isValidChar)
    (hlt : n < m) : (nextScalar n).isValidChar := by
  have hnext := nextScalar_cases n
  unfold Nat.isValidChar at *
  omega

/-! ## 4. Complements -/

/-- A range between scalar values. -/
structure CodeRange.Proper (r : CodeRange) : Prop where
  le : r.lo ≤ r.hi
  lo : r.lo.isValidChar
  hi : r.hi.isValidChar

theorem CodeRange.Proper.join {r s : CodeRange} (hr : r.Proper) (hs : s.Proper) :
    CodeRange.Proper ⟨r.lo, max r.hi s.hi⟩ where
  le := le_trans hr.le (le_max_left _ _)
  lo := hr.lo
  hi := by
    rcases max_choice r.hi s.hi with h | h <;> rw [h]
    · exact hr.hi
    · exact hs.hi

/-- Whether two ranges meet across the surrogates, with a code point at the end of one. -/
def MeetAt (n : Nat) (r s : CodeRange) : Prop :=
  r.hi = 0xD7FF ∧ s.lo = 0xE000 ∧ (n = 0xD7FF ∨ n = 0xE000)

/-- The gaps hold what lies above the first range and in none of the others. -/
theorem mem_gapsAfter {last : CodeRange} {rs : List CodeRange} (ha : Apart (last :: rs))
    (hp : ∀ r ∈ last :: rs, r.Proper) {n : Nat} (hn : n.isValidChar)
    (hm : (last :: rs).Pairwise fun r s => ¬ MeetAt n r s) :
    (∃ g ∈ CodeSet.gapsAfter last rs, n ∈ g) ↔ last.hi < n ∧ ∀ r ∈ rs, n ∉ r := by
  induction rs generalizing last with
  | nil =>
    have hlast := (hp last List.mem_cons_self).hi
    have hstep := nextScalar_cases last.hi
    have hnext : n ∈ (⟨nextScalar last.hi, maxCodePoint⟩ : CodeRange) ↔ last.hi < n := by
      simp only [CodeRange.mem_iff, maxCodePoint, Nat.isValidChar] at *
      omega
    have hall : ∀ r ∈ ([] : List CodeRange), n ∉ r := List.forall_mem_nil _
    unfold CodeSet.gapsAfter
    split
    · rw [List.exists_mem_cons_iff, hnext]
      constructor
      · rintro (h | ⟨g, hg, -⟩)
        · exact ⟨h, hall⟩
        · exact absurd hg List.not_mem_nil
      · exact fun h => .inl h.1
    · constructor
      · rintro ⟨g, hg, -⟩
        exact absurd hg List.not_mem_nil
      · rintro ⟨h, -⟩
        simp only [maxCodePoint, Nat.isValidChar] at *
        omega
  | cons r rs ih =>
    have hlast := (hp last List.mem_cons_self).hi
    have hr := hp r (List.mem_cons_of_mem _ List.mem_cons_self)
    obtain ⟨hafter, hrest⟩ := List.pairwise_cons.1 ha
    obtain ⟨hmeet, hmrest⟩ := List.pairwise_cons.1 hm
    have hapart : last.hi + 1 < r.lo := hafter r List.mem_cons_self
    -- The gap that meets no scalar value comes out with its ends exchanged; `n` is none of them.
    have hacross : ¬(last.hi = 0xD7FF ∧ r.lo = 0xE000 ∧ (n = 0xD7FF ∨ n = 0xE000)) :=
      hmeet r List.mem_cons_self
    have hlo := hr.lo
    -- Apart from the surrogates, the gap is what lies strictly between the two ranges.
    have hgap : n ∈ CodeRange.between (nextScalar last.hi) (prevScalar r.lo) ↔
        last.hi < n ∧ n < r.lo := by
      have hnext := nextScalar_cases last.hi
      have hprev := prevScalar_cases r.lo
      simp only [CodeRange.mem_iff, CodeRange.between, Nat.isValidChar] at *
      omega
    have hle := hr.le
    rw [CodeSet.gapsAfter, List.exists_mem_cons_iff, hgap,
      ih hrest (fun s hs => hp s (List.mem_cons_of_mem _ hs)) hmrest, List.forall_mem_cons,
      CodeRange.mem_iff]
    constructor
    · rintro (⟨h, hlt⟩ | ⟨h, hnot⟩)
      · refine ⟨h, by omega, fun s hs hmem => ?_⟩
        have hrs : r.hi + 1 < s.lo := (List.pairwise_cons.1 hrest).1 s hs
        have hs := hmem.1
        omega
      · exact ⟨by omega, by omega, hnot⟩
    · rintro ⟨h, hnr, hnot⟩
      by_cases hlt : n < r.lo
      · exact .inl ⟨h, hlt⟩
      · exact .inr ⟨by omega, hnot⟩

/-- The complement of a set holds what the set does not, except where two ranges meet across the
surrogates. -/
theorem CodeSet.mem_compl {s : CodeSet} (ha : Apart s.ranges) (hp : ∀ r ∈ s.ranges, r.Proper)
    {n : Nat} (hn : n.isValidChar) (hm : s.ranges.Pairwise fun r t => ¬ MeetAt n r t) :
    n ∈ s.compl ↔ n ∉ s := by
  rw [mem_iff, mem_iff]
  unfold compl
  split
  · rename_i heq
    rw [heq]
    constructor
    · rintro - ⟨r, hr, -⟩
      exact absurd hr List.not_mem_nil
    · intro _
      refine ⟨_, List.mem_singleton_self _, ?_⟩
      simp only [CodeRange.mem_iff, maxCodePoint, Nat.isValidChar] at *
      omega
  · rename_i r rest heq
    rw [heq] at ha hp hm ⊢
    have hr := hp r List.mem_cons_self
    have hlo := hr.lo
    have hle := hr.le
    have hafter : ∀ s ∈ rest, r.hi + 1 < s.lo := (List.pairwise_cons.1 ha).1
    -- What lies below the first range is one range more; the rest are gaps.
    have hhead : (∃ g ∈ (if 0 < r.lo then [(⟨0, prevScalar r.lo⟩ : CodeRange)] else []), n ∈ g) ↔
        n < r.lo := by
      split
      · have hprev := prevScalar_cases r.lo
        rw [List.exists_mem_cons_iff]
        simp only [CodeRange.mem_iff, Nat.isValidChar, List.not_mem_nil, false_and,
          exists_false, or_false] at *
        omega
      · constructor
        · rintro ⟨g, hg, -⟩
          exact absurd hg List.not_mem_nil
        · omega
    have happend : ∀ xs ys : List CodeRange,
        (∃ g ∈ xs ++ ys, n ∈ g) ↔ (∃ g ∈ xs, n ∈ g) ∨ ∃ g ∈ ys, n ∈ g := by
      intro xs ys
      simp only [List.mem_append, or_and_right, exists_or]
    rw [happend, hhead, mem_gapsAfter ha hp hn hm, List.exists_mem_cons_iff, CodeRange.mem_iff]
    constructor
    · rintro (hlt | ⟨hlt, hnot⟩)
      · rintro (h | ⟨s, hs, hmem⟩)
        · omega
        · have hs := hafter s hs
          have hmem := hmem.1
          omega
      · rintro (h | ⟨s, hs, hmem⟩)
        · omega
        · exact hnot s hs hmem
    · intro hnot
      by_cases hlt : n < r.lo
      · exact .inl hlt
      · refine .inr ⟨?_, fun s hs hmem => hnot (.inr ⟨s, hs, hmem⟩)⟩
        by_contra hge
        exact hnot (.inl ⟨by omega, by omega⟩)

end ProtoSchema.Unicode
