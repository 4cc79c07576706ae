import ProtoSchema.Proofs.Unicode.CodeSet

/-!
# Sets that do not split the supplementary planes

A class whose characters are all in the basic plane takes either none or all of the characters beyond
it.  The operations keep this as long as no two ranges touch where the planes meet.  A complement may
leave ranges that touch: two ranges that meet across the surrogates leave one there, and each
complement of such a set moves the place by one.  So below a bound ranges may touch, and the bound
grows by one with each complement.
-/

namespace ProtoSchema.Unicode

/-- A range that holds no or all characters of the supplementary planes. -/
def CodeRange.Unsplit (r : CodeRange) : Prop :=
  r.hi ≤ 0xFFFF ∨ r.lo ≤ 0x10000 ∧ r.hi = maxCodePoint

/-- A set in order: its ranges lie between scalar values, do not split the supplementary planes, and
are apart from the code point `k` on. -/
structure CodeSet.Tidy (k : Nat) (s : CodeSet) : Prop where
  proper : ∀ r ∈ s.ranges, r.Proper
  unsplit : ∀ r ∈ s.ranges, r.Unsplit
  apart : s.ranges.Pairwise fun r t => k ≤ r.hi → r.hi + 1 < t.lo

namespace CodeSet

theorem Tidy.mono {s : CodeSet} {k l : Nat} (h : s.Tidy k) (hl : k ≤ l) : s.Tidy l where
  proper := h.proper
  unsplit := h.unsplit
  apart := h.apart.imp fun hrt hle => hrt (le_trans hl hle)

theorem tidy_empty (k : Nat) : empty.Tidy k where
  proper := List.forall_mem_nil _
  unsplit := List.forall_mem_nil _
  apart := List.Pairwise.nil

theorem tidy_single {r : CodeRange} (k : Nat) (hp : r.Proper) (hu : r.Unsplit) :
    Tidy k ⟨[r]⟩ where
  proper := by
    intro s hs
    rwa [List.mem_singleton.1 hs]
  unsplit := by
    intro s hs
    rwa [List.mem_singleton.1 hs]
  apart := List.pairwise_singleton _ _

/-- Joined ranges are apart. -/
theorem tidy_ofRanges {rs : List CodeRange} (hp : ∀ r ∈ rs, r.Proper) (hu : ∀ r ∈ rs, r.Unsplit)
    (k : Nat) : (ofRanges rs).Tidy k where
  proper := ofRanges_forall (fun _ _ hr hs _ _ => hr.join hs) hp
  unsplit := by
    refine ofRanges_forall (fun r s hr hs hle htouch => ?_) hu
    simp only [CodeRange.Unsplit, maxCodePoint] at *
    omega
  apart := by
    refine List.Pairwise.imp ?_ (ofRanges_apart rs)
    intro r t h _
    exact h

theorem Tidy.union {a b : CodeSet} {k : Nat} (ha : a.Tidy k) (hb : b.Tidy k) (l : Nat) :
    (a.union b).Tidy l := by
  refine tidy_ofRanges (fun r hr => ?_) (fun r hr => ?_) l
  · exact (List.mem_append.1 hr).elim (ha.proper r) (hb.proper r)
  · exact (List.mem_append.1 hr).elim (ha.unsplit r) (hb.unsplit r)

theorem inter?_eq_some {r s t : CodeRange} (h : r.inter? s = some t) :
    t.lo = max r.lo s.lo ∧ t.hi = min r.hi s.hi ∧ t.lo ≤ t.hi := by
  unfold CodeRange.inter? at h
  split at h
  · rename_i hle
    cases h
    exact ⟨rfl, rfl, hle⟩
  · cases h

theorem Tidy.inter {a b : CodeSet} {k : Nat} (ha : a.Tidy k) (hb : b.Tidy k) :
    (a.inter b).Tidy k := by
  have hmem : ∀ t ∈ (a.inter b).ranges, ∃ r ∈ a.ranges, ∃ s ∈ b.ranges, r.inter? s = some t := by
    intro t ht
    obtain ⟨r, hr, ht⟩ := List.mem_flatMap.1 ht
    obtain ⟨s, hs, ht⟩ := List.mem_filterMap.1 ht
    exact ⟨r, hr, s, hs, ht⟩
  refine ⟨fun t ht => ?_, fun t ht => ?_, ?_⟩
  · obtain ⟨r, hr, s, hs, ht⟩ := hmem t ht
    obtain ⟨hlo, hhi, hle⟩ := inter?_eq_some ht
    have hr := ha.proper r hr
    have hs := hb.proper s hs
    refine ⟨hle, ?_, ?_⟩
    · rw [hlo]
      rcases max_choice r.lo s.lo with h | h <;> rw [h]
      · exact hr.lo
      · exact hs.lo
    · rw [hhi]
      rcases min_choice r.hi s.hi with h | h <;> rw [h]
      · exact hr.hi
      · exact hs.hi
  · obtain ⟨r, hr, s, hs, ht⟩ := hmem t ht
    obtain ⟨hlo, hhi, -⟩ := inter?_eq_some ht
    have hr := ha.unsplit r hr
    have hs := hb.unsplit s hs
    simp only [CodeRange.Unsplit, maxCodePoint] at *
    omega
  · -- Parts of one range are as far apart as the ranges that they are shared with.
    refine List.pairwise_flatMap.2 ⟨fun r _ => ?_, ?_⟩
    · refine List.pairwise_filterMap.2 (hb.apart.imp fun {s s'} hss t ht t' ht' hk => ?_)
      obtain ⟨-, hhi, -⟩ := inter?_eq_some ht
      obtain ⟨hlo', -, -⟩ := inter?_eq_some ht'
      have hgap := hss (by omega)
      omega
    · refine ha.apart.imp fun {r r'} hrr t ht t' ht' hk => ?_
      obtain ⟨s, -, ht⟩ := List.mem_filterMap.1 ht
      obtain ⟨s', -, ht'⟩ := List.mem_filterMap.1 ht'
      obtain ⟨-, hhi, -⟩ := inter?_eq_some ht
      obtain ⟨hlo', -, -⟩ := inter?_eq_some ht'
      have hgap := hrr (by omega)
      omega

/-- What is left of a range lies within it, on one side of what is taken away. -/
theorem mem_minus {r s t : CodeRange} (hr : r.Proper) (hs : s.Proper) (h : t ∈ r.minus s) :
    t.Proper ∧ r.lo ≤ t.lo ∧ t.hi ≤ r.hi ∧ (t = r ∨ t = ⟨r.lo, prevScalar s.lo⟩ ∧ r.lo < s.lo ∨
      t = ⟨nextScalar s.hi, r.hi⟩ ∧ s.hi < r.hi) := by
  have hrlo := hr.lo
  have hrhi := hr.hi
  have hslo := hs.lo
  have hshi := hs.hi
  have hle := hs.le
  have hstepUp := nextScalar_cases s.hi
  have hstepDown := prevScalar_cases s.lo
  -- Nothing is taken away, or a part below, or a part above, or both are left.
  unfold CodeRange.minus at h
  split at h
  · rw [List.mem_singleton] at h
    subst h
    exact ⟨hr, le_rfl, le_rfl, .inl rfl⟩
  · rename_i hmeet
    rcases List.mem_append.1 h with h | h
    · split at h
      · rename_i hlt
        rw [List.mem_singleton] at h
        subst h
        have hprev : r.lo ≤ prevScalar s.lo ∧ prevScalar s.lo ≤ r.hi := by
          simp only [Nat.isValidChar] at *
          omega
        exact ⟨⟨hprev.1, hrlo, isValidChar_prevScalar hslo⟩, le_rfl, hprev.2,
          .inr (.inl ⟨rfl, hlt⟩)⟩
      · exact absurd h List.not_mem_nil
    · split at h
      · rename_i hlt
        rw [List.mem_singleton] at h
        subst h
        have hnext : r.lo ≤ nextScalar s.hi ∧ nextScalar s.hi ≤ r.hi := by
          simp only [Nat.isValidChar] at *
          omega
        exact ⟨⟨hnext.2, isValidChar_nextScalar hshi hrhi hlt, hrhi⟩, hnext.1, le_rfl,
          .inr (.inr ⟨rfl, hlt⟩)⟩
      · exact absurd h List.not_mem_nil

theorem Tidy.minus {a : CodeSet} {k : Nat} (ha : a.Tidy k) {s : CodeRange} (hp : s.Proper)
    (hu : s.Unsplit) : Tidy k ⟨a.ranges.flatMap (·.minus s)⟩ := by
  have hle := hp.le
  have hnext := nextScalar_cases s.hi
  have hprev := prevScalar_cases s.lo
  refine ⟨fun t ht => ?_, fun t ht => ?_, ?_⟩
  · obtain ⟨r, hr, ht⟩ := List.mem_flatMap.1 ht
    exact (mem_minus (ha.proper r hr) hp ht).1
  · obtain ⟨r, hr, ht⟩ := List.mem_flatMap.1 ht
    have hru := ha.unsplit r hr
    have hshi := hp.hi
    have hslo := hp.lo
    obtain ⟨-, -, -, rfl | ⟨rfl, hlt⟩ | ⟨rfl, hlt⟩⟩ := mem_minus (ha.proper r hr) hp ht
    · exact hru
    · simp only [CodeRange.Unsplit, maxCodePoint, Nat.isValidChar] at *
      omega
    · simp only [CodeRange.Unsplit, maxCodePoint, Nat.isValidChar] at *
      omega
  · refine List.pairwise_flatMap.2 ⟨fun r _ => ?_, ?_⟩
    · -- The part below what is taken away and the part above it have that between them.
      unfold CodeRange.minus
      split
      · exact List.pairwise_singleton _ _
      refine List.pairwise_append.2 ⟨?_, ?_, ?_⟩
      · split
        · exact List.pairwise_singleton _ _
        · exact List.Pairwise.nil
      · split
        · exact List.pairwise_singleton _ _
        · exact List.Pairwise.nil
      · intro t ht t' ht' _
        split at ht
        · rename_i hlt
          split at ht'
          · rw [List.mem_singleton] at ht ht'
            subst ht ht'
            dsimp only
            omega
          · exact absurd ht' List.not_mem_nil
        · exact absurd ht List.not_mem_nil
    · have happart := List.Pairwise.and_mem.1 ha.apart
      refine happart.imp fun {r r'} h t ht t' ht' hk => ?_
      obtain ⟨hr, hr', hrr⟩ := h
      have hhi := (mem_minus (ha.proper r hr) hp ht).2.2.1
      have hlo := (mem_minus (ha.proper r' hr') hp ht').2.1
      have hgap := hrr (by omega)
      omega

theorem Tidy.diff {a b : CodeSet} {k l : Nat} (ha : a.Tidy k) (hb : b.Tidy l) :
    (a.diff b).Tidy k := by
  have hp := hb.proper
  have hu := hb.unsplit
  -- One range after another is taken away.
  have step : ∀ ss : List CodeRange, (∀ s ∈ ss, s.Proper) → (∀ s ∈ ss, s.Unsplit) →
      ∀ a : CodeSet, a.Tidy k →
        Tidy k ⟨ss.foldl (fun rs s => rs.flatMap (·.minus s)) a.ranges⟩ := by
    intro ss
    induction ss with
    | nil => exact fun _ _ a ha => ha
    | cons s ss ih =>
      intro hp hu a ha
      have hs := ha.minus (hp s List.mem_cons_self) (hu s List.mem_cons_self)
      exact ih (fun t ht => hp t (List.mem_cons_of_mem _ ht))
        (fun t ht => hu t (List.mem_cons_of_mem _ ht)) _ hs
  exact step b.ranges hp hu a ha

theorem Tidy.symmDiff {a b : CodeSet} {k : Nat} (ha : a.Tidy k) (hb : b.Tidy k) :
    (a.symmDiff b).Tidy k :=
  (ha.union hb k).diff (ha.inter hb)

theorem between_proper {a b : Nat} (ha : a.isValidChar) (hb : b.isValidChar) :
    (CodeRange.between a b).Proper := by
  unfold CodeRange.between
  rcases le_total a b with h | h
  · rw [min_eq_left h, max_eq_right h]
    exact ⟨h, ha, hb⟩
  · rw [min_eq_right h, max_eq_left h]
    exact ⟨h, hb, ha⟩

/-- A gap above the bound ends right before the next range, and starts after the last one. -/
theorem gap_bounds {k : Nat} (hk : 0xE000 ≤ k) {r s : CodeRange} (hs : s.Proper)
    (hrs : k ≤ r.hi → r.hi + 1 < s.lo) :
    (k + 1 ≤ (CodeRange.between (nextScalar r.hi) (prevScalar s.lo)).hi →
      k ≤ s.hi ∧ (CodeRange.between (nextScalar r.hi) (prevScalar s.lo)).hi + 1 = s.lo) ∧
    (k ≤ r.hi → r.hi < (CodeRange.between (nextScalar r.hi) (prevScalar s.lo)).lo) := by
  have hle := hs.le
  have hnext := nextScalar_cases r.hi
  have hprev := prevScalar_cases s.lo
  simp only [CodeRange.between]
  constructor
  · intro h
    omega
  · intro h
    have hgap := hrs h
    omega

theorem gap_tidy {k : Nat} (hk : 0xE000 ≤ k) (hk' : k ≤ 0xFFFF) {r s : CodeRange} (hr : r.Proper)
    (hs : s.Proper) (hsu : s.Unsplit) (hrs : k ≤ r.hi → r.hi + 1 < s.lo) :
    (CodeRange.between (nextScalar r.hi) (prevScalar s.lo)).Proper ∧
      (CodeRange.between (nextScalar r.hi) (prevScalar s.lo)).Unsplit := by
  have hrhi := hr.hi
  have hslo := hs.lo
  have hshi := hs.hi
  have hle := hs.le
  have hrle := hr.le
  have hnext := nextScalar_cases r.hi
  have hprev := prevScalar_cases s.lo
  have hvalid : (nextScalar r.hi).isValidChar := by
    simp only [Nat.isValidChar] at *
    omega
  refine ⟨between_proper hvalid (isValidChar_prevScalar hslo), ?_⟩
  simp only [CodeRange.Unsplit, CodeRange.between, maxCodePoint, Nat.isValidChar] at *
  omega

/-- The gaps of ranges that are apart from `k` on are apart from `k + 1` on. -/
theorem gapsAfter_tidy {k : Nat} (hk : 0xE000 ≤ k) (hk' : k ≤ 0xFFFF) {last : CodeRange}
    {rs : List CodeRange} (h : Tidy k ⟨last :: rs⟩) :
    Tidy (k + 1) ⟨gapsAfter last rs⟩ ∧ ∀ g ∈ gapsAfter last rs, k ≤ last.hi → last.hi < g.lo := by
  have hlast := h.proper last List.mem_cons_self
  have hlastu := h.unsplit last List.mem_cons_self
  induction rs generalizing last with
  | nil =>
    have hhi := hlast.hi
    have hnext := nextScalar_cases last.hi
    unfold gapsAfter
    split
    · rename_i hlt
      have hbounds : last.hi < nextScalar last.hi ∧ nextScalar last.hi ≤ maxCodePoint ∧
          (nextScalar last.hi).isValidChar := by
        simp only [maxCodePoint, Nat.isValidChar] at *
        omega
      have hmax : maxCodePoint.isValidChar := by decide
      refine ⟨tidy_single _ ⟨hbounds.2.1, hbounds.2.2, hmax⟩ (.inr ⟨?_, rfl⟩), ?_⟩
      · simp only [CodeRange.Unsplit, maxCodePoint] at *
        omega
      · intro g hg _
        rw [List.mem_singleton] at hg
        subst hg
        exact hbounds.1
    · exact ⟨tidy_empty _, List.forall_mem_nil _⟩
  | cons r rs ih =>
    have hrest : Tidy k ⟨r :: rs⟩ := by
      refine ⟨fun s hs => h.proper s (List.mem_cons_of_mem _ hs), fun s hs => ?_, ?_⟩
      · exact h.unsplit s (List.mem_cons_of_mem _ hs)
      · exact (List.pairwise_cons.1 h.apart).2
    have hr := hrest.proper r List.mem_cons_self
    have hru := hrest.unsplit r List.mem_cons_self
    have hgap : k ≤ last.hi → last.hi + 1 < r.lo :=
      (List.pairwise_cons.1 h.apart).1 r List.mem_cons_self
    obtain ⟨htidy, habove⟩ := ih hrest hr hru
    obtain ⟨hproper, hunsplit⟩ := gap_tidy hk hk' hlast hr hru hgap
    -- A gap that ends above the bound ends right before `r`, and the next gap starts behind `r`.
    obtain ⟨hend, hstart⟩ := gap_bounds hk hr hgap
    have hle := hr.le
    unfold gapsAfter
    refine ⟨⟨?_, ?_, ?_⟩, ?_⟩
    · exact List.forall_mem_cons.2 ⟨hproper, htidy.proper⟩
    · exact List.forall_mem_cons.2 ⟨hunsplit, htidy.unsplit⟩
    · refine List.pairwise_cons.2 ⟨fun g hg hkg => ?_, htidy.apart⟩
      obtain ⟨hkr, heq⟩ := hend hkg
      have hafter := habove g hg hkr
      omega
    · refine List.forall_mem_cons.2 ⟨hstart, fun g hg hkl => ?_⟩
      have hlt := hgap hkl
      have hafter := habove g hg (by omega)
      omega

theorem Tidy.compl {s : CodeSet} {k : Nat} (hk : 0xE000 ≤ k) (hk' : k ≤ 0xFFFF) (h : s.Tidy k) :
    s.compl.Tidy (k + 1) := by
  unfold CodeSet.compl
  split
  · exact tidy_single _ ⟨by decide, by decide, by decide⟩ (.inr ⟨by decide, rfl⟩)
  · rename_i r rest heq
    have hs : Tidy k ⟨r :: rest⟩ := by
      rw [← heq]
      exact h
    obtain ⟨htidy, habove⟩ := gapsAfter_tidy hk hk' hs
    have hr := hs.proper r List.mem_cons_self
    have hru := hs.unsplit r List.mem_cons_self
    have hlo := hr.lo
    have hle := hr.le
    split
    · rename_i hpos
      have hzero : Nat.isValidChar 0 := by decide
      have hprev := prevScalar_cases r.lo
      -- Above the bound the part below the first range ends right before it.
      have hprevle : k + 1 ≤ prevScalar r.lo → prevScalar r.lo + 1 = r.lo := by omega
      have hbasic : prevScalar r.lo ≤ 0xFFFF := by
        simp only [CodeRange.Unsplit] at *
        omega
      refine ⟨?_, ?_, ?_⟩
      · exact List.forall_mem_cons.2
          ⟨⟨Nat.zero_le _, hzero, isValidChar_prevScalar hlo⟩, htidy.proper⟩
      · exact List.forall_mem_cons.2 ⟨.inl hbasic, htidy.unsplit⟩
      · refine List.pairwise_cons.2 ⟨fun g hg hkg => ?_, htidy.apart⟩
        have hend := hprevle hkg
        have hkg' : k + 1 ≤ prevScalar r.lo := hkg
        have hafter := habove g hg (by omega)
        change prevScalar r.lo + 1 < g.lo
        omega
    · exact htidy

end CodeSet

end ProtoSchema.Unicode
