import ProtoSchema.Proofs.Pattern.Converted
import ProtoSchema.Proofs.Pattern.Matching

/-!
# Classes of code units

A set of code points is written as a class of code units: what lies in the basic plane as it is, and
all surrogates in place of what lies beyond, since a supplementary character is two of them.  The
ranges that are written neither overlap nor touch, and the class is read back as these ranges.
-/

namespace ProtoSchema.Pattern

open Grammar Unicode

/-! ## 1. Printed patterns -/

/-- A printed pattern matches what its tree matches. -/
theorem Ecma.Fits.patternMatches_iff {e : Ecma} (h : e.Fits .units)
    (hq : (e.onto .empty).quantifiesAtoms = true) {t : List Nat} {i j : Nat} :
    PatternMatches e.text.toList t i j ↔ (e.onto .empty).Matches t i j :=
  (h.reads_text.strict hq).exists_iff

/-- A row of one term matches what the term does. -/
theorem matches_single {term : Tree} {u : List Nat} {i j : Nat} :
    (Tree.cons term .empty).Matches u i j ↔ term.Matches u i j := by
  constructor
  · rintro ⟨k, h, hkj⟩
    have heq : k = j := hkj
    rwa [← heq]
  · exact fun h => ⟨j, h, rfl⟩

/-! ## 2. Code units of sets -/

/-- Whether the class of a set has to accept a code unit: as a member of the set, or as a half of
one beyond the basic plane. -/
def AcceptsUnit (s : CodeSet) (u : Nat) : Prop :=
  (∃ r ∈ s.ranges, u ∈ r) ∨ (0xD800 ≤ u ∧ u ≤ 0xDFFF) ∧ ∃ r ∈ s.ranges, 0xFFFF < r.hi

/-- Clamping, the block of surrogates and the joining of ranges leave these code units. -/
theorem mem_codeUnits_iff {s : CodeSet} {u : Nat} (hu : u ≤ 0xFFFF) :
    u ∈ codeUnits s ↔ AcceptsUnit s u := by
  have hclamp : ∀ r : CodeRange, u ∈ (⟨r.lo, min r.hi maxUnit⟩ : CodeRange) ↔ u ∈ r := by
    intro r
    simp only [CodeRange.mem_iff, maxUnit]
    omega
  have hbasic : (∃ r ∈ (s.ranges.filter fun r => r.lo ≤ maxUnit).map
      fun r => (⟨r.lo, min r.hi maxUnit⟩ : CodeRange), u ∈ r) ↔ ∃ r ∈ s.ranges, u ∈ r := by
    constructor
    · rintro ⟨_, hr, hmem⟩
      obtain ⟨r, hkept, rfl⟩ := List.mem_map.1 hr
      exact ⟨r, (List.mem_filter.1 hkept).1, (hclamp r).1 hmem⟩
    · rintro ⟨r, hr, hmem⟩
      have hlo : r.lo ≤ maxUnit := le_trans hmem.1 hu
      refine ⟨_, List.mem_map.2 ⟨r, ?_, rfl⟩, (hclamp r).2 hmem⟩
      exact List.mem_filter.2 ⟨hr, decide_eq_true hlo⟩
  have hblock : (∃ r ∈
      if s.ranges.any (maxUnit < ·.hi) then [(⟨0xD800, 0xDFFF⟩ : CodeRange)] else [], u ∈ r) ↔
        (0xD800 ≤ u ∧ u ≤ 0xDFFF) ∧ ∃ r ∈ s.ranges, 0xFFFF < r.hi := by
    have hany : s.ranges.any (maxUnit < ·.hi) = true ↔ ∃ r ∈ s.ranges, 0xFFFF < r.hi := by
      rw [List.any_eq_true]
      exact exists_congr fun r => and_congr_right fun _ => decide_eq_true_iff
    split
    · rename_i h
      simp only [List.mem_singleton, exists_eq_left, CodeRange.mem_iff, hany.1 h, and_true]
    · rename_i h
      rw [hany] at h
      simp only [List.not_mem_nil, false_and, exists_false, h, and_false]
  unfold codeUnits AcceptsUnit
  rw [CodeSet.mem_ofRanges, ← hbasic, ← hblock]
  simp only [List.mem_append, or_and_right, exists_or]

/-- In the basic plane the code units of a set are its members, surrogates apart. -/
theorem mem_codeUnits {s : CodeSet} {n : Nat} (hn : n.isValidChar) (hbasic : n ≤ 0xFFFF) :
    n ∈ codeUnits s ↔ n ∈ s := by
  rw [mem_codeUnits_iff hbasic, AcceptsUnit, ← CodeSet.mem_iff, or_iff_left]
  -- A scalar value is no surrogate, so what stands for the supplementary planes does not hold it.
  rintro ⟨hsurrogate, -⟩
  unfold Nat.isValidChar at hn
  omega

theorem codeUnits_le {s : CodeSet} (h : ∀ r ∈ s.ranges, r.lo ≤ r.hi) :
    ∀ r ∈ (codeUnits s).ranges, r.lo ≤ r.hi := by
  unfold codeUnits
  have join : ∀ r t : CodeRange, r.lo ≤ r.hi → t.lo ≤ t.hi → r.lo ≤ t.lo → t.lo ≤ r.hi + 1 →
      r.lo ≤ max r.hi t.hi := fun r t hr _ _ _ => le_trans hr (le_max_left _ _)
  refine CodeSet.ofRanges_forall join fun r hr => ?_
  rcases List.mem_append.1 hr with hr | hr
  · obtain ⟨t, ht, rfl⟩ := List.mem_map.1 hr
    obtain ⟨ht, hlo⟩ := List.mem_filter.1 ht
    exact le_min (h t ht) (of_decide_eq_true hlo)
  · split at hr
    · rw [List.mem_singleton] at hr
      subst hr
      decide
    · exact absurd hr List.not_mem_nil

/-! ## 3. Classes of ranges -/

/-- A range as a member of a class: a range of one code unit is that code unit. -/
def Grammar.Member.ofRange (r : CodeRange) : Member :=
  if r.lo < r.hi then .range r.lo r.hi else .atom (.code r.lo)

/-- The class of ranges; without any, the class of all that is neither white space nor anything
else. -/
def Grammar.Leaf.ofRanges : List CodeRange → Leaf
  | [] => .set true [.atom (.escape .space), .atom (.escape .notSpace)]
  | rs => .set false (rs.map .ofRange)

theorem unitMember_member (r : CodeRange) : (unitMember r).member = .ofRange r := by
  unfold unitMember Member.ofRange
  split <;> rfl

theorem unitMember_takes {r : CodeRange} (h : r.lo ≤ r.hi) {n : Nat} :
    (unitMember r).member.Takes n ↔ n ∈ r := by
  rw [unitMember_member, Member.ofRange]
  split
  · exact Iff.rfl
  · change n = r.lo ↔ r.lo ≤ n ∧ n ≤ r.hi
    omega

theorem Grammar.Leaf.takes_ofRanges {rs : List CodeRange} (h : ∀ r ∈ rs, r.lo ≤ r.hi) {u : Nat} :
    (Leaf.ofRanges rs).Takes u ↔ ∃ r ∈ rs, u ∈ r := by
  cases rs with
  | nil =>
    refine iff_of_false (not_not_intro ?_) fun ⟨r, hr, _⟩ => absurd hr List.not_mem_nil
    by_cases hspace : IsSpaceUnit u
    · exact ⟨_, List.mem_cons_self, hspace⟩
    · exact ⟨_, List.mem_cons_of_mem _ List.mem_cons_self, hspace⟩
  | cons r rest =>
    change (∃ x ∈ (r :: rest).map Member.ofRange, x.Takes u) ↔ _
    simp only [List.mem_map, exists_exists_and_eq_and, ← unitMember_member]
    exact exists_congr fun r => and_congr_right fun hr => unitMember_takes (h r hr)

/-- The class of a set lists its ranges of code units, which can all be read back. -/
theorem ecmaOfSet_eq_set (s : CodeSet) :
    ∃ negated members, ecmaOfSet s = .set negated members ∧ (∀ x ∈ members, x.Fits .units) ∧
      Leaf.set negated (members.map ClassMember.member) = .ofRanges (codeUnits s).ranges := by
  have hbounded := codeUnits_bounded s
  unfold ecmaOfSet
  split
  · exact ⟨true, _, rfl, List.forall_mem_cons.2 ⟨trivial, List.forall_mem_singleton.2 trivial⟩, by
      rename_i hnil
      rw [hnil]
      rfl⟩
  · rename_i hne
    refine ⟨false, _, rfl, List.forall_mem_map.2 fun r hr => ?_, ?_⟩
    · exact unitMember_fits (hbounded r hr).1 (hbounded r hr).2
    · rw [Leaf.ofRanges.eq_2 _ hne, List.map_map]
      exact congrArg _ (List.map_congr_left fun r _ => unitMember_member r)

theorem ecmaOfSet_onto (s : CodeSet) (t : Tree) :
    (ecmaOfSet s).onto t = .cons (.leaf (.ofRanges (codeUnits s).ranges)) t := by
  obtain ⟨negated, members, hset, -, hleaf⟩ := ecmaOfSet_eq_set s
  rw [hset, Ecma.onto, hleaf]

theorem readsLeaf_ecmaOfSet (s : CodeSet) (k : List Char) :
    ReadsLeaf .units ((ecmaOfSet s).print ++ k) k (.ofRanges (codeUnits s).ranges) := by
  obtain ⟨negated, members, hset, hfits, hleaf⟩ := ecmaOfSet_eq_set s
  rw [hset, ← hleaf]
  exact readsLeaf_set hfits negated k

/-- The class of a set is read as ranges of code units with gaps between them, and accepts just the
code units that it has to. -/
theorem ecmaOfSet_accepts {s : CodeSet} (h : ∀ r ∈ s.ranges, r.lo ≤ r.hi) :
    ∃ spans : List CodeRange,
      (∀ k l, ReadsLeaf .units (ecmaOfSet s).text.toList k l ↔ k = [] ∧ l = .ofRanges spans) ∧
      (∀ r ∈ spans, r.lo ≤ r.hi ∧ r.hi ≤ 0xFFFF) ∧ Apart spans ∧
      (∀ u ≤ 0xFFFF, (Leaf.ofRanges spans).Takes u ↔ AcceptsUnit s u) ∧
      (∀ t : List Nat, (∀ u ∈ t, u ≤ 0xFFFF) → ∀ i j,
        PatternMatches (ecmaOfSet s).text.toList t i j ↔ TakesOne (AcceptsUnit s) t i j) ∧
      ((∀ u ≤ 0xFFFF, ¬ AcceptsUnit s u) → spans = [] ∧ (ecmaOfSet s).text = "[^\\s\\S]") := by
  have hle := codeUnits_le h
  have htakes : ∀ u ≤ 0xFFFF, (Leaf.ofRanges (codeUnits s).ranges).Takes u ↔ AcceptsUnit s u := by
    intro u hu
    rw [Leaf.takes_ofRanges hle, ← CodeSet.mem_iff, mem_codeUnits_iff hu]
  have hread := readsLeaf_ecmaOfSet s []
  rw [List.append_nil] at hread
  refine ⟨(codeUnits s).ranges, fun k l => ?_, fun r hr => ?_, CodeSet.ofRanges_apart _, htakes,
    fun t ht i j => ?_, fun hnone => ?_⟩
  · rw [Ecma.text, String.toList_ofList]
    constructor
    · intro hl
      obtain ⟨rfl, rfl⟩ := hread.unique hl
      exact ⟨rfl, rfl⟩
    · rintro ⟨rfl, rfl⟩
      exact hread
  · exact ⟨hle r hr, (codeUnits_bounded s r hr).2⟩
  · have honto := ecmaOfSet_onto s .empty
    rw [(ecmaOfSet_fits .units s).patternMatches_iff (by rw [honto]; rfl), honto, matches_single]
    refine and_congr_right fun _ => exists_congr fun u => and_congr_right fun hu => ?_
    exact htakes u (ht u (List.mem_of_getElem? hu))
  · -- The first code unit of a range would be accepted.
    have hnil : (codeUnits s).ranges = [] := by
      refine List.eq_nil_iff_forall_not_mem.2 fun r hr => ?_
      have hlo := (codeUnits_bounded s r hr).1
      exact hnone r.lo hlo ((mem_codeUnits_iff hlo).1 (CodeSet.mem_iff.2 ⟨r, hr, le_rfl, hle r hr⟩))
    refine ⟨hnil, ?_⟩
    unfold ecmaOfSet
    rw [hnil]
    rfl

/-- A hyphen and the four code points around the end of the basic plane. -/
def acrossPlanes : CodeSet := ⟨[⟨0x2D, 0x2D⟩, ⟨0xFFFE, 0x10001⟩]⟩

theorem acrossPlanes_accepts :
    (∀ r ∈ acrossPlanes.ranges, r.lo ≤ r.hi) ∧
      (ecmaOfSet acrossPlanes).text = "[\\-\\uD800-\\uDFFF\\uFFFE-\\uFFFF]" ∧
      PatternMatches (ecmaOfSet acrossPlanes).text.toList [0xD83D] 0 1 := by
  have h : ∀ r ∈ acrossPlanes.ranges, r.lo ≤ r.hi := by decide
  obtain ⟨_, _, _, _, _, hmatch, _⟩ := ecmaOfSet_accepts h
  refine ⟨h, ?_, (hmatch _ (List.forall_mem_singleton.2 (by decide)) 0 1).2 ⟨rfl, _, rfl, ?_⟩⟩
  · have hprint : (ecmaOfSet acrossPlanes).print =
        "[\\-\\uD800-\\uDFFF\\uFFFE-\\uFFFF]".toList := by
      cbv
    rw [Ecma.text, hprint, String.ofList_toList]
  · exact .inr ⟨by decide, _, List.mem_cons_of_mem _ List.mem_cons_self, by decide⟩

end ProtoSchema.Pattern
