import ProtoSchema.Proofs.Unicode.Planes
import ProtoSchema.Unicode.Casing

/-!
# Case folding of ASCII

A letter of ASCII is folded to its other case.  Two letters are also folded to a character beyond
ASCII: `k` to the sign of the kelvin and `s` to the long s.  So what a set of ASCII characters takes
in by case folding are the letters in their other case and these two characters.
-/

namespace ProtoSchema.Unicode

/-! ## 1. The classes of letters -/

/-- The code point of a letter of ASCII in its other case; others have none and stay. -/
def otherCase (n : Nat) : Nat :=
  if 0x41 ≤ n ∧ n ≤ 0x5A then n + 32 else if 0x61 ≤ n ∧ n ≤ 0x7A then n - 32 else n

theorem otherCase_otherCase (n : Nat) : otherCase (otherCase n) = n := by
  unfold otherCase
  split_ifs <;> omega

theorem otherCase_lt {n : Nat} (h : n < 0x80) : otherCase n < 0x80 := by
  unfold otherCase
  split_ifs <;> omega

/-- The classes of folding that hold letters of ASCII. -/
def letterFolds : List (List Nat) :=
  (List.range 26).map fun k =>
    (0x41 + k) :: (0x61 + k) :: (if k = 10 then [0x212A] else if k = 18 then [0x17F] else [])

/-- The characters of ASCII and those that are folded to one. -/
def FoldsToAscii (n : Nat) : Prop := n < 0x80 ∨ n = 0x17F ∨ n = 0x212A

instance : DecidablePred FoldsToAscii := fun n =>
  inferInstanceAs (Decidable (n < 0x80 ∨ n = 0x17F ∨ n = 0x212A))

/-- The table starts with the classes of letters, and the others have nothing to do with ASCII. -/
theorem foldClasses_eq : ∃ rest, foldClasses = letterFolds ++ rest ∧
    ∀ cls ∈ rest, ∀ n ∈ cls, ¬ FoldsToAscii n := by
  refine ⟨foldClasses.drop 26, ?_, ?_⟩
  · have htake : foldClasses.take 26 = letterFolds := by decide +kernel
    rw [← htake, List.take_append_drop]
  · have hall : (foldClasses.drop 26).all (·.all fun n => !decide (FoldsToAscii n)) = true := by
      decide +kernel
    intro cls hcls n hn
    have hnot := List.all_eq_true.1 (List.all_eq_true.1 hall cls hcls) n hn
    simpa using hnot

theorem mem_letterFolds {cls : List Nat} (h : cls ∈ foldClasses) {n : Nat} (hn : n ∈ cls)
    (ha : FoldsToAscii n) : cls ∈ letterFolds := by
  obtain ⟨rest, heq, hrest⟩ := foldClasses_eq
  rw [heq] at h
  exact (List.mem_append.1 h).resolve_right fun h => hrest cls h n hn ha

theorem letterFolds_subset {cls : List Nat} (h : cls ∈ letterFolds) : cls ∈ foldClasses := by
  obtain ⟨rest, heq, -⟩ := foldClasses_eq
  rw [heq]
  exact List.mem_append_left _ h

/-! ## 2. Characters that differ in case -/

/-- Two code points are the same or are folded to the same. -/
def Alike (n m : Nat) : Prop := n = m ∨ ∃ cls ∈ foldClasses, n ∈ cls ∧ m ∈ cls

theorem Alike.foldsToAscii {n m : Nat} (h : Alike n m) (hm : m < 0x80) : FoldsToAscii n := by
  have hletters : ∀ cls ∈ letterFolds, ∀ n ∈ cls, FoldsToAscii n := by decide
  rcases h with rfl | ⟨cls, hcls, hn, hm'⟩
  · exact .inl hm
  · exact hletters cls (mem_letterFolds hcls hm' (.inl hm)) n hn

/-- Within ASCII, what differs in case only are the two cases of a letter. -/
theorem alike_iff {n m : Nat} (hn : n < 0x80) (hm : m < 0x80) :
    Alike n m ↔ n = m ∨ n = otherCase m := by
  have hcases : ∀ cls ∈ letterFolds, ∀ n ∈ cls, ∀ m ∈ cls, n < 0x80 → m < 0x80 →
      n = m ∨ n = otherCase m := by decide
  have hclass : ∀ m < 0x80, otherCase m = m ∨ ∃ cls ∈ letterFolds, otherCase m ∈ cls ∧ m ∈ cls := by
    decide
  constructor
  · rintro (rfl | ⟨cls, hcls, hn', hm'⟩)
    · exact .inl rfl
    · exact hcases cls (mem_letterFolds hcls hm' (.inl hm)) n hn' m hm' hn hm
  · rintro (rfl | rfl)
    · exact .inl rfl
    · rcases hclass m hm with heq | ⟨cls, hcls, hn', hm'⟩
      · exact .inl heq
      · exact .inr ⟨cls, letterFolds_subset hcls, hn', hm'⟩

/-- A character is in one class of letters only. -/
theorem Alike.trans {n m k : Nat} (h : Alike n m) (h' : Alike m k) (hk : k < 0x80) : Alike n k := by
  have hunique : ∀ cls ∈ letterFolds, ∀ cls' ∈ letterFolds, ∀ m ∈ cls, m ∈ cls' → cls = cls' := by
    decide +kernel
  rcases h with rfl | ⟨cls, hcls, hn, hm⟩
  · exact h'
  rcases h' with rfl | ⟨cls', hcls', hm', hk'⟩
  · exact .inr ⟨cls, hcls, hn, hm⟩
  · have ha : FoldsToAscii m := Alike.foldsToAscii (.inr ⟨cls', hcls', hm', hk'⟩) hk
    have heq := hunique cls (mem_letterFolds hcls hm ha) cls' (mem_letterFolds hcls' hm' ha) m hm hm'
    exact .inr ⟨cls, hcls, hn, heq ▸ hk'⟩

/-! ## 3. Closed sets -/

namespace CodeSet

theorem mem_caseClosure {s : CodeSet} {n : Nat} :
    n ∈ s.caseClosure ↔ ∃ m ∈ s, Alike n m := by
  have hany : ∀ cls : List Nat, cls.any s.contains = true ↔ ∃ m ∈ cls, m ∈ s :=
    fun cls => List.any_eq_true
  have hsingle : ∀ k, n ∈ CodeRange.single k ↔ n = k := by
    intro k
    rw [CodeRange.mem_iff]
    change k ≤ n ∧ n ≤ k ↔ n = k
    omega
  unfold caseClosure closeUnder
  rw [mem_ofRanges]
  constructor
  · rintro ⟨r, hr, hn⟩
    rcases List.mem_append.1 hr with hr | hr
    · exact ⟨n, mem_iff.2 ⟨r, hr, hn⟩, .inl rfl⟩
    · obtain ⟨cls, hcls, hr⟩ := List.mem_flatMap.1 hr
      obtain ⟨k, hk, rfl⟩ := List.mem_map.1 hr
      obtain ⟨hcls, hshares⟩ := List.mem_filter.1 hcls
      obtain ⟨m, hm, hms⟩ := (hany cls).1 hshares
      exact ⟨m, hms, .inr ⟨cls, hcls, (hsingle k).1 hn ▸ hk, hm⟩⟩
  · rintro ⟨m, hms, rfl | ⟨cls, hcls, hn, hm⟩⟩
    · obtain ⟨r, hr, hn⟩ := mem_iff.1 hms
      exact ⟨r, List.mem_append_left _ hr, hn⟩
    · have hshares : cls ∈ foldClasses.filter (·.any s.contains) :=
        List.mem_filter.2 ⟨hcls, (hany cls).2 ⟨m, hm, hms⟩⟩
      exact ⟨.single n, List.mem_append_right _ (List.mem_flatMap.2
        ⟨cls, hshares, List.mem_map_of_mem hn⟩), (hsingle n).2 rfl⟩

/-- What folding adds to a set that folds to ASCII are single characters of the basic plane. -/
theorem Tidy.caseClosure {s : CodeSet} {k : Nat} (h : s.Tidy k) (hs : ∀ n ∈ s, FoldsToAscii n)
    (l : Nat) : s.caseClosure.Tidy l := by
  have hletters : ∀ cls ∈ letterFolds, ∀ n ∈ cls, FoldsToAscii n := by decide
  have hadded : ∀ r ∈ (foldClasses.filter (·.any s.contains)).flatMap (·.map CodeRange.single),
      r.Proper ∧ r.Unsplit := by
    intro r hr
    obtain ⟨cls, hcls, hr⟩ := List.mem_flatMap.1 hr
    obtain ⟨n, hn, rfl⟩ := List.mem_map.1 hr
    obtain ⟨hcls, hshares⟩ := List.mem_filter.1 hcls
    obtain ⟨m, hm, hms⟩ := List.any_eq_true.1 hshares
    have hn' := hletters cls (mem_letterFolds hcls hm (hs m hms)) n hn
    have hvalid : n.isValidChar := by
      unfold FoldsToAscii at hn'
      unfold Nat.isValidChar
      omega
    refine ⟨⟨le_rfl, hvalid, hvalid⟩, .inl ?_⟩
    change n ≤ 0xFFFF
    unfold FoldsToAscii at hn'
    omega
  refine tidy_ofRanges (fun r hr => ?_) (fun r hr => ?_) l
  · exact (List.mem_append.1 hr).elim (h.proper r) fun hr => (hadded r hr).1
  · exact (List.mem_append.1 hr).elim (h.unsplit r) fun hr => (hadded r hr).2

end CodeSet

end ProtoSchema.Unicode
