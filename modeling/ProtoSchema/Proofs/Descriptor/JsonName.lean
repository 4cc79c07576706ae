import ProtoSchema.Descriptor.Name
import ProtoSchema.Proofs.Unicode.Casing

/-!
# JSON names

A name is made of runs of characters that underscores keep apart.  Its JSON name is these runs one
after the other, each but one at the very start with a capital, so that no underscore is left and
the JSON name of a JSON name is that name.
-/

namespace ProtoSchema

/-! ## 1. Runs -/

/-- Characters that stand together in a text, from `start` on. -/
structure Run where
  start : Nat
  chars : List Char
deriving DecidableEq, Repr

namespace Run

/-- The run further to the right. -/
def shift (n : Nat) (r : Run) : Run := ⟨n + r.start, r.chars⟩

/-- The run is in the text, has no underscores, and could not be longer: what stands beside it on
either side is an underscore or the end of the text. -/
structure In (text : List Char) (r : Run) : Prop where
  nonempty : r.chars ≠ []
  free : '_' ∉ r.chars
  placed : ∃ before after, text = before ++ (r.chars ++ after) ∧ before.length = r.start ∧
    (∀ c ∈ before.getLast?, c = '_') ∧ ∀ c ∈ after.head?, c = '_'

/-- What comes before the first underscore is determined by the text. -/
theorem takeWhile_eq {word rest : List Char} (hfree : '_' ∉ word)
    (hrest : ∀ c ∈ rest.head?, c = '_') : (word ++ rest).takeWhile (· ≠ '_') = word := by
  have hword : ∀ c ∈ word, decide (c ≠ '_') = true := by
    intro c hc
    apply decide_eq_true
    intro he
    exact hfree (he ▸ hc)
  rw [List.takeWhile_append_of_pos hword]
  cases rest with
  | nil => exact List.append_nil word
  | cons c rest =>
    rw [hrest c rfl]
    exact List.append_nil word

theorem not_in_nil (r : Run) : ¬ r.In [] := by
  intro h
  obtain ⟨before, after, htext, -⟩ := h.placed
  have hchars := (List.append_eq_nil_iff.1 (List.append_eq_nil_iff.1 htext.symm).2).1
  exact h.nonempty hchars

/-- No run starts with an underscore. -/
theorem not_in_underscore {text : List Char} {chars : List Char} :
    ¬ In ('_' :: text) ⟨0, chars⟩ := by
  intro h
  obtain ⟨before, after, htext, hstart, -⟩ := h.placed
  rw [List.eq_nil_of_length_eq_zero hstart, List.nil_append] at htext
  cases chars with
  | nil => exact h.nonempty rfl
  | cons c cs =>
    apply h.free
    rw [(List.cons.inj htext).1]
    exact List.mem_cons_self

/-- An underscore only moves the runs behind it. -/
theorem in_underscore_iff {text : List Char} {r : Run} :
    r.In ('_' :: text) ↔ ∃ t : Run, t.In text ∧ r = t.shift 1 := by
  constructor
  · intro h
    obtain ⟨before, after, htext, hstart, hbefore, hafter⟩ := h.placed
    cases before with
    | nil =>
      obtain ⟨start, chars⟩ := r
      cases hstart
      exact absurd h not_in_underscore
    | cons c before =>
      have hlast : ∀ d ∈ before.getLast?, d = '_' := by
        intro d hd
        apply hbefore
        rw [List.getLast?_cons, Option.mem_def.1 hd]
        rfl
      refine ⟨⟨before.length, r.chars⟩,
        ⟨h.nonempty, h.free, before, after, (List.cons.inj htext).2, rfl, hlast, hafter⟩, ?_⟩
      rw [shift, Nat.add_comm, ← List.length_cons, hstart]
  · intro h
    obtain ⟨t, ht, rfl⟩ := h
    obtain ⟨before, after, htext, hstart, hbefore, hafter⟩ := ht.placed
    refine ⟨ht.nonempty, ht.free, '_' :: before, after, ?_, ?_, ?_, hafter⟩
    · rw [htext]
      rfl
    · rw [List.length_cons, hstart]
      exact Nat.add_comm _ _
    · intro c hc
      rw [List.getLast?_cons] at hc
      cases hlast : before.getLast? with
      | none =>
        rw [hlast] at hc
        exact (Option.some.inj hc).symm
      | some d =>
        rw [hlast] at hc
        exact (Option.some.inj hc) ▸ hbefore d hlast

/-- A text that starts with a run has this run and those behind it. -/
theorem in_word_iff {word rest : List Char} (hword : word ≠ []) (hfree : '_' ∉ word)
    (hrest : ∀ c ∈ rest.head?, c = '_') {r : Run} :
    r.In (word ++ rest) ↔ r = ⟨0, word⟩ ∨ ∃ t : Run, t.In rest ∧ r = t.shift word.length := by
  constructor
  · intro h
    obtain ⟨before, after, htext, hstart, hbefore, hafter⟩ := h.placed
    rcases List.append_eq_append_iff.1 htext with ⟨gap, hgap, hbehind⟩ | ⟨gap, hgap, -⟩
    · -- The run lies behind the word.
      right
      have hlast : ∀ c ∈ gap.getLast?, c = '_' := by
        intro c hc
        apply hbefore
        rw [hgap, List.getLast?_append, Option.mem_def.1 hc]
        rfl
      refine ⟨⟨gap.length, r.chars⟩, ⟨h.nonempty, h.free, gap, after, hbehind, rfl, hlast, hafter⟩,
        ?_⟩
      rw [shift, ← List.length_append, ← hgap, hstart]
    · -- What stands before the run is a part of the word, so it does not end in an underscore.
      left
      have hnil : before = [] := by
        cases hlast : before.getLast? with
        | none => exact List.getLast?_eq_none_iff.1 hlast
        | some c =>
          have hc : '_' ∈ before := by
            rw [← hbefore c hlast]
            exact List.mem_of_getLast? hlast
          rw [hgap] at hfree
          exact absurd (List.mem_append_left _ hc) hfree
      have hchars : r.chars = word := by
        have heq := congrArg (List.takeWhile (· ≠ '_')) htext
        rw [hnil, List.nil_append, takeWhile_eq hfree hrest, takeWhile_eq h.free hafter] at heq
        exact heq.symm
      rw [hnil] at hstart
      rw [← hchars, ← show r.start = 0 from hstart.symm]
  · intro h
    rcases h with rfl | ⟨t, ht, rfl⟩
    · exact ⟨hword, hfree, [], rest, rfl, rfl, by simp, hrest⟩
    · obtain ⟨before, after, htext, hstart, hbefore, hafter⟩ := ht.placed
      refine ⟨ht.nonempty, ht.free, word ++ before, after, ?_, ?_, ?_, hafter⟩
      · rw [htext, List.append_assoc]
        rfl
      · rw [List.length_append, hstart]
        rfl
      · intro c hc
        rw [List.getLast?_append] at hc
        cases hlast : before.getLast? with
        | some d =>
          rw [hlast] at hc
          exact (Option.some.inj hc) ▸ hbefore d hlast
        | none =>
          -- The run would start the rest, which starts with an underscore if with anything.
          rw [List.getLast?_eq_none_iff.1 hlast, List.nil_append] at htext
          cases hchars : t.chars with
          | nil => exact absurd hchars ht.nonempty
          | cons d ds =>
            have hd : d = '_' := hrest d (by rw [htext, hchars]; rfl)
            have hmem : '_' ∈ t.chars := by
              rw [hchars, hd]
              exact List.mem_cons_self
            exact absurd hmem ht.free

theorem shift_shift (n k : Nat) (r : Run) : (r.shift n).shift k = r.shift (k + n) :=
  congrArg (Run.mk · r.chars) (Nat.add_assoc k n r.start).symm

end Run

/-- A text is empty, or starts with an underscore, or with a run that ends at an underscore or where
the text does. -/
theorem text_induction {P : List Char → Prop} (nil : P []) (underscore : ∀ cs, P cs → P ('_' :: cs))
    (run : ∀ word rest, word ≠ [] → '_' ∉ word → (∀ c ∈ rest.head?, c = '_') → P rest →
      P (word ++ rest)) (text : List Char) : P text := by
  induction hlength : text.length using Nat.strong_induction_on generalizing text with
  | h length ih =>
    cases text with
    | nil => exact nil
    | cons c cs =>
      rw [List.length_cons] at hlength
      by_cases hc : c = '_'
      · rw [hc]
        exact underscore cs (ih cs.length (by omega) cs rfl)
      · have hrest : ∀ d ∈ (cs.dropWhile (· ≠ '_')).head?, d = '_' := by
          intro d hd
          have hnot := List.head?_dropWhile_not (· ≠ '_') cs
          rw [Option.mem_def.1 hd] at hnot
          simpa using hnot
        have hfree : '_' ∉ c :: cs.takeWhile (· ≠ '_') := by
          intro hmem
          rcases List.mem_cons.1 hmem with he | hmem
          · exact hc he.symm
          · simpa using List.mem_takeWhile_imp hmem
        have hshort : (cs.dropWhile (· ≠ '_')).length ≤ cs.length :=
          (List.dropWhile_suffix _).length_le
        rw [← List.takeWhile_append_dropWhile (p := (· ≠ '_')) (l := cs), ← List.cons_append]
        exact run _ _ (List.cons_ne_nil _ _) hfree hrest (ih _ (by omega) _ rfl)

/-! ## 2. Capitals -/

/-- The characters with the first one in upper case. -/
def capitalized : List Char → List Char
  | [] => []
  | c :: cs => Unicode.toUpper c ++ cs

/-- What becomes of a run: only one at the very start keeps its first character. -/
def Run.written (r : Run) : List Char := if r.start = 0 then r.chars else capitalized r.chars

theorem underscore_not_mem_written {text : List Char} {r : Run} (h : r.In text) :
    '_' ∉ r.written := by
  unfold Run.written
  split
  next => exact h.free
  next =>
    have hfree := h.free
    cases hchars : r.chars with
    | nil => exact List.not_mem_nil
    | cons c cs =>
      rw [hchars, List.mem_cons, not_or] at hfree
      intro hmem
      rcases List.mem_append.1 hmem with hmem | hmem
      · exact Unicode.underscore_not_mem_toUpper (Ne.symm hfree.1) hmem
      · exact hfree.2 hmem

theorem capitalizeRuns_free {word : List Char} (hfree : '_' ∉ word) (rest : List Char) :
    capitalizeRuns false (word ++ rest) = word ++ capitalizeRuns false rest := by
  induction word with
  | nil => rfl
  | cons c cs ih =>
    rw [List.mem_cons, not_or] at hfree
    rw [List.cons_append, capitalizeRuns, if_neg (Ne.symm hfree.1), ih hfree.2]
    rfl

theorem capitalizeRuns_word {word : List Char} (hword : word ≠ []) (hfree : '_' ∉ word)
    (capital : Bool) (rest : List Char) :
    capitalizeRuns capital (word ++ rest) =
      (if capital then capitalized word else word) ++ capitalizeRuns false rest := by
  cases capital with
  | false =>
    rw [if_neg Bool.false_ne_true]
    exact capitalizeRuns_free hfree rest
  | true =>
    cases word with
    | nil => exact absurd rfl hword
    | cons c cs =>
      rw [List.mem_cons, not_or] at hfree
      rw [List.cons_append, capitalizeRuns, if_neg (Ne.symm hfree.1), if_pos rfl, if_pos rfl,
        capitalized, capitalizeRuns_free hfree.2, List.append_assoc]

/-- Where a capital is due in a text that stands `start` characters behind the beginning: not at the
beginning, and elsewhere wherever a run can start. -/
def CapitalDue (capital : Bool) (start : Nat) (text : List Char) : Prop :=
  if capital then start ≠ 0 else start = 0 ∨ ∀ c ∈ text.head?, c = '_'

/-- The runs of a text in their order, and what is written of them. -/
theorem exists_runs (text : List Char) : ∃ runs : List Run,
    runs.Pairwise (·.start < ·.start) ∧ (∀ r, r ∈ runs ↔ r.In text) ∧
      ∀ capital start, CapitalDue capital start text →
        capitalizeRuns capital text = runs.flatMap fun r => (r.shift start).written := by
  induction text using text_induction with
  | nil =>
    refine ⟨[], List.Pairwise.nil, fun r => ?_, fun _ _ _ => rfl⟩
    exact iff_of_false List.not_mem_nil r.not_in_nil
  | underscore cs ih =>
    obtain ⟨runs, hsorted, hmem, hwritten⟩ := ih
    refine ⟨runs.map (Run.shift 1), ?_, fun r => ?_, fun capital start _ => ?_⟩
    · rw [List.pairwise_map]
      exact hsorted.imp fun h => Nat.add_lt_add_left h 1
    · rw [Run.in_underscore_iff, List.mem_map]
      simp only [hmem, eq_comm]
    · rw [capitalizeRuns, if_pos rfl, hwritten true (start + 1) (Nat.succ_ne_zero start),
        List.flatMap_map]
      simp only [Run.shift_shift]
  | run word rest hword hfree hrest ih =>
    obtain ⟨runs, hsorted, hmem, hwritten⟩ := ih
    have hpos : 0 < word.length := List.length_pos_iff.2 hword
    refine ⟨⟨0, word⟩ :: runs.map (Run.shift word.length), ?_, fun r => ?_,
      fun capital start hdue => ?_⟩
    · rw [List.pairwise_cons, List.pairwise_map]
      constructor
      · intro r hr
        obtain ⟨t, -, rfl⟩ := List.mem_map.1 hr
        exact Nat.lt_of_lt_of_le hpos (Nat.le_add_right _ _)
      · exact hsorted.imp fun h => Nat.add_lt_add_left h _
    · rw [Run.in_word_iff hword hfree hrest, List.mem_cons, List.mem_map]
      simp only [hmem, eq_comm]
    · -- The first run has a capital exactly if one is due, and behind a run none is.
      have hfirst : (if capital then capitalized word else word) =
          (Run.shift start ⟨0, word⟩).written := by
        cases capital with
        | true => exact (if_neg hdue).symm
        | false =>
          rcases hdue with hstart | hhead
          · exact (if_pos hstart).symm
          · cases word with
            | nil => exact absurd rfl hword
            | cons c cs =>
              have hc : c = '_' := hhead c rfl
              rw [hc] at hfree
              exact absurd List.mem_cons_self hfree
      rw [capitalizeRuns_word hword hfree, List.flatMap_cons, List.flatMap_map, hfirst,
        hwritten false (start + word.length) (Or.inr hrest)]
      simp only [Run.shift_shift]

/-! ## 3. Names -/

/-- The JSON name has no underscore: it is the runs of the name in their order, each with its first
character in upper case unless the run starts the name.  It is its own JSON name. -/
theorem jsonName_capitalizes (name : String) :
    '_' ∉ (jsonName name).toList ∧
      (∃ runs : List Run, runs.Pairwise (·.start < ·.start) ∧ (∀ r, r ∈ runs ↔ r.In name.toList) ∧
        (jsonName name).toList = runs.flatMap Run.written) ∧
      jsonName (jsonName name) = jsonName name := by
  obtain ⟨runs, hsorted, hmem, hwritten⟩ := exists_runs name.toList
  have hruns : (jsonName name).toList = runs.flatMap Run.written := by
    rw [jsonName, String.toList_ofList, hwritten false 0 (Or.inl rfl)]
    simp only [Run.shift, Nat.zero_add]
  have hfree : '_' ∉ (jsonName name).toList := by
    intro hunderscore
    rw [hruns] at hunderscore
    obtain ⟨r, hr, hunderscore⟩ := List.mem_flatMap.1 hunderscore
    exact underscore_not_mem_written ((hmem r).1 hr) hunderscore
  have hagain : jsonName (jsonName name) = jsonName name := by
    have hkept := capitalizeRuns_free hfree []
    rw [List.append_nil, capitalizeRuns, List.append_nil] at hkept
    rw [jsonName, hkept, String.ofList_toList]
  exact ⟨hfree, ⟨runs, hsorted, hmem, hruns⟩, hagain⟩

example : jsonName "_line__items_2_" = "LineItems2" := by decide

end ProtoSchema
