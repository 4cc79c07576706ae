import Mathlib
import ProtoSchema.Unicode.Casing

/-!
# Upper case

No other character has an underscore in its upper case.  Beyond ASCII the upper case is read from a
table, whose rows are read here as lists of characters: on these the kernel can decide it.
-/

namespace ProtoSchema.Unicode

/-! ## 1. Rows as lists of characters -/

theorem decimal_ofList (digits : List Char) :
    decimal (String.ofList digits) =
      digits.foldl (fun n c => 10 * n + (c.toNat - '0'.toNat)) 0 := by
  rw [decimal, String.foldl_eq_foldl_toList, String.toList_ofList]

/-- What the character of a row becomes. -/
def rowTarget (row : List Char) : List Char :=
  match row.splitOnP (· == '>') with
  | [_, target] =>
    (target.splitOnP (· == '+')).map fun digits =>
      Char.ofNat (digits.foldl (fun n c => 10 * n + (c.toNat - '0'.toNat)) 0)
  | _ => []

theorem mappingRow_ofList (row : List Char) : (mappingRow (String.ofList row)).2 = rowTarget row := by
  unfold mappingRow rowTarget
  rw [String.splitToList_of_valid, String.toList_ofList]
  cases row.splitOnP (· == '>') with
  | nil => rfl
  | cons source rest =>
    cases rest with
    | nil => rfl
    | cons target rest =>
      cases rest with
      | nil =>
        show (String.splitToList (String.ofList target) (· == '+')).map
          (fun n => Char.ofNat (decimal n)) = _
        rw [String.splitToList_of_valid, String.toList_ofList, List.map_map]
        apply List.map_congr_left
        intro digits _
        exact congrArg Char.ofNat (decimal_ofList digits)
      | cons _ _ => rfl

theorem mem_words {table : List Char} {word : String} (h : word ∈ words (String.ofList table)) :
    ∃ w ∈ table.splitOnP (fun c => c == ' ' || c == '\n'), word = String.ofList w := by
  have hword := List.mem_of_mem_filter h
  rw [String.splitToList_of_valid, String.toList_ofList] at hword
  obtain ⟨w, hw, he⟩ := List.mem_map.1 hword
  exact ⟨w, hw, he.symm⟩

/-! ## 2. Underscores -/

set_option maxRecDepth 100000 in
/-- The table of upper cases has no underscore. -/
theorem upperTable_without_underscore : ∃ table, Table.upper = String.ofList table ∧
    ((table.splitOnP fun c => c == ' ' || c == '\n').all
      fun row => !(rowTarget row).contains '_') = true := by
  refine ⟨_, by delta Table.upper; rfl, ?_⟩
  decide +kernel

theorem underscore_not_mem_row {row : Nat × List Char} (h : row ∈ upperRows) : '_' ∉ row.2 := by
  obtain ⟨table, htable, hall⟩ := upperTable_without_underscore
  unfold upperRows at h
  rw [htable] at h
  obtain ⟨word, hword, rfl⟩ := List.mem_map.1 h
  obtain ⟨w, hw, rfl⟩ := mem_words hword
  rw [mappingRow_ofList]
  have hrow := List.all_eq_true.1 hall w hw
  simpa using hrow

/-- Upper case gives an underscore for no other character. -/
theorem underscore_not_mem_toUpper {c : Char} (h : c ≠ '_') : '_' ∉ toUpper c := by
  unfold toUpper
  split
  next hascii =>
    have hall : ∀ n < 128, Char.ofNat n ≠ '_' → (Char.ofNat n).toUpper ≠ '_' := by decide
    intro hmem
    have hupper := hall c.toNat hascii
    rw [Char.ofNat_toNat] at hupper
    exact hupper h (List.mem_singleton.1 hmem).symm
  next =>
    cases hrow : upperRows.lookup c.toNat with
    | none =>
      intro hmem
      exact h (List.mem_singleton.1 hmem).symm
    | some target =>
      obtain ⟨before, after, hrows, -⟩ := List.lookup_eq_some_iff.1 hrow
      have hmem : (c.toNat, target) ∈ upperRows := by
        rw [hrows]
        exact List.mem_append_right before List.mem_cons_self
      exact underscore_not_mem_row hmem

end ProtoSchema.Unicode
