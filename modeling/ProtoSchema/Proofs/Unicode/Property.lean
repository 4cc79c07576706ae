import Mathlib
import ProtoSchema.Unicode.Property

/-!
# Names of properties

No property has a name with a closing brace, so a property class ends at the first one.
-/

namespace ProtoSchema.Unicode

/-- Whether a text has no closing brace, told from its bytes. -/
def isBraceless (s : String) : Bool := s.toByteArray.data.toList.all fun b => b.toNat != 0x7D

theorem not_mem_of_isBraceless {s : String} (h : isBraceless s = true) : '}' ∉ s.toList := by
  intro hmem
  have hbytes : s.toByteArray.data.toList = s.toList.flatMap String.utf8EncodeChar := by
    have hencode : s.toByteArray = (s.toList).utf8Encode := by
      rw [← String.toByteArray_ofList, String.ofList_toList]
    rw [hencode, List.utf8Encode, List.toList_data_toByteArray]
  have hbyte : (0x7D : UInt8) ∈ s.toByteArray.data.toList := by
    rw [hbytes, List.mem_flatMap]
    exact ⟨'}', hmem, by decide⟩
  exact absurd (List.all_eq_true.1 h _ hbyte) (by decide)

/-- Lower case gives a closing brace for no other character. -/
theorem eq_brace_of_toLower {c : Char} (h : c.toLower = '}') : c = '}' := by
  unfold Char.toLower at h
  split at h
  · rename_i hupper
    have hle : c.val.toNat ≤ 0x5A := hupper.2
    have hval : (c.val + ('a'.val - 'A'.val)).toNat = 0x7D := congrArg (fun d => d.val.toNat) h
    rw [UInt32.toNat_add] at hval
    have hshift : ('a'.val - 'A'.val).toNat = 0x20 := by decide
    omega
  · exact h

theorem brace_mem_letters {kept : Char → Bool} {cs : List Char}
    (h : '}' ∈ normalizeName.letters kept cs) : '}' ∈ cs := by
  induction cs with
  | nil => exact absurd h List.not_mem_nil
  | cons c cs ih =>
    unfold normalizeName.letters at h
    split at h
    · rcases List.mem_cons.1 h with heq | h
      · rw [eq_brace_of_toLower heq.symm]
        exact List.mem_cons_self
      · exact List.mem_cons_of_mem _ (ih h)
    · exact List.mem_cons_of_mem _ (ih h)

theorem brace_mem_normalizeName {s : String} (h : '}' ∈ (normalizeName s).toList) :
    '}' ∈ s.toList := by
  unfold normalizeName at h
  dsimp only at h
  split at h
  · rename_i i s' rest heq
    rw [heq]
    split at h
    · split at h
      · exact absurd h (by decide)
      · rw [String.toList_ofList] at h
        exact List.mem_cons_of_mem _ (List.mem_cons_of_mem _ (brace_mem_letters h))
    · rw [String.toList_ofList] at h
      exact brace_mem_letters h
  · rw [String.toList_ofList] at h
    exact brace_mem_letters h

theorem canonicalName?_brace {rows : List (List String)}
    (h : rows.all (·.all isBraceless) = true) : canonicalName? rows "\x7d" = none := by
  unfold canonicalName?
  rw [List.find?_eq_none.2]
  · rfl
  · intro row hrow hany
    obtain ⟨name, hname, heq⟩ := List.any_eq_true.1 hany
    have hbraceless := List.all_eq_true.1 (List.all_eq_true.1 h row hrow) name hname
    have hnormal : normalizeName name = "\x7d" := by simpa using heq
    refine not_mem_of_isBraceless hbraceless (brace_mem_normalizeName ?_)
    rw [hnormal]
    decide

/-- A closing brace is no property. -/
theorem resolve_brace : PropertyQuery.resolve (.ofName "\x7d") = .error .unknownProperty := by
  have hnormal : normalizeName "\x7d" = "\x7d" := by decide
  have hproperty : canonicalName? Table.propertyNames "\x7d" = none :=
    canonicalName?_brace (by decide +kernel)
  have hcategory : canonicalName? Table.generalCategoryNames "\x7d" = none :=
    canonicalName?_brace (by decide +kernel)
  have hscript : canonicalName? Table.scriptNames "\x7d" = none :=
    canonicalName?_brace (by decide +kernel)
  have hspecial : specialCategory? "\x7d" = none := by
    unfold specialCategory?
    rw [if_neg (by decide), if_neg (by decide), if_neg (by decide)]
  have hshort : ["cf", "sc", "lc"].contains "\x7d" = false := by decide
  rw [PropertyQuery.resolve, hnormal, PropertyQuery.resolveName, hshort, if_neg Bool.false_ne_true,
    hproperty, category?, hspecial, hcategory, script?, hscript]
  rfl

end ProtoSchema.Unicode
