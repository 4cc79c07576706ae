import Mathlib
import ProtoSchema.Schema.Document
import ProtoSchema.Schema.Redirect

/-!
# References inside schemas

The references that occur anywhere in a schema.  The combining functions may drop operands and never
bring in references of their own, and redirecting a schema redirects its references.
-/

namespace ProtoSchema

namespace Schema

/-! ## 1. The references of a schema -/

mutual

/-- Every reference that occurs in a schema. -/
def references : Schema → List Reference
  | object ⟨_, _, properties, _, additional, names, _, _⟩ =>
    referencesNamed properties ++ (referencesOption additional ++ referencesOption names)
  | array ⟨_, _, items, _, _, _⟩ => referencesOption items
  | ref target => [target]
  | allOf operands | anyOf operands | oneOf operands => referencesAll operands
  | not s => references s
  | always | never | generic _ | string _ | integer _ | number _ | boolean _ => []

def referencesAll : List Schema → List Reference
  | [] => []
  | s :: rest => references s ++ referencesAll rest

def referencesNamed : List (String × Schema) → List Reference
  | [] => []
  | (_, s) :: rest => references s ++ referencesNamed rest

def referencesOption : Option Schema → List Reference
  | none => []
  | some s => references s

end

theorem referencesAll_eq (operands : List Schema) :
    referencesAll operands = operands.flatMap references := by
  induction operands with
  | nil => rfl
  | cons s rest ih => rw [referencesAll, ih, List.flatMap_cons]

theorem referencesNamed_eq (named : List (String × Schema)) :
    referencesNamed named = named.flatMap fun x => x.2.references := by
  induction named with
  | nil => rfl
  | cons x rest ih => rw [referencesNamed, ih, List.flatMap_cons]

/-! ## 2. Combinations -/

/-- No reference comes from anywhere but the operands. -/
theorem mem_references_conjunction {operands : List Schema} {r : Reference}
    (h : r ∈ (conjunction operands).references) : ∃ s ∈ operands, r ∈ s.references := by
  unfold conjunction at h
  split at h
  next =>
    rw [references] at h
    cases h
  next =>
    have hkept : ∀ s ∈ operands.filter (!·.isAlways), s ∈ operands := fun s hs =>
      (List.mem_filter.1 hs).1
    split at h
    next =>
      rw [references] at h
      cases h
    next s hs => exact ⟨s, hkept s (hs ▸ List.mem_singleton_self s), h⟩
    next several _ _ =>
      rw [references, referencesAll_eq, List.mem_flatMap] at h
      obtain ⟨s, hs, hr⟩ := h
      exact ⟨s, hkept s hs, hr⟩

/-- A conjunction in which no operand never holds has all references of its operands: those that
always hold have none to lose. -/
theorem references_conjunction {operands : List Schema} (h : operands.any isNever = false) :
    (conjunction operands).references = operands.flatMap references := by
  have hkept : (operands.filter (!·.isAlways)).flatMap references = operands.flatMap references := by
    clear h
    induction operands with
    | nil => rfl
    | cons s rest ih =>
      rw [List.flatMap_cons, ← ih]
      by_cases halways : s.isAlways = true
      · rw [List.filter_cons_of_neg (by rw [halways]; decide)]
        cases s <;> first | rfl | cases halways
      · rw [List.filter_cons_of_pos (by rw [(Bool.not_eq_true _).mp halways]; rfl), List.flatMap_cons]
  rw [← hkept, conjunction, if_neg (by rw [h]; decide)]
  split
  next hnone =>
    rw [hnone]
    rfl
  next s hone =>
    rw [hone]
    exact (List.append_nil _).symm
  next several _ _ => rw [references, referencesAll_eq]

theorem mem_references_disjunction {operands : List Schema} {r : Reference}
    (h : r ∈ (disjunction operands).references) : ∃ s ∈ operands, r ∈ s.references := by
  unfold disjunction at h
  split at h
  next =>
    rw [references] at h
    cases h
  next s => exact ⟨s, List.mem_singleton_self s, h⟩
  next several _ _ =>
    rw [references, referencesAll_eq, List.mem_flatMap] at h
    exact h

theorem mem_references_choice {operands : List Schema} {r : Reference}
    (h : r ∈ (choice operands).references) : ∃ s ∈ operands, r ∈ s.references := by
  unfold choice at h
  split at h
  next =>
    rw [references] at h
    cases h
  next s => exact ⟨s, List.mem_singleton_self s, h⟩
  next several _ _ =>
    rw [references, referencesAll_eq, List.mem_flatMap] at h
    exact h

/-! ## 3. Redirection -/

mutual

theorem references_redirect (f : Reference → Reference) (s : Schema) :
    (s.redirect f).references = s.references.map f := by
  cases s with
  | object s =>
    obtain ⟨title, description, properties, required, additional, names, least, most⟩ := s
    rw [redirect, references, references, List.map_append, List.map_append,
      references_redirectNamed f properties, references_redirectOption f additional,
      references_redirectOption f names]
  | array s =>
    obtain ⟨title, description, items, least, most, unique⟩ := s
    rw [redirect, references, references, references_redirectOption f items]
  | allOf operands => rw [redirect, references, references, references_redirectAll f operands]
  | anyOf operands => rw [redirect, references, references, references_redirectAll f operands]
  | oneOf operands => rw [redirect, references, references, references_redirectAll f operands]
  | not s => rw [redirect, references, references, references_redirect f s]
  | ref target => rfl
  | always | never | generic | string | integer | number | boolean => rfl

theorem references_redirectAll (f : Reference → Reference) (operands : List Schema) :
    referencesAll (redirectAll f operands) = (referencesAll operands).map f := by
  cases operands with
  | nil => rfl
  | cons s rest =>
    rw [redirectAll, referencesAll, referencesAll, List.map_append, references_redirect f s,
      references_redirectAll f rest]

theorem references_redirectNamed (f : Reference → Reference) (named : List (String × Schema)) :
    referencesNamed (redirectNamed f named) = (referencesNamed named).map f := by
  cases named with
  | nil => rfl
  | cons x rest =>
    obtain ⟨key, s⟩ := x
    rw [redirectNamed, referencesNamed, referencesNamed, List.map_append, references_redirect f s,
      references_redirectNamed f rest]

theorem references_redirectOption (f : Reference → Reference) (o : Option Schema) :
    referencesOption (redirectOption f o) = (referencesOption o).map f := by
  cases o with
  | none => rfl
  | some s => rw [redirectOption, referencesOption, referencesOption, references_redirect f s]

end

end Schema

/-! ## 4. The references of a document -/

/-- Every reference in the root of a document or in one of its definitions. -/
def Document.references (d : Document) : List Reference :=
  d.root.references ++ d.definitions.flatMap fun x => x.2.references

end ProtoSchema
