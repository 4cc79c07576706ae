import ProtoSchema.Json.Value

/-!
# Folds over JSON values

What is made of a value from what is made of the values inside it: of a container from its parts,
each beside what was made of it.
-/

namespace ProtoSchema.Json

/-- What is made of scalars, of arrays and of objects. -/
structure Algebra (α : Type) where
  scalar : Json → α
  array : List (Json × α) → α
  object : List (String × Json × α) → α

namespace Algebra

variable {α : Type}

mutual

def fold (a : Algebra α) : Json → α
  | .array items => a.array (foldItems a items)
  | .object members => a.object (foldMembers a members)
  | v => a.scalar v

def foldItems (a : Algebra α) : List Json → List (Json × α)
  | [] => []
  | v :: rest => (v, fold a v) :: foldItems a rest

def foldMembers (a : Algebra α) : List (String × Json) → List (String × Json × α)
  | [] => []
  | (key, v) :: rest => (key, v, fold a v) :: foldMembers a rest

end

variable (a : Algebra α)

theorem fold_array (items : List Json) :
    a.fold (.array items) = a.array (items.map fun v => (v, a.fold v)) := by
  have hitems : a.foldItems items = items.map fun v => (v, a.fold v) := by
    induction items with
    | nil => rfl
    | cons v rest ih => rw [foldItems, ih, List.map_cons]
  rw [fold, hitems]

theorem fold_object (members : List (String × Json)) :
    a.fold (.object members) = a.object (members.map fun x => (x.1, x.2, a.fold x.2)) := by
  have hmembers : a.foldMembers members = members.map fun x => (x.1, x.2, a.fold x.2) := by
    induction members with
    | nil => rfl
    | cons x rest ih => rw [foldMembers, ih, List.map_cons]
  rw [fold, hmembers]

end Algebra

/-- A value is found under its key together with what was made of it. -/
theorem lookup_beside {α : Type} (f : Json → α) (members : List (String × Json)) (key : String) :
    (members.map fun x => (x.1, x.2, f x.2)).lookup key =
      (members.lookup key).map fun v => (v, f v) := by
  induction members with
  | nil => rfl
  | cons x rest ih =>
    obtain ⟨name, v⟩ := x
    rw [List.map_cons, List.lookup_cons, List.lookup_cons, ih]
    by_cases h : key = name
    · rw [h, beq_self_eq_true]
      rfl
    · rw [beq_false_of_ne h]

end ProtoSchema.Json
