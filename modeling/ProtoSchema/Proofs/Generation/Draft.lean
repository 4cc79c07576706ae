import ProtoSchema.Generation.Draft
import ProtoSchema.Proofs.Outcome

/-!
# Drafts that succeed

A draft that succeeds has a result and the types that it uses, in the order in which they come up.
`Draft.Yields` says both at once, and each way to build a draft has one lemma that takes it apart.
-/

namespace ProtoSchema.Generation.Draft

variable {α β γ ε : Type}

/-! ## 1. The laws of drafts -/

theorem ext {d e : Draft α} (hu : d.uses = e.uses) (hr : d.result = e.result) : d = e := by
  cases d
  cases e
  simp only at hu hr
  rw [hu, hr]

theorem andThen_ok {d : Draft α} {x : α} (h : d.result = .ok x) (f : α → Draft β) :
    d.andThen f = ⟨d.uses ++ (f x).uses, (f x).result⟩ := by
  unfold andThen
  rw [h]

theorem andThen_error {d : Draft α} {e : Fault} (h : d.result = .error e) (f : α → Draft β) :
    d.andThen f = ⟨d.uses, .error e⟩ := by
  unfold andThen
  rw [h]

theorem done_andThen (x : α) (f : α → Draft β) : (done x).andThen f = f x := by
  rw [andThen_ok (x := x) rfl]
  exact ext (List.nil_append _) rfl

theorem andThen_done (d : Draft α) : d.andThen done = d := by
  cases h : d.result with
  | ok x =>
    rw [andThen_ok h]
    exact ext (List.append_nil _) h.symm
  | error e =>
    rw [andThen_error h]
    exact ext rfl h.symm

theorem andThen_assoc (d : Draft α) (f : α → Draft β) (g : β → Draft γ) :
    (d.andThen f).andThen g = d.andThen fun x => (f x).andThen g := by
  cases h : d.result with
  | error e => rw [andThen_error h, andThen_error h, andThen_error rfl]
  | ok x =>
    rw [andThen_ok h, andThen_ok h]
    cases hf : (f x).result with
    | error e =>
      rw [andThen_error (d := f x) hf]
      exact andThen_error rfl g
    | ok y =>
      rw [andThen_ok (d := f x) hf, andThen_ok (x := y) rfl]
      exact ext (List.append_assoc ..) rfl

instance : LawfulMonad Draft :=
  LawfulMonad.mk' Draft andThen_done done_andThen andThen_assoc

/-! ## 2. What a draft yields -/

/-- The types that a draft uses. -/
def targets (d : Draft α) : List Target := d.uses.map (·.target)

/-- The draft succeeds with a result and uses these types. -/
def Yields (d : Draft α) (x : α) (ts : List Target) : Prop := d.result = .ok x ∧ d.targets = ts

@[simp] theorem yields_pure {x y : α} {ts : List Target} :
    Yields (pure x) y ts ↔ x = y ∧ ts = [] := by
  change (Except.ok x = Except.ok y ∧ [] = ts) ↔ _
  rw [Except.ok.injEq, eq_comm (a := ([] : List Target))]

@[simp] theorem yields_done {x y : α} {ts : List Target} :
    Yields (done x) y ts ↔ x = y ∧ ts = [] := yields_pure

@[simp] theorem yields_fail {cause : Cause} {y : α} {ts : List Target} :
    ¬ Yields (fail cause) y ts := by
  rintro ⟨h, -⟩
  cases h

theorem yields_bind {d : Draft α} {f : α → Draft β} {y : β} {ts : List Target} :
    Yields (d >>= f) y ts ↔
      ∃ x us vs, Yields d x us ∧ Yields (f x) y vs ∧ ts = us ++ vs := by
  change Yields (d.andThen f) y ts ↔ _
  cases h : d.result with
  | error e =>
    rw [andThen_error h]
    constructor
    · rintro ⟨hr, -⟩
      cases hr
    · rintro ⟨x, us, vs, ⟨hr, -⟩, -⟩
      rw [h] at hr
      cases hr
  | ok x =>
    rw [andThen_ok h]
    constructor
    · rintro ⟨hr, ht⟩
      refine ⟨x, d.targets, (f x).targets, ⟨h, rfl⟩, ⟨hr, rfl⟩, ?_⟩
      rw [← ht]
      exact List.map_append
    · rintro ⟨x', us, vs, ⟨hx, rfl⟩, ⟨hr, rfl⟩, rfl⟩
      rw [h, Except.ok.injEq] at hx
      subst hx
      exact ⟨hr, List.map_append⟩

@[simp] theorem yields_inside {segment : String} {d : Draft α} {x : α} {ts : List Target} :
    Yields (d.inside segment) x ts ↔ Yields d x ts := by
  have ht : (d.inside segment).targets = d.targets := List.map_map
  have hr : (d.inside segment).result = .ok x ↔ d.result = .ok x := by
    change d.result.mapError _ = _ ↔ _
    cases d.result <;> simp [Except.mapError]
  rw [Yields, Yields, ht, hr]

@[simp] theorem yields_ofExcept {r : Except ε α} {cause : ε → Cause} {x : α} {ts : List Target} :
    Yields (ofExcept r cause) x ts ↔ r = .ok x ∧ ts = [] := by
  cases r with
  | error e => simp [ofExcept]
  | ok y => simp [ofExcept]

@[simp] theorem yields_reference {t : Target} {s : Schema} {ts : List Target} :
    Yields (reference t) s ts ↔ s = .ref (.definition t.key) ∧ ts = [t] := by
  change (Except.ok _ = Except.ok s ∧ [t] = ts) ↔ _
  rw [Except.ok.injEq, eq_comm, eq_comm (a := [t])]

/-- Drafts in a row: the results in order, and the uses of one after those of the other. -/
theorem Yields.mapM {f : α → Draft β} {xs : List α} {ys : List β} {ts : List Target}
    (h : Yields (xs.mapM f) ys ts) :
    List.Forall₂ (fun x y => ∃ us, Yields (f x) y us) xs ys ∧
      ts = xs.flatMap fun x => (f x).targets := by
  induction xs generalizing ys ts with
  | nil =>
    rw [List.mapM_nil, yields_pure] at h
    obtain ⟨rfl, rfl⟩ := h
    exact ⟨.nil, rfl⟩
  | cons x xs ih =>
    rw [List.mapM_cons, yields_bind] at h
    obtain ⟨y, us, vs, hx, hxs, rfl⟩ := h
    rw [yields_bind] at hxs
    obtain ⟨ys', vs', ws, hys, hw, rfl⟩ := hxs
    rw [yields_pure] at hw
    obtain ⟨rfl, rfl⟩ := hw
    obtain ⟨hall, rfl⟩ := ih hys
    refine ⟨.cons ⟨us, hx⟩ hall, ?_⟩
    rw [List.flatMap_cons, hx.2, List.append_nil]

/-- Drafts in a row that use no types. -/
theorem Yields.mapM_silent {f : α → Draft β} {P : α → β → Prop}
    (hf : ∀ x y us, Yields (f x) y us → P x y ∧ us = []) {xs : List α} {ys : List β}
    {ts : List Target} (h : Yields (xs.mapM f) ys ts) : List.Forall₂ P xs ys ∧ ts = [] := by
  obtain ⟨hall, rfl⟩ := h.mapM
  refine ⟨hall.imp fun x y hy => (hf _ _ _ hy.choose_spec).1,
    List.flatMap_eq_nil_iff.2 fun x hx => ?_⟩
  obtain ⟨y, -, us, hy⟩ := forall₂_exists_right hall hx
  exact hy.2.trans (hf _ _ _ hy).2

/-- An optional draft that uses no types. -/
theorem Yields.option_silent {f : α → Draft β} {P : α → β → Prop}
    (hf : ∀ x y us, Yields (f x) y us → P x y ∧ us = []) {o : Option α} {o' : Option β}
    {ts : List Target} (h : Yields (o.mapM f) o' ts) : Option.Rel P o o' ∧ ts = [] := by
  cases o with
  | none =>
    rw [Option.mapM_none, yields_pure] at h
    obtain ⟨rfl, rfl⟩ := h
    exact ⟨.none, rfl⟩
  | some x =>
    rw [Option.mapM_some, map_eq_pure_bind, yields_bind] at h
    obtain ⟨y, us, vs, hy, hw, rfl⟩ := h
    obtain ⟨rfl, rfl⟩ := yields_pure.1 hw
    obtain ⟨hp, rfl⟩ := hf _ _ _ hy
    exact ⟨.some hp, rfl⟩

end ProtoSchema.Generation.Draft
