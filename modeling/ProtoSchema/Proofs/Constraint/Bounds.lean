import ProtoSchema.Constraint.Numeric
import ProtoSchema.Proofs.Outcome

/-!
# Bounds

Rules on numbers are read as bounds in JSON numbers.  The bounds are told exactly if nothing is
wrong with the rules, each number then has its counterpart in its place, and otherwise the fault is
the first thing that is wrong.
-/

namespace ProtoSchema.NumericRules

variable {α β : Type}

/-! ## 1. What the bounds are -/

/-- Rules in the same places, with corresponding numbers. -/
structure Corresponds (R : α → β → Prop) (r : NumericRules α) (b : NumericRules β) : Prop where
  equals : Option.Rel R r.equals b.equals
  gt : Option.Rel R r.gt b.gt
  gte : Option.Rel R r.gte b.gte
  lt : Option.Rel R r.lt b.lt
  lte : Option.Rel R r.lte b.lte
  allow : List.Forall₂ R r.allow b.allow
  deny : List.Forall₂ R r.deny b.deny

section

variable {f : α → Option Number}

theorem bound_eq_ok {key : String} {x : Option α} {y : Option Number}
    (h : bound f key x = .ok y) : Option.Rel (fun x y => f x = some y) x y := by
  cases x with
  | none =>
    cases h
    exact .none
  | some x =>
    rw [bound] at h
    cases hx : f x with
    | none =>
      rw [hx] at h
      cases h
    | some n =>
      rw [hx] at h
      cases h
      exact .some hx

theorem members_eq_ok {key : String} {xs : List α} {ys : List Number}
    (h : members f key xs = .ok ys) : List.Forall₂ (fun x y => f x = some y) xs ys := by
  refine (Except.mapM_eq_ok.1 h).imp fun x y hxy => ?_
  split at hxy
  next n hn =>
    cases hxy
    exact hn
  next => cases hxy

/-- Every number of the rules has a counterpart in its place, and there are no others. -/
theorem bounds_eq_ok {r : NumericRules α} {b : NumberRules} (h : r.bounds f = .ok b) :
    r.Corresponds (fun x y => f x = some y) b := by
  unfold bounds at h
  by_cases hlower : (r.gt.isSome && r.gte.isSome) = true
  · rw [if_pos hlower] at h
    cases h
  by_cases hupper : (r.lt.isSome && r.lte.isSome) = true
  · rw [if_neg hlower, if_pos hupper] at h
    cases h
  rw [if_neg hlower, if_neg hupper] at h
  obtain ⟨equals, hequals, h⟩ := Except.bind_eq_ok.1 h
  obtain ⟨gt, hgt, h⟩ := Except.bind_eq_ok.1 h
  obtain ⟨gte, hgte, h⟩ := Except.bind_eq_ok.1 h
  obtain ⟨lt, hlt, h⟩ := Except.bind_eq_ok.1 h
  obtain ⟨lte, hlte, h⟩ := Except.bind_eq_ok.1 h
  obtain ⟨allow, hallow, h⟩ := Except.bind_eq_ok.1 h
  obtain ⟨deny, hdeny, h⟩ := Except.bind_eq_ok.1 h
  cases h
  exact ⟨bound_eq_ok hequals, bound_eq_ok hgt, bound_eq_ok hgte, bound_eq_ok hlt, bound_eq_ok hlte,
    members_eq_ok hallow, members_eq_ok hdeny⟩

end

/-- The numbers that rules are about. -/
def numbers (r : NumericRules α) : List α :=
  r.equals.toList ++ r.gt.toList ++ r.gte.toList ++ r.lt.toList ++ r.lte.toList ++ r.allow ++ r.deny

/-! ## 2. What can be wrong -/

section

variable (f : α → Option Number) (r : NumericRules α)

/-- What can be wrong with rules, in the order in which it is looked for, and whether it is. -/
def checks : List (Bool × BoundsFault) :=
  let lost := fun x => (f x).isNone
  [(r.gt.isSome && r.gte.isSome, .exclusive "gt" "gte"),
    (r.lt.isSome && r.lte.isSome, .exclusive "lt" "lte"),
    (r.equals.any lost, .notFinite "const"), (r.gt.any lost, .notFinite "gt"),
    (r.gte.any lost, .notFinite "gte"), (r.lt.any lost, .notFinite "lt"),
    (r.lte.any lost, .notFinite "lte"), (r.allow.any lost, .holdsNotFinite "in"),
    (r.deny.any lost, .holdsNotFinite "not_in")]

/-- The first thing that is wrong with rules. -/
def fault? : Option BoundsFault := ((r.checks f).find? (·.1)).map (·.2)

end

/-- The computation fails at the first of the checks that finds something wrong, and has a result if
none does. -/
def Follows (checks : List (Bool × BoundsFault)) (x : Except BoundsFault β) : Prop :=
  match checks.find? (·.1) with
  | some check => x = .error check.2
  | none => ∃ y, x = .ok y

namespace Follows

variable {wrong : Bool} {why : BoundsFault} {rest : List (Bool × BoundsFault)}

theorem ok (y : β) : Follows [] (.ok y) := ⟨y, rfl⟩

theorem fails {x : Except BoundsFault β} (h : x = .error why) : Follows ((true, why) :: rest) x := h

theorem passes {x : Except BoundsFault β} (h : Follows rest x) :
    Follows ((false, why) :: rest) x := h

theorem guard {x : Except BoundsFault β} {k : PUnit → Except BoundsFault β} (h : Follows rest x) :
    Follows ((wrong, why) :: rest) (if wrong = true then throw why >>= k else x) := by
  cases wrong with
  | true => exact fails rfl
  | false => exact passes h

theorem bind {γ : Type} {x : Except BoundsFault γ} {g : γ → Except BoundsFault β}
    (hx : Follows [(wrong, why)] x) (hg : ∀ y, Follows rest (g y)) :
    Follows ((wrong, why) :: rest) (x >>= g) := by
  cases wrong with
  | true =>
    apply fails
    rw [show x = .error why from hx]
    rfl
  | false =>
    obtain ⟨y, rfl⟩ := hx
    exact passes (hg y)

end Follows

variable {f : α → Option Number}

theorem follows_bound (key : String) (x : Option α) :
    Follows [(x.any fun x => (f x).isNone, .notFinite key)] (bound f key x) := by
  cases x with
  | none => exact .ok none
  | some x =>
    show Follows [((f x).isNone, .notFinite key)] (bound f key (some x))
    rw [bound]
    cases f x with
    | none => exact .fails rfl
    | some n => exact .passes (.ok (some n))

theorem follows_members (key : String) (xs : List α) :
    Follows [(xs.any fun x => (f x).isNone, .holdsNotFinite key)] (members f key xs) := by
  induction xs with
  | nil => exact .ok []
  | cons x xs ih =>
    rw [members, List.mapM_cons, List.any_cons]
    cases hx : f x with
    | none => exact .fails rfl
    | some n =>
      rw [Option.isNone_some, Bool.false_or]
      exact ih.bind fun ys => .ok (n :: ys)

/-- The checks are made one after the other, and bounds are told if all of them pass. -/
theorem follows_bounds (r : NumericRules α) : Follows (r.checks f) (r.bounds f) :=
  .guard (.guard
    ((follows_bound "const" r.equals).bind fun _ => (follows_bound "gt" r.gt).bind fun _ =>
      (follows_bound "gte" r.gte).bind fun _ => (follows_bound "lt" r.lt).bind fun _ =>
        (follows_bound "lte" r.lte).bind fun _ => (follows_members "in" r.allow).bind fun _ =>
          (follows_members "not_in" r.deny).bind fun _ => .ok _))

theorem bounds_eq_error_iff {r : NumericRules α} {why : BoundsFault} :
    r.bounds f = .error why ↔ r.fault? f = some why := by
  have h := r.follows_bounds (f := f)
  unfold Follows at h
  unfold fault?
  cases hfirst : (r.checks f).find? (·.1) with
  | some check =>
    rw [hfirst] at h
    rw [show r.bounds f = .error check.2 from h]
    simp
  | none =>
    rw [hfirst] at h
    obtain ⟨b, hb⟩ := h
    rw [hb]
    simp

/-! ## 3. When nothing is wrong -/

/-- The two forms of a bound are not given both, and every number is finite. -/
structure WellFormed (finite : α → Bool) (r : NumericRules α) : Prop where
  lower : r.gt = none ∨ r.gte = none
  upper : r.lt = none ∨ r.lte = none
  finite : ∀ x ∈ r.numbers, finite x

theorem both_given {x y : Option α} :
    (x.isSome && y.isSome) = false ↔ x = none ∨ y = none := by
  cases x <;> cases y <;> simp

theorem any_lost {x : Option α} :
    (x.any fun x => (f x).isNone) = false ↔ ∀ y ∈ x.toList, (f y).isSome := by
  cases x with
  | none => simp
  | some x => simp [Option.isSome_iff_ne_none]

theorem any_member_lost {xs : List α} :
    (xs.any fun x => (f x).isNone) = false ↔ ∀ y ∈ xs, (f y).isSome := by
  simp [Option.isSome_iff_ne_none]

theorem fault?_eq_none_iff {r : NumericRules α} :
    r.fault? f = none ↔ r.WellFormed fun x => (f x).isSome := by
  unfold fault?
  rw [Option.map_eq_none_iff, List.find?_eq_none]
  simp only [checks, List.forall_mem_cons, Bool.not_eq_true, both_given, any_lost, any_member_lost]
  constructor
  · intro ⟨hlower, hupper, hequals, hgt, hgte, hlt, hlte, hallow, hdeny, _⟩
    refine ⟨hlower, hupper, ?_⟩
    simp only [numbers, List.forall_mem_append]
    exact ⟨⟨⟨⟨⟨⟨hequals, hgt⟩, hgte⟩, hlt⟩, hlte⟩, hallow⟩, hdeny⟩
  · intro ⟨hlower, hupper, hfinite⟩
    simp only [numbers, List.forall_mem_append] at hfinite
    obtain ⟨⟨⟨⟨⟨⟨hequals, hgt⟩, hgte⟩, hlt⟩, hlte⟩, hallow⟩, hdeny⟩ := hfinite
    exact ⟨hlower, hupper, hequals, hgt, hgte, hlt, hlte, hallow, hdeny, List.forall_mem_nil _⟩

theorem Corresponds.unique {R : α → β → Prop} (hR : Relator.RightUnique R) {r : NumericRules α}
    {b c : NumericRules β} (hb : r.Corresponds R b) (hc : r.Corresponds R c) : b = c := by
  have hrel : ∀ {x : Option α} {y z : Option β}, Option.Rel R x y → Option.Rel R x z → y = z := by
    intro x y z hy hz
    cases hy with
    | none =>
      cases hz
      rfl
    | some hy =>
      cases hz with
      | some hz => exact congrArg some (hR hy hz)
  have hlist := hR.forall₂
  cases b
  cases c
  rw [NumericRules.mk.injEq]
  exact ⟨hrel hb.equals hc.equals, hrel hb.gt hc.gt, hrel hb.gte hc.gte, hrel hb.lt hc.lt,
    hrel hb.lte hc.lte, hlist hb.allow hc.allow, hlist hb.deny hc.deny⟩

/-- The bounds of well-formed rules are told, and they are the rules number by number. -/
theorem bounds_eq_ok_iff {r : NumericRules α} {b : NumberRules} :
    r.bounds f = .ok b ↔
      r.WellFormed (fun x => (f x).isSome) ∧ r.Corresponds (fun x y => f x = some y) b := by
  have hunique : Relator.RightUnique fun x y => f x = some y := by
    intro x y z hy hz
    exact Option.some.inj (hy.symm.trans hz)
  cases hr : r.bounds f with
  | error why =>
    -- Something is wrong, so the rules are not well-formed.
    have hfault := bounds_eq_error_iff.1 hr
    refine iff_of_false nofun fun h => ?_
    rw [fault?_eq_none_iff.2 h.1] at hfault
    cases hfault
  | ok c =>
    have hwell : r.WellFormed fun x => (f x).isSome := by
      rw [← fault?_eq_none_iff, Option.eq_none_iff_forall_ne_some]
      intro why hwhy
      rw [bounds_eq_error_iff.2 hwhy] at hr
      cases hr
    rw [Except.ok.injEq]
    constructor
    · rintro rfl
      exact ⟨hwell, bounds_eq_ok hr⟩
    · exact fun h => (bounds_eq_ok hr).unique hunique h.2

/-! ## 4. Rules in other numbers -/

/-- The rules with every number replaced. -/
def map (g : α → β) (r : NumericRules α) : NumericRules β where
  equals := r.equals.map g
  gt := r.gt.map g
  gte := r.gte.map g
  lt := r.lt.map g
  lte := r.lte.map g
  allow := r.allow.map g
  deny := r.deny.map g

theorem bound_map {h : β → Option Number} (g : α → β) (key : String) (x : Option α) :
    bound h key (x.map g) = bound (fun x => h (g x)) key x := by
  cases x <;> rfl

theorem members_map {h : β → Option Number} (g : α → β) (key : String) (xs : List α) :
    members h key (xs.map g) = members (fun x => h (g x)) key xs := by
  unfold members
  rw [List.mapM_map]
  rfl

theorem bounds_map {h : β → Option Number} (g : α → β) (r : NumericRules α) :
    (r.map g).bounds h = r.bounds fun x => h (g x) := by
  simp only [bounds, map, bound_map, members_map, Option.isSome_map]

end ProtoSchema.NumericRules
