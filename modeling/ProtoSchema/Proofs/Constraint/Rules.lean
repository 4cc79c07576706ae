import ProtoSchema.Constraint.Basic
import ProtoSchema.Proofs.Outcome

/-!
# The rules of a field

A field has rules only if at most one set of them is given, and then they are that set.
-/

namespace ProtoSchema.FieldConstraints

/-- What the numeric rules are read as, if the bounds of all of them can be told. -/
theorem readNumeric_eq_ok {given : List (NumericKind × Except BoundsFault NumberRules)}
    {rules : List Rules}
    (h : List.Forall₂ (fun x y => (match x.2 with
      | .ok bounds => Except.ok (Rules.numeric x.1 bounds)
      | .error fault => .error (RulesFault.numeric x.1 fault)) = .ok y) given rules) :
    ∃ numeric : List (NumericKind × NumberRules),
      given = numeric.map (fun r => (r.1, .ok r.2)) ∧
        rules = numeric.map (fun r => .numeric r.1 r.2) := by
  induction h with
  | nil => exact ⟨[], rfl, rfl⟩
  | @cons x y xs ys hx _ ih =>
    obtain ⟨numeric, rfl, rfl⟩ := ih
    obtain ⟨kind, bounds⟩ := x
    cases bounds with
    | error fault => cases hx
    | ok b =>
      cases hx
      exact ⟨(kind, b) :: numeric, rfl, rfl⟩

/-- The rules that are told are all the rules that are given, the numeric ones first. -/
theorem rules_eq_ok {c : FieldConstraints} {o : Option Rules} (h : c.rules = .ok o) :
    ∃ numeric : List (NumericKind × NumberRules),
      c.numericRules = numeric.map (fun r => (r.1, .ok r.2)) ∧
        o.toList = numeric.map (fun r => .numeric r.1 r.2) ++ c.otherRules := by
  obtain ⟨rules, hn, h⟩ := Except.bind_eq_ok.1 h
  obtain ⟨numeric, hgiven, rfl⟩ := readNumeric_eq_ok (Except.mapM_eq_ok.1 hn)
  refine ⟨numeric, hgiven, ?_⟩
  split at h
  next he =>
    cases h
    exact he.symm
  next r he =>
    cases h
    exact he.symm
  next => cases h

/-- What is given, if it is one set of rules at most, is told. -/
theorem rules_of_given {c : FieldConstraints} {o : Option Rules}
    (numeric : List (NumericKind × NumberRules))
    (hgiven : c.numericRules = numeric.map fun r => (r.1, .ok r.2))
    (h : o.toList = numeric.map (fun r => .numeric r.1 r.2) ++ c.otherRules) :
    c.rules = .ok o := by
  refine Except.bind_eq_ok.2 ⟨numeric.map fun r => .numeric r.1 r.2, ?_, ?_⟩
  · rw [Except.mapM_eq_ok, hgiven, List.forall₂_map_left_iff, List.forall₂_map_right_iff]
    exact List.forall₂_same.2 fun _ _ => rfl
  · rw [← h]
    cases o <;> rfl

/-- Rules that are told are the only ones that are given, so others in their place are told too. -/
theorem rules_of_exchange {c c' : FieldConstraints} {o : Option Rules} (h : c.rules = .ok o)
    (hnumeric : c'.numericRules = c.numericRules) {r r' : Rules}
    (before after : List (Option Rules))
    (hr : c.otherRules = (before ++ some r :: after).filterMap id)
    (hr' : c'.otherRules = (before ++ some r' :: after).filterMap id) :
    o = some r ∧ c'.rules = .ok (some r') := by
  obtain ⟨numeric, hgiven, hall⟩ := rules_eq_ok h
  rw [List.filterMap_append, List.filterMap_cons_some (f := id) (b := r) rfl] at hr
  rw [List.filterMap_append, List.filterMap_cons_some (f := id) (b := r') rfl] at hr'
  rw [hr] at hall
  -- At most one set of rules is told, and it is this one.
  have hone : o.toList.length ≤ 1 := by cases o <;> simp
  rw [hall, List.length_append, List.length_append, List.length_map, List.length_cons] at hone
  obtain rfl : numeric = [] := List.length_eq_zero_iff.1 (by omega)
  have hbefore : before.filterMap id = [] := List.length_eq_zero_iff.1 (by omega)
  have hafter : after.filterMap id = [] := List.length_eq_zero_iff.1 (by omega)
  rw [hbefore, hafter] at hall hr'
  refine ⟨?_, rules_of_given [] (hnumeric.trans hgiven) hr'.symm⟩
  cases o with
  | none => cases hall
  | some x =>
    cases hall
    rfl

/-- Rules that are not numeric are among those given exactly if they are the ones told. -/
theorem mem_otherRules_iff {c : FieldConstraints} {o : Option Rules} (h : c.rules = .ok o)
    {r : Rules} (hr : ∀ kind bounds, r ≠ .numeric kind bounds) :
    r ∈ c.otherRules ↔ o = some r := by
  obtain ⟨numeric, -, he⟩ := rules_eq_ok h
  rw [← Option.mem_toList, he, List.mem_append]
  constructor
  · exact Or.inr
  · rintro (hm | hm)
    · obtain ⟨x, -, rfl⟩ := List.mem_map.1 hm
      exact absurd rfl (hr _ _)
    · exact hm

theorem mem_otherRules {c : FieldConstraints} {r : Rules} :
    r ∈ c.otherRules ↔ c.bool.map .bool = some r ∨ c.string.map .string = some r ∨
      c.bytes.map .bytes = some r ∨ c.enumeration.map .enumeration = some r ∨
      c.repeated.map .repeated = some r ∨ c.map.map .map = some r ∨ c.any.map .any = some r ∨
      c.duration.map .duration = some r ∨ c.timestamp.map .timestamp = some r := by
  unfold otherRules
  rw [List.mem_filterMap]
  simp only [id_eq, exists_eq_right, List.mem_cons, List.not_mem_nil, or_false, eq_comm]

theorem enumeration_eq_some {c : FieldConstraints} {o : Option Rules} (h : c.rules = .ok o)
    {r : EnumRules} : c.enumeration = some r ↔ o = some (.enumeration r) := by
  rw [← mem_otherRules_iff h (fun _ _ he => by cases he), mem_otherRules]
  simp

theorem repeated_eq_some {c : FieldConstraints} {o : Option Rules} (h : c.rules = .ok o)
    {r : RepeatedRules FieldConstraints} : c.repeated = some r ↔ o = some (.repeated r) := by
  rw [← mem_otherRules_iff h (fun _ _ he => by cases he), mem_otherRules]
  simp

theorem map_eq_some {c : FieldConstraints} {o : Option Rules} (h : c.rules = .ok o)
    {r : MapRules FieldConstraints} : c.map = some r ↔ o = some (.map r) := by
  rw [← mem_otherRules_iff h (fun _ _ he => by cases he), mem_otherRules]
  simp

theorem any_eq_some {c : FieldConstraints} {o : Option Rules} (h : c.rules = .ok o)
    {r : AnyRules} : c.any = some r ↔ o = some (.any r) := by
  rw [← mem_otherRules_iff h (fun _ _ he => by cases he), mem_otherRules]
  simp

theorem duration_eq_some {c : FieldConstraints} {o : Option Rules} (h : c.rules = .ok o)
    {r : DurationRules} : c.duration = some r ↔ o = some (.duration r) := by
  rw [← mem_otherRules_iff h (fun _ _ he => by cases he), mem_otherRules]
  simp

theorem timestamp_eq_some {c : FieldConstraints} {o : Option Rules} (h : c.rules = .ok o)
    {r : TimestampRules} : c.timestamp = some r ↔ o = some (.timestamp r) := by
  rw [← mem_otherRules_iff h (fun _ _ he => by cases he), mem_otherRules]
  simp

/-- Where the rules that are told are of one sort, the rules of that sort are the ones told. -/
theorem eq_told {α : Type} {wrap : α → Rules} (hwrap : Function.Injective wrap) {x o : Option α}
    (h : ∀ r, x = some r ↔ o.map wrap = some (wrap r)) : x = o := by
  ext r
  rw [h, Option.map_eq_some_iff]
  constructor
  · rintro ⟨r', hr', he⟩
    rwa [← hwrap he]
  · exact fun hr => ⟨r, hr, rfl⟩

theorem enumeration_eq_of_rules {c : FieldConstraints} {o : Option EnumRules}
    (h : c.rules = .ok (o.map .enumeration)) : c.enumeration = o :=
  eq_told (fun _ _ => Rules.enumeration.inj) fun _ => enumeration_eq_some h

theorem repeated_eq_of_rules {c : FieldConstraints} {o : Option (RepeatedRules FieldConstraints)}
    (h : c.rules = .ok (o.map .repeated)) : c.repeated = o :=
  eq_told (fun _ _ => Rules.repeated.inj) fun _ => repeated_eq_some h

theorem map_eq_of_rules {c : FieldConstraints} {o : Option (MapRules FieldConstraints)}
    (h : c.rules = .ok (o.map .map)) : c.map = o :=
  eq_told (fun _ _ => Rules.map.inj) fun _ => map_eq_some h

theorem any_eq_of_rules {c : FieldConstraints} {o : Option AnyRules}
    (h : c.rules = .ok (o.map .any)) : c.any = o :=
  eq_told (fun _ _ => Rules.any.inj) fun _ => any_eq_some h

theorem duration_eq_of_rules {c : FieldConstraints} {o : Option DurationRules}
    (h : c.rules = .ok (o.map .duration)) : c.duration = o :=
  eq_told (fun _ _ => Rules.duration.inj) fun _ => duration_eq_some h

theorem timestamp_eq_of_rules {c : FieldConstraints} {o : Option TimestampRules}
    (h : c.rules = .ok (o.map .timestamp)) : c.timestamp = o :=
  eq_told (fun _ _ => Rules.timestamp.inj) fun _ => timestamp_eq_some h

theorem rules_repeated {c : FieldConstraints} {r : RepeatedRules FieldConstraints}
    {o : Option Rules} (h : { c with repeated := some r }.rules = .ok o)
    (r' : RepeatedRules FieldConstraints) :
    o = some (.repeated r) ∧ { c with repeated := some r' }.rules = .ok (some (.repeated r')) := by
  have hnumeric : { c with repeated := some r' }.numericRules =
      { c with repeated := some r }.numericRules := rfl
  exact rules_of_exchange h hnumeric
    [c.bool.map .bool, c.string.map .string, c.bytes.map .bytes, c.enumeration.map .enumeration]
    [c.map.map .map, c.any.map .any, c.duration.map .duration, c.timestamp.map .timestamp] rfl rfl

theorem rules_map {c : FieldConstraints} {r : MapRules FieldConstraints} {o : Option Rules}
    (h : { c with map := some r }.rules = .ok o) (r' : MapRules FieldConstraints) :
    o = some (.map r) ∧ { c with map := some r' }.rules = .ok (some (.map r')) := by
  have hnumeric : { c with map := some r' }.numericRules =
      { c with map := some r }.numericRules := rfl
  exact rules_of_exchange h hnumeric
    [c.bool.map .bool, c.string.map .string, c.bytes.map .bytes, c.enumeration.map .enumeration,
      c.repeated.map .repeated]
    [c.any.map .any, c.duration.map .duration, c.timestamp.map .timestamp] rfl rfl

end ProtoSchema.FieldConstraints
