import ProtoSchema.Proofs.Generation.Meaning
import ProtoSchema.Proofs.Generation.WellFormed

/-!
# Rules that are skipped for the default

Two constraints that differ only in whether the rules are skipped for the default draft alike, and
the schema of the second accepts exactly one value more, the default.  This is so wherever a type
has constraints of its own: as a field, as the item of a list, and as the value or the key of a map.
-/

namespace ProtoSchema

/-! ## 1. Constraints and their relaxations -/

namespace FieldConstraints

/-- No policy says when rules are skipped. -/
structure NoPolicy (c : FieldConstraints) : Prop where
  ignoreEmpty : c.ignoreEmpty = false
  ignore : c.ignore = .unspecified

/-- The same constraints but that the rules are skipped for the default, which can be said in two
ways. -/
inductive Relaxes (c : FieldConstraints) : FieldConstraints → Prop
  | ignoreEmpty : Relaxes c { c with ignoreEmpty := true }
  | ifDefaultValue : Relaxes c { c with ignore := .ifDefaultValue }

variable {c c' : FieldConstraints}

theorem NoPolicy.skipsDefault (h : c.NoPolicy) : c.skipsDefault = false := by
  unfold FieldConstraints.skipsDefault
  rw [h.ignoreEmpty, h.ignore]
  rfl

theorem NoPolicy.inForce (h : c.NoPolicy) : c.inForce = c := by
  unfold FieldConstraints.inForce
  rw [h.ignore, if_neg (by decide)]

namespace Relaxes

theorem rules (h : c.Relaxes c') : c'.rules = c.rules := by
  cases h <;> rfl

theorem enumeration (h : c.Relaxes c') : c'.enumeration = c.enumeration := by
  cases h <;> rfl

theorem string (h : c.Relaxes c') : c'.string = c.string := by
  cases h <;> rfl

theorem skipsDefault (h : c.Relaxes c') : c'.skipsDefault = true := by
  cases h with
  | ignoreEmpty => rfl
  | ifDefaultValue => exact Bool.or_true _

theorem inForce (h : c.Relaxes c') (hc : c.NoPolicy) : c'.inForce = c' := by
  unfold FieldConstraints.inForce
  cases h with
  | ignoreEmpty => rw [hc.ignore, if_neg (by decide)]
  | ifDefaultValue => exact if_neg nofun

theorem ruled (h : c.Relaxes c') {takes : Rules → Prop} : c'.Ruled takes ↔ c.Ruled takes := by
  unfold Ruled
  rw [h.rules]

end Relaxes

end FieldConstraints

/-! ## 2. The default of a type -/

/-- The value is the default of the type, and there are rules that might be skipped for it.  Rules on
an enum that pick none of its names keep nothing out. -/
inductive ExemptDefault (p : Pool) (c : FieldConstraints) : ElementType → Json → Prop
  | scalar {kind : ScalarKind} {r : Rules} {v : Json} (hrules : c.rules = .ok (some r))
      (hv : IsDefault kind v) : ExemptDefault p c (.scalar kind) v
  | enum {name zero : String} {e : EnumType} {r : EnumRules} (he : p.enum? name = some e)
      (hrules : c.enumeration = some r) (hpicks : r.picks = true)
      (hzero : e.firstName? 0 = some zero) : ExemptDefault p c (.enum name) (.string zero)

/-- The type of a field that holds one value. -/
def ElementType.alone : ElementType → FieldType
  | scalar kind => .scalar kind
  | enum name => .enum name
  | message name => .message name

/-- Schemas that may be left out, of which the second accepts what the first does and the values with
a property besides, however references and patterns are read. -/
def WidensBy (P : Json → Prop) (s s' : Option Schema) : Prop :=
  ∀ δ refs v, Schema.HoldsOption δ refs s' v ↔ Schema.HoldsOption δ refs s v ∨ P v

namespace Generation

open Draft

variable {p : Pool} {c c' : FieldConstraints}

/-! ## 3. Items and values -/

theorem exemptDefault_scalar_iff {kind : ScalarKind} {o : Option Rules} (ho : c.rules = .ok o)
    {v : Json} : ExemptDefault p c (.scalar kind) v ↔ o.isSome ∧ IsDefault kind v := by
  constructor
  · intro h
    cases h with
    | scalar hrules hv =>
      cases hrules.symm.trans ho
      exact ⟨rfl, hv⟩
  · rintro ⟨hsome, hv⟩
    obtain ⟨r, rfl⟩ := Option.isSome_iff_exists.1 hsome
    exact .scalar ho hv

theorem ScalarUse.widens {kind : ScalarKind} {s s' : Schema} (hc : c.NoPolicy)
    (h : c.Relaxes c') (hs : ScalarUse kind c s) (hs' : ScalarUse kind c' s') :
    WidensBy (ExemptDefault p c (.scalar kind)) (some s) (some s') := by
  intro δ refs v
  obtain ⟨o, ho⟩ : ∃ o, c.rules = .ok o := by
    cases hs with
    | intro o ho => exact ⟨o, ho⟩
  have hstrict : s.Holds δ refs v ↔ ScalarConforms δ kind o v := by
    rw [hs.holds]
    simp [ScalarUseConforms, ho, hc.skipsDefault]
  have hrelaxed : s'.Holds δ refs v ↔
      ScalarConforms δ kind o v ∨ (o.isSome ∧ IsDefault kind v) := by
    rw [hs'.holds]
    simp [ScalarUseConforms, h.rules, ho, h.skipsDefault]
  rw [Schema.HoldsOption, Schema.HoldsOption, hstrict, hrelaxed, exemptDefault_scalar_iff ho]

theorem enumConforms_relaxed {name : String} (hc : c.NoPolicy) (h : c.Relaxes c')
    {r : EnumRules} (hr : c.enumeration = some r) (hpicks : r.picks = true) {v : Json} :
    EnumConforms p name c' v ↔ EnumConforms p name c v ∨ ExemptDefault p c (.enum name) v := by
  have hexempt : ExemptDefault p c (.enum name) v ↔
      ∃ e text, p.enum? name = some e ∧ v = .string text ∧ e.firstName? 0 = some text := by
    constructor
    · intro hv
      cases hv with
      | enum he _ _ hzero => exact ⟨_, _, he, rfl, hzero⟩
    · rintro ⟨e, text, he, rfl, hzero⟩
      exact .enum he hr hpicks hzero
  unfold EnumConforms
  rw [hexempt, h.enumeration, h.skipsDefault, hc.skipsDefault]
  simp only [Bool.false_eq_true, false_and, or_false, true_and, and_or_left, exists_or]

theorem EnumForm.widens {name : String} {s s' : Schema} {ts ts' : List Target} (hc : c.NoPolicy)
    (h : c.Relaxes c') (hs : EnumForm p name c s ts) (hs' : EnumForm p name c' s' ts') :
    ts' = ts ∧ WidensBy (ExemptDefault p c (.enum name)) (some s) (some s') := by
  have hlinks : enumLinks p name c' = enumLinks p name c := by
    unfold enumLinks
    rw [h.enumeration]
  refine ⟨hs'.links.trans (hlinks.trans hs.links.symm), fun δ refs v => ?_⟩
  rw [Schema.HoldsOption, Schema.HoldsOption]
  -- Rules pick names under both constraints or under neither, since they are the same rules.
  by_cases hpicks : ∃ r, c.enumeration = some r ∧ r.picks = true
  · obtain ⟨r, hr, hpicks⟩ := hpicks
    have hnil : enumLinks p name c = [] := by
      unfold enumLinks
      rw [hr, Option.any_some, if_pos hpicks]
    -- A schema that lists its names has no references to be read.
    have hright : ∀ {us}, us = enumLinks p name c → RightBelow δ p refs us (sizeOf v + 1) := by
      rintro _ rfl t ht
      rw [hnil] at ht
      cases ht
    rw [hs.holds (hright hs.links), hs'.holds (hright (hs'.links.trans hlinks))]
    exact enumConforms_relaxed hc h hr hpicks
  · have hnever : ¬ ExemptDefault p c (.enum name) v := by
      intro hv
      cases hv with
      | enum _ hr hp _ => exact hpicks ⟨_, hr, hp⟩
    have hreference : ∀ {c₁ s₁ us}, c₁.enumeration = c.enumeration → EnumForm p name c₁ s₁ us →
        ∃ e, p.enum? name = some e ∧ s₁ = .ref (.definition (Target.enum e).key) := by
      intro c₁ s₁ us hsame hform
      cases hform with
      | every e he => exact ⟨e, he, rfl⟩
      | picked e he r hrules s hnames =>
        rw [FieldConstraints.enumeration_eq_of_rules (o := some r) hrules] at hsame
        exact absurd ⟨r, hsame.symm, hnames.picks⟩ hpicks
    obtain ⟨e, he, rfl⟩ := hreference rfl hs
    obtain ⟨e', he', rfl⟩ := hreference h.enumeration hs'
    cases he.symm.trans he'
    exact (or_iff_left hnever).symm

/-- What a well-known type drafts depends on the rules alone, so a wrapper is never the default. -/
theorem wellKnownSchema_relaxed (h : c.Relaxes c') (t : WellKnownType) :
    wellKnownSchema t c' = wellKnownSchema t c := by
  have hrules : rulesOf c' = rulesOf c := by
    unfold rulesOf
    rw [h.rules]
  have hfor : ∀ {α : Type} (target : String) (select : Rules → Option α),
      rulesFor target select c' = rulesFor target select c := by
    intro α target select
    unfold rulesFor
    rw [hrules]
  have hstrict : ∀ kind, strictScalarSchema kind c' = strictScalarSchema kind c := by
    intro kind
    unfold strictScalarSchema
    rw [hrules]
  have hshared : ∀ t, sharedSchema t c' = sharedSchema t c := by
    intro t
    unfold sharedSchema noRules
    rw [hrules]
  cases t <;> simp only [wellKnownSchema, hfor, hstrict, hshared]

theorem embeddedSchema_relaxed (h : c.Relaxes c') (name : String) :
    embeddedSchema p name c' = embeddedSchema p name c := by
  have hrules : rulesOf c' = rulesOf c := by
    unfold rulesOf
    rw [h.rules]
  unfold embeddedSchema noRules
  simp only [wellKnownSchema_relaxed h, hrules]

/-- A type that is drafted under constraints is drafted under their relaxation, which widens its
schema by the default. -/
theorem elementSchema_relaxed (hc : c.NoPolicy) (h : c.Relaxes c') {t : ElementType} {s : Schema}
    {ts : List Target} (hs : (elementSchema p t c).Yields s ts) :
    ∃ s', (elementSchema p t c').Yields s' ts ∧
      WidensBy (ExemptDefault p c t) (some s) (some s') := by
  have hwell : ElementWellFormed p t c' ↔ ElementWellFormed p t c := by
    cases t <;> simp only [ElementWellFormed, EnumWellFormed, EmbeddedWellFormed, h.ruled]
  obtain ⟨s', hs'⟩ :=
    (succeeds_element.2 (hwell.2 (succeeds_element.1 hs.succeeds))).yields
  cases t with
  | scalar kind =>
    obtain ⟨rfl, huse⟩ := Yields.scalar hs
    obtain ⟨hnil, huse'⟩ := Yields.scalar hs'
    exact ⟨s', ⟨hs'.1, hnil⟩, huse.widens hc h huse'⟩
  | enum name =>
    obtain ⟨hsame, hwidens⟩ := EnumForm.widens hc h (Yields.enum hs) (Yields.enum hs')
    exact ⟨s', ⟨hs'.1, hsame⟩, hwidens⟩
  | message name =>
    refine ⟨s, ?_, fun δ refs v => (or_iff_left fun hv => by cases hv).symm⟩
    change (embeddedSchema p name c').Yields s ts
    rw [embeddedSchema_relaxed h]
    exact hs

/-! ## 4. Lists and maps -/

/-- What is drafted from rules of one sort is drafted where they are told. -/
theorem yields_rulesFor {α β : Type} {target : String} {select : Rules → Option α}
    (wrap : α → Rules) (hselect : ∀ r x, select r = some x ↔ r = wrap x) {f : Option α → Draft β}
    {y : β} {ts : List Target} :
    (rulesFor target select c >>= f).Yields y ts ↔
      ∃ o, c.rules = .ok (o.map wrap) ∧ (f o).Yields y ts := by
  have hsilent : ∀ {o us}, (rulesFor target select c).Yields o us →
      us = [] ∧ c.rules = .ok (o.map wrap) := fun h =>
    Yields.rulesFor wrap (fun hr => (hselect _ _).1 hr) h
  constructor
  · intro h
    obtain ⟨o, us, vs, ho, hf, rfl⟩ := yields_bind.1 h
    obtain ⟨rfl, hrules⟩ := hsilent ho
    exact ⟨o, hrules, hf⟩
  · rintro ⟨o, hrules, hf⟩
    have hresult : (rulesFor target select c).result = .ok o :=
      (result_rulesFor wrap hselect).2 hrules
    exact yields_bind.2 ⟨o, [], ts, ⟨hresult, (hsilent ⟨hresult, rfl⟩).1⟩, hf, rfl⟩

/-- A list is drafted if its rules are told and its items are drafted. -/
theorem yields_repeated_iff {t : ElementType} {s : Schema} {ts : List Target} :
    (repeatedSchema p t c).Yields s ts ↔
      ∃ (o : Option (RepeatedRules FieldConstraints)), c.rules = .ok (o.map .repeated) ∧
        ∃ i, (elementSchema p t (partConstraints (o.getD {}).items)).Yields i ts ∧
          s = .array { items := some i, minItems := (o.getD {}).minItems
                       maxItems := (o.getD {}).maxItems, uniqueItems := (o.getD {}).unique } := by
  refine (yields_rulesFor .repeated fun r x => by cases r <;> simp).trans ?_
  refine exists_congr fun o => and_congr_right fun _ => ?_
  constructor
  · intro h
    obtain ⟨i, us, vs, hi, hk, rfl⟩ := yields_bind.1 h
    obtain ⟨rfl, rfl⟩ := yields_pure.1 hk
    rw [List.append_nil]
    exact ⟨i, yields_inside.1 hi, rfl⟩
  · rintro ⟨i, hi, rfl⟩
    exact yields_bind.2 ⟨i, ts, [], yields_inside.2 hi, yields_pure.2 ⟨rfl, rfl⟩,
      (List.append_nil ts).symm⟩

/-- A map is drafted if its rules are told and its values and keys are drafted. -/
theorem yields_map_iff {key : ScalarKind} {t : ElementType} {s : Schema} {ts : List Target} :
    (mapSchema p key t c).Yields s ts ↔ key.isMapKey = true ∧
      ∃ (o : Option (MapRules FieldConstraints)), c.rules = .ok (o.map .map) ∧
        ∃ i names, (elementSchema p t (partConstraints (o.getD {}).values)).Yields i ts ∧
          (keySchema key (o.getD {}).keys).Yields names [] ∧
          s = .object { additionalProperties := some i, propertyNames := names
                        minProperties := (o.getD {}).minPairs
                        maxProperties := (o.getD {}).maxPairs } := by
  unfold mapSchema
  cases key.isMapKey with
  | false =>
    refine iff_of_false (fun h => ?_) (fun h => Bool.false_ne_true h.1)
    obtain ⟨u, us, vs, hu, -⟩ := yields_bind.1 h
    exact yields_fail hu
  | true =>
    rw [and_iff_right rfl]
    refine (yields_rulesFor .map fun r x => by cases r <;> simp).trans ?_
    refine exists_congr fun o => and_congr_right fun _ => ?_
    constructor
    · intro h
      obtain ⟨i, us, vs, hi, hk, rfl⟩ := yields_bind.1 h
      obtain ⟨names, us', vs', hn, hk', rfl⟩ := yields_bind.1 hk
      obtain ⟨rfl, rfl⟩ := yields_pure.1 hk'
      obtain ⟨rfl, -⟩ := Yields.key hn
      rw [List.append_nil, List.append_nil]
      exact ⟨i, names, yields_inside.1 hi, hn, rfl⟩
    · rintro ⟨i, names, hi, hn, rfl⟩
      refine yields_bind.2 ⟨i, ts, [], yields_inside.2 hi, ?_, (List.append_nil ts).symm⟩
      exact yields_bind.2 ⟨names, [], [], hn, yields_pure.2 ⟨rfl, rfl⟩, rfl⟩

/-- The key of a map whose keys are texts. -/
theorem keySchema_relaxed (hc : c.NoPolicy) (h : c.Relaxes c') {names : Option Schema}
    (hn : (keySchema .string (some c)).Yields names []) :
    ∃ names', (keySchema .string (some c')).Yields names' [] ∧
      WidensBy (ExemptDefault p c (.scalar .string)) names names' := by
  obtain ⟨s, us, vs, hs, hk, hnil⟩ := yields_bind.1 hn
  obtain ⟨rfl, rfl⟩ := List.append_eq_nil_iff.1 hnil.symm
  obtain ⟨hnames, -⟩ := yields_pure.1 hk
  have hs₀ : (scalarSchema .string c).Yields s [] := by
    have hinside := yields_inside.1 hs
    rwa [hc.inForce] at hinside
  obtain ⟨s', hs', hwidens⟩ := elementSchema_relaxed (p := p) (t := .scalar .string) hc h hs₀
  refine ⟨if ScalarKind.string = .string ∧ c'.inForce.string.isSome then some s' else none,
    yields_bind.2 ⟨s', [], [], yields_inside.2 ?_, yields_pure.2 ⟨rfl, rfl⟩, rfl⟩, ?_⟩
  · rw [h.inForce hc]
    exact hs'
  · rw [← hnames, h.inForce hc, hc.inForce, h.string]
    by_cases hstring : c.string.isSome
    · rw [if_pos ⟨rfl, hstring⟩, if_pos ⟨rfl, hstring⟩]
      exact hwidens
    · -- Without rules on texts the keys are not constrained at all.
      rw [if_neg (hstring ·.2), if_neg (hstring ·.2)]
      exact fun δ refs v => (or_iff_left_of_imp fun _ => trivial).symm

/-- A list whose items are relaxed has the same schema but for that of its items. -/
theorem repeatedSchema_relaxed (hc : c.NoPolicy) (h : c.Relaxes c') {o : FieldConstraints}
    {r : RepeatedRules FieldConstraints} {t : ElementType} {s : Schema} {ts : List Target}
    (hs : (repeatedSchema p t
      { o with repeated := some { r with items := some c } }).Yields s ts) :
    ∃ (k : ArrayKeywords Schema) (i i' : Schema), s = .array { k with items := some i } ∧
      (repeatedSchema p t { o with repeated := some { r with items := some c' } }).Yields
        (.array { k with items := some i' }) ts ∧
      WidensBy (ExemptDefault p c t) (some i) (some i') := by
  obtain ⟨x, hrules, i, hi, rfl⟩ := yields_repeated_iff.1 hs
  obtain ⟨hx, hrules'⟩ := FieldConstraints.rules_repeated hrules { r with items := some c' }
  obtain ⟨_, rfl, hr⟩ := Option.map_eq_some_iff.1 hx
  cases hr
  have hinner : (elementSchema p t c.inForce).Yields i ts := hi
  rw [hc.inForce] at hinner
  obtain ⟨i', hi', hwidens⟩ := elementSchema_relaxed hc h hinner
  refine ⟨{ minItems := r.minItems, maxItems := r.maxItems, uniqueItems := r.unique }, i, i', rfl,
    yields_repeated_iff.2 ⟨some { r with items := some c' }, hrules', i', ?_, rfl⟩, hwidens⟩
  change (elementSchema p t c'.inForce).Yields i' ts
  rwa [h.inForce hc]

/-- A map whose values are relaxed has the same schema but for that of its values. -/
theorem mapSchema_relaxed_values (hc : c.NoPolicy) (h : c.Relaxes c') {o : FieldConstraints}
    {r : MapRules FieldConstraints} {key : ScalarKind} {t : ElementType} {s : Schema}
    {ts : List Target}
    (hs : (mapSchema p key t { o with map := some { r with values := some c } }).Yields s ts) :
    ∃ (k : ObjectKeywords Schema) (i i' : Schema),
      s = .object { k with additionalProperties := some i } ∧
      (mapSchema p key t { o with map := some { r with values := some c' } }).Yields
        (.object { k with additionalProperties := some i' }) ts ∧
      WidensBy (ExemptDefault p c t) (some i) (some i') := by
  obtain ⟨hkey, x, hrules, i, names, hi, hn, rfl⟩ := yields_map_iff.1 hs
  obtain ⟨hx, hrules'⟩ := FieldConstraints.rules_map hrules { r with values := some c' }
  obtain ⟨_, rfl, hr⟩ := Option.map_eq_some_iff.1 hx
  cases hr
  have hinner : (elementSchema p t c.inForce).Yields i ts := hi
  rw [hc.inForce] at hinner
  obtain ⟨i', hi', hwidens⟩ := elementSchema_relaxed hc h hinner
  refine ⟨{ propertyNames := names, minProperties := r.minPairs, maxProperties := r.maxPairs }, i,
    i', rfl, yields_map_iff.2 ⟨hkey, some { r with values := some c' }, hrules', i', names, ?_, hn,
    rfl⟩, hwidens⟩
  change (elementSchema p t c'.inForce).Yields i' ts
  rwa [h.inForce hc]

/-- A map whose keys are relaxed has the same schema but for that of its keys. -/
theorem mapSchema_relaxed_keys (hc : c.NoPolicy) (h : c.Relaxes c') {o : FieldConstraints}
    {r : MapRules FieldConstraints} {t : ElementType} {s : Schema} {ts : List Target}
    (hs : (mapSchema p .string t { o with map := some { r with keys := some c } }).Yields s ts) :
    ∃ (k : ObjectKeywords Schema) (names names' : Option Schema),
      s = .object { k with propertyNames := names } ∧
      (mapSchema p .string t { o with map := some { r with keys := some c' } }).Yields
        (.object { k with propertyNames := names' }) ts ∧
      WidensBy (ExemptDefault p c (.scalar .string)) names names' := by
  obtain ⟨hkey, x, hrules, i, names, hi, hn, rfl⟩ := yields_map_iff.1 hs
  obtain ⟨hx, hrules'⟩ := FieldConstraints.rules_map hrules { r with keys := some c' }
  obtain ⟨_, rfl, hr⟩ := Option.map_eq_some_iff.1 hx
  cases hr
  obtain ⟨names', hn', hwidens⟩ := keySchema_relaxed (p := p) hc h hn
  exact ⟨{ additionalProperties := some i, minProperties := r.minPairs,
           maxProperties := r.maxPairs }, names, names', rfl,
    yields_map_iff.2 ⟨hkey, some { r with keys := some c' }, hrules', i, names', hi, hn', rfl⟩,
    hwidens⟩

/-! ## 5. The law -/

/-- Skipping the rules for the default widens the schema of a field, of an item, of a value and of a
key by the default and by nothing else, and it leaves well-known types as they are.  Where the rules
are never in force, a field is drafted as if it had none. -/
theorem relaxed_widens (hc : c.NoPolicy) (h : c.Relaxes c') :
    (∀ (f : Field) (t : ElementType) (s : Schema) (ts : List Target),
      (fieldSchema p { f with type := t.alone, constraints := c }).Yields s ts →
      ∃ s', (fieldSchema p { f with type := t.alone, constraints := c' }).Yields s' ts ∧
        WidensBy (ExemptDefault p c t) (some s) (some s')) ∧
    (∀ (o : FieldConstraints) (r : RepeatedRules FieldConstraints) (t : ElementType) (s : Schema)
        (ts : List Target),
      (repeatedSchema p t { o with repeated := some { r with items := some c } }).Yields s ts →
      ∃ (k : ArrayKeywords Schema) (i i' : Schema), s = .array { k with items := some i } ∧
        (repeatedSchema p t { o with repeated := some { r with items := some c' } }).Yields
          (.array { k with items := some i' }) ts ∧
        WidensBy (ExemptDefault p c t) (some i) (some i')) ∧
    (∀ (o : FieldConstraints) (r : MapRules FieldConstraints) (key : ScalarKind) (t : ElementType)
        (s : Schema) (ts : List Target),
      (mapSchema p key t { o with map := some { r with values := some c } }).Yields s ts →
      ∃ (k : ObjectKeywords Schema) (i i' : Schema),
        s = .object { k with additionalProperties := some i } ∧
        (mapSchema p key t { o with map := some { r with values := some c' } }).Yields
          (.object { k with additionalProperties := some i' }) ts ∧
        WidensBy (ExemptDefault p c t) (some i) (some i')) ∧
    (∀ (o : FieldConstraints) (r : MapRules FieldConstraints) (t : ElementType) (s : Schema)
        (ts : List Target),
      (mapSchema p .string t { o with map := some { r with keys := some c } }).Yields s ts →
      ∃ (k : ObjectKeywords Schema) (names names' : Option Schema),
        s = .object { k with propertyNames := names } ∧
        (mapSchema p .string t { o with map := some { r with keys := some c' } }).Yields
          (.object { k with propertyNames := names' }) ts ∧
        WidensBy (ExemptDefault p c (.scalar .string)) names names') ∧
    (∀ t, wellKnownSchema t c' = wellKnownSchema t c) ∧
    ∀ f : Field, fieldSchema p { f with constraints := { c with ignore := .always } } =
      fieldSchema p { f with constraints := {} } := by
  have halone : ∀ (f : Field) (t : ElementType) {c₁ : FieldConstraints}, c₁.inForce = c₁ →
      fieldSchema p { f with type := t.alone, constraints := c₁ } = elementSchema p t c₁ := by
    intro f t c₁ hforce
    unfold fieldSchema
    rw [hforce]
    cases t <;> rfl
  refine ⟨fun f t s ts hs => ?_, fun o r t s ts => repeatedSchema_relaxed hc h,
    fun o r key t s ts => mapSchema_relaxed_values hc h,
    fun o r t s ts => mapSchema_relaxed_keys hc h, wellKnownSchema_relaxed h, fun f => rfl⟩
  -- Neither policy puts rules out of force, so a field is drafted like an item of its type.
  rw [halone f t hc.inForce] at hs
  rw [halone f t (h.inForce hc)]
  exact elementSchema_relaxed hc h hs

/-- A switch can only be off. -/
def switchPool : Pool := ⟨[], [⟨".acme.Switch", [⟨"OFF", 0⟩]⟩], []⟩

def switchField : Field where
  name := "switch"
  jsonName := "switch"
  type := .enum ".acme.Switch"
  isOptional := false
  oneof := none
  constraints := {}

/-- Rules that leave out the only name accept nothing, and the default if they are skipped for it. -/
theorem switch_relaxed :
    ∃ s', (fieldSchema switchPool { switchField with
        constraints := { enumeration := some { deny := [0] }, ignoreEmpty := true } }).Yields s' [] ∧
      ∀ δ refs v, s'.Holds δ refs v ↔ v = .string "OFF" := by
  have hstrict : (fieldSchema switchPool { switchField with
      type := (ElementType.enum ".acme.Switch").alone
      constraints := { enumeration := some { deny := [0] } } }).Yields .never [] := ⟨rfl, rfl⟩
  obtain ⟨s', hs', hwidens⟩ := (relaxed_widens ⟨rfl, rfl⟩ .ignoreEmpty).1 _ _ _ _ hstrict
  refine ⟨s', hs', fun δ refs v => (hwidens δ refs v).trans ?_⟩
  have hnever : ¬ Schema.HoldsOption δ refs (some .never) v := id
  rw [or_iff_right hnever]
  constructor
  · intro hv
    cases hv with
    | enum he hrules hpicks hzero =>
      cases he
      cases hzero
      rfl
  · rintro rfl
    exact .enum rfl rfl rfl rfl

end Generation

end ProtoSchema
