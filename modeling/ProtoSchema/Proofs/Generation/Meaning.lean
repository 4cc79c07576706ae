import ProtoSchema.Proofs.Generation.Leaves
import ProtoSchema.Proofs.Generation.Walk

/-!
# The meaning of types

The schema of a type accepts exactly the values that conform to the type, provided that references
are read rightly for smaller values: every reference inside the schema of a type stands in a property
or an item.
-/

namespace ProtoSchema

namespace Generation

variable {δ : Dialect} {refs : Reference → Json → Prop} {p : Pool}

/-- The value conforms to a type that a document can define. -/
def TargetConforms (δ : Dialect) (p : Pool) : Target → Json → Prop
  | .message m, v => MessageConforms δ p m v
  | .enum e, v => ∃ text, v = .string text ∧ e.Declares text
  | .shared t, v => SharedConforms δ t v

/-- The interpretation is right about the definitions of some types, as far as values below a size
are concerned. -/
def RightBelow (δ : Dialect) (p : Pool) (refs : Reference → Json → Prop) (ts : List Target)
    (size : Nat) : Prop :=
  ∀ t ∈ ts, ∀ w : Json, sizeOf w < size →
    (refs (.definition t.key) w ↔ TargetConforms δ p t w)

theorem RightBelow.mono {ts us : List Target} {k n : Nat} (h : RightBelow δ p refs ts n)
    (hts : us ⊆ ts) (hk : k ≤ n) : RightBelow δ p refs us k :=
  fun t ht w hw => h t (hts ht) w (Nat.lt_of_lt_of_le hw hk)

/-! ## 1. Uses of types -/

theorem EnumForm.holds {name : String} {c : FieldConstraints} {s : Schema} {ts : List Target}
    (h : EnumForm p name c s ts) {v : Json} (hrefs : RightBelow δ p refs ts (sizeOf v + 1)) :
    s.Holds δ refs v ↔ EnumConforms p name c v := by
  have huse : ∀ {e : EnumType} {o : Option EnumRules}, p.enum? name = some e →
      c.rules = .ok (o.map .enumeration) →
      (EnumConforms p name c v ↔ ∃ text, v = .string text ∧ ((o.getD {}).Permits e text ∨
        (c.skipsDefault = true ∧ e.firstName? 0 = some text))) := by
    intro e o he hrules
    unfold EnumConforms
    rw [FieldConstraints.enumeration_eq_of_rules hrules, he]
    simp
  cases h with
  | every e he o hrules ho =>
    rw [huse he hrules, Schema.Holds, hrefs _ (List.mem_singleton_self _) v (Nat.lt_succ_self _)]
    have hpermits : ∀ text, (o.getD {}).Permits e text ↔ e.Declares text := by
      intro text
      cases o with
      | none => simp [EnumRules.Permits]
      | some r => exact (ho r rfl).every_iff
    -- The default is a declared name, so that skipping rules for it lets nothing else in.
    have hdefault : ∀ text, e.firstName? 0 = some text → e.Declares text := by
      intro text htext
      obtain ⟨x, hx, rfl⟩ := Option.map_eq_some_iff.1 htext
      exact .inr ⟨x, List.mem_of_find?_eq_some hx, rfl⟩
    refine exists_congr fun text => and_congr_right fun _ => ?_
    rw [hpermits]
    exact ⟨.inl, fun h => h.elim id fun h => hdefault text h.2⟩
  | picked e he r hrules s hs =>
    rw [huse (o := some r) he hrules, Option.getD_some]
    split
    next zero hzero =>
      split
      next hskip =>
        have hdefault : (∃ text, v = .string text ∧ e.firstName? 0 = some text) ↔
            v = .string zero := by simp [hzero]
        rw [Schema.holds_disjunction]
        simp only [List.mem_cons, List.not_mem_nil, or_false, exists_eq_or_imp, exists_eq_left,
          Schema.holds_ofString, hs.holds]
        simp only [hskip, true_and, and_or_left, exists_or, hdefault, or_comm]
      next hskip => simp [hs.holds, hskip]
    next hzero => simp [hs.holds, hzero]

theorem WellKnownForm.holds {c : FieldConstraints} {t : WellKnownType} {s : Schema}
    {ts : List Target} (h : WellKnownForm c t s ts) {v : Json}
    (hrefs : RightBelow δ p refs ts (sizeOf v + 1)) :
    s.Holds δ refs v ↔ WellKnownConforms δ t c v := by
  have href : ∀ t ∈ ts, refs (.definition t.key) v ↔ TargetConforms δ p t v := fun t ht =>
    hrefs t ht v (Nat.lt_succ_self _)
  cases h with
  | any o hrules =>
    rw [WellKnownConforms, FieldConstraints.any_eq_of_rules hrules, AnyConforms, anyUnder,
      Schema.holds_conjunction, List.forall_mem_cons, Schema.Holds,
      href _ (List.mem_singleton_self _), TargetConforms]
    -- The rules look at members, so the value has to be known to be an object first.
    refine and_congr_right fun hany => ?_
    obtain ⟨members, rfl, -⟩ := hany
    rw [holds_anyRules]
    simp
  | duration o hrules equals allow deny hequals hallow hdeny =>
    rw [WellKnownConforms, FieldConstraints.duration_eq_of_rules hrules]
    exact holds_durationTexts hequals hallow hdeny
  | timestamp o hrules equals hequals =>
    rw [WellKnownConforms, FieldConstraints.timestamp_eq_of_rules hrules]
    refine holds_timestampTexts ?_
    cases o <;> exact hequals
  | shared t ht hrules =>
    rw [Schema.Holds, href _ (List.mem_singleton_self _), TargetConforms]
    cases t with
    | any => exact absurd rfl ht
    | empty | listValue | struct | value => rfl
  | wrapper t kind hkind o hrules s hs =>
    -- A wrapper conforms as the scalar that it holds does, whichever wrapper it is.
    have hwrapper : WellKnownConforms δ t c v ↔
        ∃ kind o, wrapped? t = some kind ∧ c.rules = .ok o ∧ ScalarConforms δ kind o v := by
      cases t <;> first | rfl | cases hkind
    rw [hwrapper, hs.holds]
    constructor
    · exact fun h => ⟨kind, o, hkind, hrules, h⟩
    · rintro ⟨kind', o', hkind', hrules', h⟩
      cases hkind.symm.trans hkind'
      cases hrules.symm.trans hrules'
      exact h

theorem EmbeddedForm.holds {name : String} {c : FieldConstraints} {s : Schema} {ts : List Target}
    (h : EmbeddedForm p name c s ts) {v : Json} (hrefs : RightBelow δ p refs ts (sizeOf v + 1)) :
    s.Holds δ refs v ↔ EmbeddedConforms δ p name c v := by
  rw [EmbeddedConforms]
  cases h with
  | wellKnown t ht s ts hs =>
    rw [ht]
    exact hs.holds hrefs
  | declared ht m hm hrules =>
    rw [ht, Schema.Holds, hrefs _ (List.mem_singleton_self _) v (Nat.lt_succ_self _),
      TargetConforms]
    simp [hm]

theorem ElementForm.holds {t : ElementType} {c : FieldConstraints} {s : Schema} {ts : List Target}
    (h : ElementForm p c t s ts) {v : Json} (hrefs : RightBelow δ p refs ts (sizeOf v + 1)) :
    s.Holds δ refs v ↔ ElementConforms δ p t c v := by
  rw [ElementConforms.eq_def]
  cases h with
  | scalar kind s hs => exact hs.holds
  | enum name s ts hs => exact hs.holds hrefs
  | message name s ts hs => exact hs.holds hrefs

theorem KeyForm.holds {kind : ScalarKind} {keys : Option FieldConstraints} {names : Option Schema}
    (h : KeyForm kind keys names) {key : String} :
    Schema.HoldsOption δ refs names (.string key) ↔ KeyConforms δ kind keys key := by
  unfold KeyConforms
  cases h with
  | none => simp [Schema.HoldsOption]
  | some c s hs =>
    split
    next hkey => simp [Schema.HoldsOption, hs.holds, hkey.1, hkey.2]
    next hkey =>
      refine iff_of_true trivial fun c' hc hkind hstring => ?_
      cases hc
      exact absurd ⟨hkind, hstring⟩ hkey

/-- The schema of a field accepts what conforms to the type of the field. -/
theorem FieldForm.holds {t : FieldType} {c : FieldConstraints} {s : Schema} {ts : List Target}
    (h : FieldForm p c t s ts) {v : Json} (hrefs : RightBelow δ p refs ts (sizeOf v + 1)) :
    s.Holds δ refs v ↔ FieldConforms δ p t c v := by
  cases h with
  | scalar kind s hs =>
    rw [FieldConforms]
    exact hs.holds
  | enum name s ts hs =>
    rw [FieldConforms]
    exact hs.holds hrefs
  | message name s ts hs =>
    rw [FieldConforms]
    exact hs.holds hrefs
  | map key value o hrules values ts hvalues names hnames =>
    rw [Schema.Holds]
    constructor
    · rintro ⟨members, rfl, -, hvals, hkeys, -, hleast, hmost⟩
      rw [FieldConforms, FieldConstraints.map_eq_of_rules hrules]
      refine ⟨fun x hx => ⟨hnames.holds.1 (hkeys x hx), ?_⟩, hleast, hmost⟩
      -- The value of a pair is smaller than the map, so references inside it are read rightly.
      have hsmall := hrefs.mono (List.Subset.refl _) (Nat.le_succ_of_le (sizeOf_member_lt hx))
      exact (hvalues.holds hsmall).1 (hvals x hx List.not_mem_nil)
    · intro hv
      cases v with
      | object members =>
        rw [FieldConforms, FieldConstraints.map_eq_of_rules hrules] at hv
        obtain ⟨hmembers, hleast, hmost⟩ := hv
        refine ⟨members, rfl, trivial, fun x hx _ => ?_, fun x hx => ?_, by simp, hleast, hmost⟩
        · have hsmall := hrefs.mono (List.Subset.refl _) (Nat.le_succ_of_le (sizeOf_member_lt hx))
          exact (hvalues.holds hsmall).2 (hmembers x hx).2
        · exact hnames.holds.2 (hmembers x hx).1
      | null | bool | number | string | array =>
        rw [FieldConforms] at hv
        · exact hv.elim
        all_goals simp
  | repeated item o hrules items ts hitems =>
    rw [Schema.Holds]
    constructor
    · rintro ⟨values, rfl, hvalues, hleast, hmost, hunique⟩
      rw [FieldConforms, FieldConstraints.repeated_eq_of_rules hrules]
      refine ⟨fun w hw => ?_, hleast, hmost, hunique⟩
      have hsmall := hrefs.mono (List.Subset.refl _) (Nat.le_succ_of_le (sizeOf_item_lt hw))
      exact (hitems.holds hsmall).1 (hvalues w hw)
    · intro hv
      cases v with
      | array values =>
        rw [FieldConforms, FieldConstraints.repeated_eq_of_rules hrules] at hv
        obtain ⟨hvalues, hleast, hmost, hunique⟩ := hv
        refine ⟨values, rfl, fun w hw => ?_, hleast, hmost, hunique⟩
        have hsmall := hrefs.mono (List.Subset.refl _) (Nat.le_succ_of_le (sizeOf_item_lt hw))
        exact (hitems.holds hsmall).2 (hvalues w hw)
      | null | bool | number | string | object =>
        rw [FieldConforms] at hv
        · exact hv.elim
        all_goals simp

/-! ## 2. Types that a document defines -/

theorem holds_presence {f : Field} {members : List (String × Json)} :
    (presence f).Holds δ refs (.object members) ↔ Present members f.jsonName := by
  unfold presence Present
  simp only [Schema.Holds, Json.object.injEq, exists_eq_left', Schema.HoldsNamed,
    Schema.HoldsOption, implies_true, and_true, true_and, List.mem_singleton, forall_eq,
    Option.mem_def, reduceCtorEq, false_implies]

/-- The choices among members demand that exactly one member is present. -/
theorem holds_oneofChoices {m : Message} (hnames : (m.fields.map (·.jsonName)).Nodup)
    {members : List (String × Json)} :
    (∀ s ∈ oneofChoices m, s.Holds δ refs (.object members)) ↔
      ∀ o ∈ m.oneofs, o.required = true →
        ∃! name, name ∈ (m.members o).map (·.jsonName) ∧ Present members name := by
  have hchoice : ∀ o ∈ m.oneofs,
      ((Schema.choice ((m.members o).map presence)).Holds δ refs (.object members) ↔
        ∃! name, name ∈ (m.members o).map (·.jsonName) ∧ Present members name) := by
    intro o ho
    -- Distinct names turn "exactly one schema holds" into "exactly one name is present".
    have hnodup : ((m.members o).map (·.jsonName)).Nodup := by
      rw [Message.members_eq_filter ho]
      exact hnames.sublist (List.filter_sublist.map _)
    have hsame : ((m.members o).map presence).map
        (fun s => s.Holds δ refs (.object members)) =
        ((m.members o).map (·.jsonName)).map (Present members) := by
      rw [List.map_map, List.map_map]
      exact List.map_congr_left fun f _ => propext holds_presence
    rw [Schema.holds_choice, hsame, exactlyOne_map_iff hnodup]
  unfold oneofChoices
  rw [List.forall_mem_map]
  simp only [List.mem_filter, and_imp]
  exact forall₂_congr fun o ho => imp_congr_right fun _ => hchoice o ho

/-- The object of a message accepts the members that are fields and conform to their types. -/
theorem holds_messageObject {m : Message} (hnames : (m.fields.map (·.jsonName)).Nodup)
    {properties : List (String × Schema)}
    (h : List.Forall₂ (PropertyForm p) m.fields properties) {members : List (String × Json)}
    (hrefs : RightBelow δ p refs ((Target.message m).links p) (sizeOf (Json.object members))) :
    (Schema.HoldsNamed δ refs properties members ∧
      ∀ x ∈ members, x.1 ∉ properties.map (·.1) →
        Schema.HoldsOption δ refs (some .never) x.2) ↔
      ∀ x ∈ members, ∃ f ∈ m.fields, f.jsonName = x.1 ∧
        FieldConforms δ p f.type f.constraints.inForce x.2 := by
  -- The value of a member is smaller than the object, so references inside it are read rightly.
  have hfield : ∀ f ∈ m.fields, ∀ {s}, FieldForm p f.constraints.inForce f.type s
      (fieldLinks p f) → ∀ {key w}, (key, w) ∈ members →
        (s.Holds δ refs w ↔ FieldConforms δ p f.type f.constraints.inForce w) := by
    intro f hf s hs key w hw
    refine hs.holds (hrefs.mono (fun t ht => ?_) (Nat.succ_le_of_lt (sizeOf_member_lt hw)))
    exact List.mem_flatMap.2 ⟨f, hf, ht⟩
  rw [Schema.holdsNamed_iff]
  constructor
  · rintro ⟨hnamed, hothers⟩ x hx
    -- A member with another name would have to satisfy the schema that nothing satisfies.
    have hkey : x.1 ∈ properties.map (·.1) := by
      by_contra hkey
      exact hothers x hx hkey
    obtain ⟨y, hy, he⟩ := List.mem_map.1 hkey
    obtain ⟨f, hf, s, hs⟩ := forall₂_exists_left h hy
    dsimp only at he
    have hx' : (f.jsonName, x.2) ∈ members := by rwa [he]
    exact ⟨f, hf, he, (hfield f hf hs hx').1 (hnamed _ hy x.2 hx')⟩
  · intro hmembers
    refine ⟨fun y hy w hw => ?_, fun x hx hkey => ?_⟩
    · obtain ⟨f, hf, s, hs⟩ := forall₂_exists_left h hy
      obtain ⟨f', hf', he, hconforms⟩ := hmembers _ hw
      cases List.inj_on_of_nodup_map hnames hf' hf he
      exact (hfield f hf hs hw).2 hconforms
    · obtain ⟨f, hf, he, -⟩ := hmembers x hx
      obtain ⟨y, hy, s, hs⟩ := forall₂_exists_right h hf
      exact absurd (List.mem_map.2 ⟨_, hy, he⟩) hkey

theorem holds_messageUnder {m : Message} (hnames : (m.fields.map (·.jsonName)).Nodup)
    {properties : List (String × Schema)}
    (h : List.Forall₂ (PropertyForm p) m.fields properties) {v : Json}
    (hrefs : RightBelow δ p refs ((Target.message m).links p) (sizeOf v)) :
    (messageUnder m properties).Holds δ refs v ↔ MessageConforms δ p m v := by
  unfold messageUnder
  rw [Schema.holds_conjunction, List.forall_mem_cons, Schema.Holds]
  constructor
  · rintro ⟨⟨members, rfl, hnamed, hothers, -, hrequired, -⟩, honeofs⟩
    rw [MessageConforms]
    refine ⟨(holds_messageObject hnames h hrefs).1 ⟨hnamed, hothers⟩, fun f hf hr => ?_,
      (holds_oneofChoices hnames).1 honeofs⟩
    exact hrequired f.jsonName (List.mem_map_of_mem (List.mem_filter.2 ⟨hf, isRequired_iff.2 hr⟩))
  · intro hv
    cases v with
    | object members =>
      rw [MessageConforms] at hv
      obtain ⟨hmembers, hrequired, honeofs⟩ := hv
      obtain ⟨hnamed, hothers⟩ := (holds_messageObject hnames h hrefs).2 hmembers
      refine ⟨⟨members, rfl, hnamed, hothers, fun _ _ => trivial, fun key hkey => ?_, by simp,
        by simp⟩, (holds_oneofChoices hnames).2 honeofs⟩
      obtain ⟨f, hf, rfl⟩ := List.mem_map.1 hkey
      exact hrequired f (List.mem_filter.1 hf).1 (isRequired_iff.1 (List.mem_filter.1 hf).2)
    | null | bool | number | string | array =>
      rw [MessageConforms] at hv
      · exact hv.elim
      all_goals simp

theorem holds_shared {t : SharedType} {s : Schema} (h : t.schema.result = .ok s) {v : Json}
    (hrefs : RightBelow δ p refs ((Target.shared t).links p) (sizeOf v)) :
    s.Holds δ refs v ↔ SharedConforms δ t v := by
  cases t with
  | any =>
    cases h
    simp [Schema.Holds, Schema.HoldsNamed, Schema.HoldsOption, SharedConforms,
      StringKeywords.admits_iff]
  | empty =>
    cases h
    simp only [Schema.Holds, Schema.HoldsNamed, Schema.HoldsOption, SharedConforms,
      List.map_nil, List.not_mem_nil, not_false_eq_true, forall_const, implies_true, true_and,
      and_true, false_implies, Option.mem_def, reduceCtorEq]
    constructor
    · rintro ⟨members, rfl, hnone⟩
      rw [List.eq_nil_iff_forall_not_mem.2 fun x hx => hnone x hx]
    · rintro rfl
      exact ⟨[], rfl, fun x hx => by cases hx⟩
  | value =>
    cases h
    simp [Schema.Holds, SharedConforms]
  | listValue =>
    cases h
    simp only [Schema.Holds, Schema.HoldsOption, SharedConforms, Option.mem_def, reduceCtorEq,
      false_implies, implies_true, Bool.false_eq_true, and_true]
    refine exists_congr fun items => and_iff_left_of_imp ?_
    rintro rfl w hw
    exact (hrefs _ (List.mem_singleton_self _) w (sizeOf_item_lt hw)).2 trivial
  | struct =>
    cases h
    simp only [Schema.Holds, Schema.HoldsNamed, Schema.HoldsOption, SharedConforms,
      List.map_nil, List.not_mem_nil, not_false_eq_true, forall_const, implies_true, true_and,
      and_true, false_implies, Option.mem_def, reduceCtorEq]
    refine exists_congr fun members => and_iff_left_of_imp ?_
    rintro rfl x hx
    exact (hrefs _ (List.mem_singleton_self _) x.2 (sizeOf_member_lt hx)).2 trivial

/-- The schema of a type accepts what conforms to the type, where references are read rightly for
all smaller values. -/
theorem TargetForm.holds (hp : p.Sound) {t : Target} (ht : t.Known p) {s : Schema}
    (h : TargetForm p t s) {v : Json} (hrefs : RightBelow δ p refs (t.links p) (sizeOf v)) :
    s.Holds δ refs v ↔ TargetConforms δ p t v := by
  cases h with
  | message m properties h => exact holds_messageUnder (hp.jsonNames_nodup m ht) h hrefs
  | enum e => exact holds_enumSchema
  | shared t s h => exact holds_shared h hrefs

end Generation

end ProtoSchema
