import ProtoSchema.Proofs.Generation.Conformance

/-!
# The meaning of leaves

The schemas of scalars, of enums under rules and of well-known types accept the values that conform,
whatever references mean.
-/

namespace ProtoSchema

namespace Generation

variable {δ : Dialect} {refs : Reference → Json → Prop}

/-! ## 1. Strings -/

/-- Keywords for patterns and operands for patterns together demand every pattern. -/
theorem holds_patterns {patterns : List Pattern.Ecma} {r : StringRules} {text : String} :
    ((∀ p ∈ (stringKeywords r patterns).pattern, δ.Matches p text) ∧
      ∀ s ∈ patternOperands patterns, s.Holds δ refs (.string text)) ↔
      ∀ q ∈ patterns, δ.Matches q.text text := by
  rcases patterns with _ | ⟨q, _ | ⟨q', rest⟩⟩
  · simp [stringKeywords, patternOperands]
  · simp [stringKeywords, patternOperands]
  · simp [stringKeywords, patternOperands]

/-- The patterns of a string are those of the rules that have one. -/
theorem forall_stringPatterns {r : StringRules} {given : List Pattern.Ecma}
    (h : Counterparts r.pattern given) {P : Pattern.Ecma → Prop} :
    (∀ q ∈ stringPatterns r given, P q) ↔
      (∀ s ∈ r.contains, P (patternOf s.toList)) ∧
        (∀ p ∈ r.pattern, ∀ q, Pattern.convert p = .ok q → P q) ∧
          ∀ q ∈ edges? r.startsWith r.endsWith, P q := by
  -- Each given pattern is the conversion of the pattern of the rules, if they have one.
  have hmem : ∀ q, q ∈ given ↔ ∃ p ∈ r.pattern.toList, Pattern.convert p = .ok q :=
    fun _ => mem_iff_of_forall₂ Except.rightUnique_ok h
  have hgiven : (∀ q ∈ given, P q) ↔ ∀ p ∈ r.pattern, ∀ q, Pattern.convert p = .ok q → P q := by
    simp only [hmem, Option.mem_toList, forall_exists_index, and_imp]
    exact ⟨fun h p hp q hq => h q p hp hq, fun h q p hp hq => h p hp q hq⟩
  unfold stringPatterns
  simp only [List.forall_mem_append, Option.mem_toList, hgiven, Option.mem_def,
    Option.map_eq_some_iff, forall_exists_index, and_imp, forall_apply_eq_imp_iff₂, and_assoc]

theorem holds_stringOperands {r : StringRules} {text : String} :
    (∀ s ∈ stringOperands r, s.Holds δ refs (.string text)) ↔
      (∀ s ∈ r.excludes, ¬ δ.Matches (patternOf s.toList).text text) ∧ text ∉ r.deny ∧
        ∀ shape ∈ r.wellKnown, formatsOf shape ≠ [] →
          ∃ f ∈ formatsOf shape, δ.HasFormat f text := by
  unfold stringOperands
  rw [List.forall_mem_append, List.forall_mem_append, and_assoc]
  refine and_congr ?_ (and_congr ?_ ?_)
  · cases r.excludes <;> simp [Schema.Holds]
  · cases r.deny <;> simp [Schema.Holds]
  · cases r.wellKnown with
    | none => simp
    | some shape =>
      cases hf : formatsOf shape with
      | nil => simp [hf]
      | cons f rest => simp [hf, Schema.holds_disjunction]

/-- A shape has one format or several. -/
theorem shape_iff {shape : StringShape} {P : StringFormat → Prop} :
    (∃ f ∈ (formatOf? shape).toList ++ formatsOf shape, P f) ↔
      (∀ f ∈ formatOf? shape, P f) ∧ (formatsOf shape ≠ [] → ∃ f ∈ formatsOf shape, P f) := by
  cases shape <;> simp [formatOf?, formatsOf]

theorem holds_stringUnder {r : StringRules} {given : List Pattern.Ecma}
    (h : Counterparts r.pattern given) {v : Json} :
    (stringUnder r given).Holds δ refs v ↔ ∃ text, v = .string text ∧ r.Admits δ text := by
  unfold stringUnder
  rw [Schema.holds_conjunction, List.forall_mem_cons, List.forall_mem_append, Schema.Holds]
  constructor
  · rintro ⟨⟨text, rfl, hkeywords⟩, hoperands, hpatterns⟩
    refine ⟨text, rfl, ?_⟩
    obtain ⟨hexcludes, hdeny, hshapes⟩ := holds_stringOperands.1 hoperands
    obtain ⟨hcontains, hpattern, hedges⟩ :=
      (forall_stringPatterns h).1 (holds_patterns.1 ⟨hkeywords.pattern, hpatterns⟩)
    exact {
      equals := hkeywords.equals
      allow := hkeywords.enumeration
      deny := hdeny
      minLength := hkeywords.minLength
      maxLength := hkeywords.maxLength
      contains := hcontains
      excludes := hexcludes
      pattern := hpattern
      edges := hedges
      shape := fun shape hshape => shape_iff.2
        ⟨fun f hf => hkeywords.format f (Option.mem_bind_iff.2 ⟨shape, hshape, hf⟩),
          hshapes shape hshape⟩ }
  · rintro ⟨text, rfl, hr⟩
    have hall := (forall_stringPatterns h).2 ⟨hr.contains, hr.pattern, hr.edges⟩
    obtain ⟨hpattern, hpatterns⟩ : (∀ p ∈ (stringKeywords r (stringPatterns r given)).pattern,
        δ.Matches p text) ∧ ∀ s ∈ patternOperands (stringPatterns r given),
          s.Holds δ refs (.string text) := holds_patterns.2 hall
    refine ⟨⟨text, rfl, ?_⟩, holds_stringOperands.2 ⟨hr.excludes, hr.deny,
      fun shape hshape => (shape_iff.1 (hr.shape shape hshape)).2⟩, hpatterns⟩
    refine ⟨hr.equals, hr.allow, hpattern, fun f hf => ?_, hr.minLength, hr.maxLength⟩
    obtain ⟨shape, hshape, hf⟩ := Option.mem_bind_iff.1 hf
    exact (shape_iff.1 (hr.shape shape hshape)).1 f hf

theorem holds_bytesSchema {v : Json} :
    bytesSchema.Holds δ refs v ↔
      ∃ text, v = .string text ∧ (δ.Matches standardBase64 text ∨ δ.Matches urlSafeBase64 text) := by
  unfold bytesSchema
  rw [Schema.holds_disjunction]
  simp only [List.mem_cons, List.not_mem_nil, or_false, exists_eq_or_imp, exists_eq_left,
    Schema.Holds, StringKeywords.admits_iff]
  simp only [Option.mem_def, reduceCtorEq, false_implies, implies_true, true_and,
    Option.some.injEq, forall_eq', and_true]
  rw [← exists_or]
  simp only [and_or_left]

/-! ## 2. Numbers -/

theorem holds_inDomain {domain : NumberDomain} {s : NumberKeywords} {v : Json} :
    (inDomain domain s).Holds δ refs v ↔
      ∃ n, v = .number n ∧ (domain ≠ .real → n.Integral) ∧ s.Admits n := by
  unfold inDomain
  split
  next h => simp [Schema.Holds, h]
  next h => simp [Schema.Holds, h]

/-- The keywords of numbers, with what the rules leave out, are the rules. -/
theorem numberKeywords_admits {domain : NumberDomain} {r : NumberRules} {n : Number} :
    ((domain ≠ .real → n.Integral) ∧ (numberKeywords domain r).Admits n) ∧
      (∀ x ∈ r.deny, ¬ n.Same x) ↔ r.Admits domain n := by
  -- The lower bound is the one keyword that two sources share: the rules, and zero for naturals.
  have hminimum : (∀ x ∈ (numberKeywords domain r).minimum, x.AtMost n) ↔
      (domain = .natural → r.gte = none → Number.zero.AtMost n) ∧ ∀ x ∈ r.gte, x.AtMost n := by
    unfold numberKeywords
    cases r.gte with
    | some x => simp
    | none => by_cases hd : domain = .natural <;> simp [hd]
  rw [NumberKeywords.admits_iff, NumericRules.admits_iff, hminimum]
  unfold numberKeywords
  tauto

/-- Two schemas of which at most one can accept a value. -/
theorem holds_choice_pair {s t : Schema} {v : Json}
    (h : ¬ (s.Holds δ refs v ∧ t.Holds δ refs v)) :
    (Schema.choice [s, t]).Holds δ refs v ↔ s.Holds δ refs v ∨ t.Holds δ refs v := by
  rw [Schema.holds_choice]
  simp only [List.map_cons, List.map_nil, ExactlyOne, List.mem_singleton, forall_eq,
    List.not_mem_nil, false_implies, implies_true, and_true, and_false, or_false]
  tauto

/-- A number in its own form or as a decimal string. -/
theorem holds_spelled {kind : NumericKind} {s : NumberKeywords} {v : Json} :
    (match kind.decimalPattern? with
      | some pattern => Schema.choice [inDomain kind.domain s, .ofPattern pattern]
      | none => inDomain kind.domain s).Holds δ refs v ↔
      (∃ n, v = .number n ∧ (kind.domain ≠ .real → n.Integral) ∧ s.Admits n) ∨
        ∃ pattern ∈ kind.decimalPattern?, ∃ text, v = .string text ∧ δ.Matches pattern text := by
  cases kind.decimalPattern? with
  | none => simp [holds_inDomain]
  | some pattern =>
    dsimp only
    rw [holds_choice_pair, holds_inDomain, Schema.holds_ofPattern]
    · simp
    · rw [holds_inDomain, Schema.holds_ofPattern]
      rintro ⟨⟨n, rfl, -⟩, text, htext, -⟩
      cases htext

/-- The numbers that are left out. -/
theorem holds_denied {deny : List Number} {v : Json} :
    (∀ s ∈ (if deny.isEmpty then [] else [Schema.not (.number { enumeration := deny })]),
      s.Holds δ refs v) ↔ ∀ n, v = .number n → ∀ x ∈ deny, ¬ n.Same x := by
  cases deny with
  | nil => simp
  | cons x rest =>
    simp only [List.isEmpty_cons, Bool.false_eq_true, if_false, List.mem_singleton, forall_eq,
      Schema.Holds, NumberKeywords.admits_iff, Option.mem_def, reduceCtorEq, false_implies,
      implies_true, true_and, and_true, false_or, not_exists, not_and]

theorem holds_numericSchema {kind : NumericKind} {r : NumberRules} {v : Json} :
    (numericSchema kind r).Holds δ refs v ↔ NumericConforms δ kind r v := by
  unfold numericSchema NumericConforms
  rw [Schema.holds_conjunction, List.forall_mem_cons]
  refine (and_congr holds_spelled holds_denied).trans ?_
  constructor
  · rintro ⟨⟨n, rfl, hn⟩ | hspelled, hdenied⟩
    · exact .inl ⟨n, rfl, numberKeywords_admits.1 ⟨hn, hdenied n rfl⟩⟩
    · exact .inr hspelled
  · rintro (⟨n, rfl, hn⟩ | ⟨pattern, hpattern, text, rfl, hmatch⟩)
    · obtain ⟨hkeywords, hdenied⟩ := numberKeywords_admits.2 hn
      refine ⟨.inl ⟨n, rfl, hkeywords⟩, fun n' he => ?_⟩
      cases he
      exact hdenied
    · exact ⟨.inr ⟨pattern, hpattern, text, rfl, hmatch⟩, fun n he => by cases he⟩

/-! ## 3. Scalars -/

theorem ScalarForm.holds {kind : ScalarKind} {o : Option Rules} {s : Schema}
    (h : ScalarForm kind o s) {v : Json} : s.Holds δ refs v ↔ ScalarConforms δ kind o v := by
  cases h with
  | bool | boolRules => simp [Schema.Holds, ScalarConforms]
  | bytes | bytesRules => exact holds_bytesSchema
  | string => simp [Schema.Holds, ScalarConforms, StringKeywords.admits_iff]
  | stringRules r given hgiven => exact holds_stringUnder hgiven
  | numeric | numericRules => exact holds_numericSchema

theorem integral_of_same_zero {n : Number} (h : n.Same .zero) : n.Integral :=
  ⟨0, h⟩

theorem holds_defaultSchemas {kind : ScalarKind} {v : Json} :
    (∃ s ∈ defaultSchemas kind, s.Holds δ refs v) ↔ IsDefault kind v := by
  cases kind with
  | bool => simp [defaultSchemas, IsDefault, Schema.Holds]
  | string => simp [defaultSchemas, IsDefault]
  | bytes => simp [defaultSchemas, IsDefault]
  | numeric kind =>
    have hzero : (inDomain kind.domain { equals := some .zero }).Holds δ refs v ↔
        ∃ n, v = .number n ∧ n.Same .zero := by
      rw [holds_inDomain]
      simp only [NumberKeywords.admits_iff, Option.mem_def, Option.some.injEq, forall_eq',
        reduceCtorEq, false_implies, implies_true, true_or, and_true]
      refine exists_congr fun n => and_congr_right fun _ => and_iff_right_of_imp fun hn _ => ?_
      exact integral_of_same_zero hn
    unfold defaultSchemas IsDefault
    cases kind.decimalPattern? <;> simp [hzero]

theorem ScalarUse.holds {kind : ScalarKind} {c : FieldConstraints} {s : Schema}
    (h : ScalarUse kind c s) {v : Json} : s.Holds δ refs v ↔ ScalarUseConforms δ kind c v := by
  obtain ⟨o, hrules, s, hs⟩ := h
  have huse : ScalarUseConforms δ kind c v ↔
      ScalarConforms δ kind o v ∨ (c.skipsDefault = true ∧ o.isSome ∧ IsDefault kind v) := by
    constructor
    · rintro ⟨o', ho', h⟩
      cases hrules.symm.trans ho'
      exact h
    · exact fun h => ⟨o, hrules, h⟩
  have hstrict : s.Holds δ refs v ↔ ScalarConforms δ kind o v := hs.holds
  rw [huse, ← hstrict]
  unfold withDefaults
  split
  next hskip =>
    simp only [Bool.and_eq_true] at hskip
    rw [Schema.holds_disjunction]
    simp only [List.mem_append, List.mem_singleton, or_and_right, exists_or, exists_eq_left]
    rw [holds_defaultSchemas, or_comm, and_iff_right hskip.1.1, and_iff_right hskip.1.2]
  next hskip =>
    refine ⟨.inl, fun h => h.resolve_right ?_⟩
    rintro ⟨hskips, ho, hdefault⟩
    refine hskip ?_
    obtain ⟨d, hd, -⟩ : ∃ d ∈ defaultSchemas kind, d.Holds δ refs v :=
      holds_defaultSchemas.2 hdefault
    rw [hskips, ho, Bool.true_and, Bool.true_and, Bool.not_eq_true', List.isEmpty_eq_false_iff]
    exact List.ne_nil_of_mem hd

/-! ## 4. Enums -/

theorem NamesForm.every_iff {e : EnumType} {r : EnumRules} (h : NamesForm e r none)
    {name : String} : r.Permits e name ↔ e.Declares name := by
  cases h with
  | every he hallow hdeny => simp [EnumRules.Permits, he, hallow, hdeny]

theorem NamesForm.holds {e : EnumType} {r : EnumRules} {s : Schema}
    (h : NamesForm e r (some s)) {v : Json} :
    s.Holds δ refs v ↔ ∃ text, v = .string text ∧ r.Permits e text := by
  cases h with
  | equals number name he hname => simp [EnumRules.Permits, he, hname]
  | allow names he hallow hnames =>
    -- An enumeration without entries would take everything, but some name was picked.
    have hmem : ∀ text, (names = [] ∨ text ∈ names) ↔
        ∃ number ∈ r.allow, e.firstName? number = some text := by
      intro text
      rw [or_iff_right (fun hnil => hallow (by simpa [hnil] using hnames))]
      refine mem_iff_of_forall₂ ?_ hnames
      intro number name name' hn hn'
      exact Option.some.inj (hn.symm.trans hn')
    simp [EnumRules.Permits, he, hallow, hmem]
  | deny he hallow hdeny names hnames =>
    have hmem : ∀ text, text ∈ names ↔ ∃ x ∈ e.values, x.number ∉ r.deny ∧ x.name = text := by
      intro text
      simp [hnames, and_assoc]
    simp only [EnumRules.Permits, he, hallow, hdeny, ne_eq, not_true_eq_false, if_false,
      not_false_eq_true, if_true, ← hmem]
    cases names with
    | nil => simp [Schema.Holds]
    | cons name rest => simp

theorem holds_enumSchema {e : EnumType} {v : Json} :
    (EnumType.schema e).Holds δ refs v ↔ ∃ text, v = .string text ∧ e.Declares text := by
  simp [EnumType.schema, EnumType.Declares]

/-! ## 5. Well-known types -/

theorem holds_typeAmong {types : List String} (h : types ≠ [])
    {members : List (String × Json)} :
    (typeAmong types).Holds δ refs (.object members) ↔ NamesTypeAmong types members := by
  unfold typeAmong NamesTypeAmong
  simp only [Schema.Holds, Json.object.injEq, exists_eq_left', Schema.HoldsNamed,
    Schema.holds_ofNames, h, false_or, Schema.HoldsOption, implies_true, and_true, List.not_mem_nil,
    false_implies, Option.mem_def, reduceCtorEq]
  simp only [and_comm]

theorem holds_anyRules {r : AnyRules} {members : List (String × Json)} :
    (∀ s ∈ (if r.allow.isEmpty then [] else [typeAmong r.allow]) ++
        (if r.deny.isEmpty then [] else [.not (typeAmong r.deny)]),
      Schema.Holds δ refs s (.object members)) ↔
      (r.allow = [] ∨ NamesTypeAmong r.allow members) ∧
        (r.deny = [] ∨ ¬ NamesTypeAmong r.deny members) := by
  rw [List.forall_mem_append]
  refine and_congr ?_ ?_
  · by_cases h : r.allow = []
    · simp [h]
    · simp [h, holds_typeAmong h]
  · by_cases h : r.deny = []
    · simp [h]
    · simp [h, Schema.Holds, holds_typeAmong h]

/-- A constant is the text of the value that it was made of, if there is one. -/
theorem forall_told {ε α : Type} {f : α → Except ε String} {o : Option α} {told : Option String}
    (h : Option.Rel (fun x s => f x = .ok s) o told) {text : String} :
    (∀ s ∈ told, text = s) ↔ ∀ x ∈ o, f x = .ok text := by
  cases h with
  | none => simp
  | some h => simp [h, eq_comm]

theorem holds_durationTexts {r : DurationRules} {equals : Option String} {allow deny : List String}
    (hequals : Option.Rel (fun d s => Duration.text d = .ok s) r.equals equals)
    (hallow : List.Forall₂ (fun d s => Duration.text d = .ok s) r.allow allow)
    (hdeny : List.Forall₂ (fun d s => Duration.text d = .ok s) r.deny deny) {v : Json} :
    (durationTexts equals allow deny).Holds δ refs v ↔ DurationConforms δ r v := by
  have hallowed : ∀ text, text ∈ allow ↔ ∃ d ∈ r.allow, d.text = .ok text :=
    fun _ => mem_iff_of_forall₂ Except.rightUnique_ok hallow
  -- An empty enumeration stands for no restriction, and so does an empty list of the rules.
  have hnil : allow = [] ↔ r.allow = [] := by
    rw [← List.length_eq_zero_iff, ← hallow.length_eq, List.length_eq_zero_iff]
  have hdenied : ∀ text, (∀ s ∈ (if deny.isEmpty then [] else [Schema.not (.ofNames deny)]),
      s.Holds δ refs (.string text)) ↔ ∀ d ∈ r.deny, d.text ≠ .ok text := by
    intro text
    have hout : (∀ d ∈ r.deny, d.text ≠ .ok text) ↔ text ∉ deny := by
      rw [mem_iff_of_forall₂ Except.rightUnique_ok hdeny]
      simp
    rw [hout]
    cases deny <;> simp [Schema.Holds]
  unfold durationTexts DurationConforms
  rw [Schema.holds_conjunction, List.forall_mem_cons]
  simp only [Schema.Holds, StringKeywords.admits_iff, forall_told hequals, hnil, hallowed]
  constructor
  · rintro ⟨⟨text, rfl, hc, ha, hp, -⟩, hd⟩
    exact ⟨text, rfl, hp _ rfl, hc, ha, (hdenied text).1 hd⟩
  · rintro ⟨text, rfl, hp, hc, ha, hd⟩
    exact ⟨⟨text, rfl, hc, ha, by simpa using hp, by simp, by simp, by simp⟩, (hdenied text).2 hd⟩

theorem holds_timestampTexts {r : TimestampRules} {equals : Option String}
    (hequals : Option.Rel (fun t s => Timestamp.text t = .ok s) r.equals equals) {v : Json} :
    (timestampTexts equals).Holds δ refs v ↔ TimestampConforms δ r v := by
  unfold timestampTexts TimestampConforms
  simp only [Schema.Holds, StringKeywords.admits_iff, forall_told hequals]
  simp [and_comm]

end Generation

end ProtoSchema
