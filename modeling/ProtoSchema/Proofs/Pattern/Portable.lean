import ProtoSchema.Proofs.Pattern.Grammatical
import ProtoSchema.Proofs.Unicode.Planes

/-!
# Portable patterns

The patterns that mean the same in both dialects: they set no flag but those that the conversion
works out or that only concern blanks, use no class that the dialects define differently, and stay
in the basic plane.  Such a pattern is always converted, and what it is converted to is written in
code units.
-/

namespace ProtoSchema.Pattern

open Grammar Unicode

/-! ## 1. The fragment -/

/-- A flag for dots, greed or blanks, or the minus sign. -/
def FlagItem.isPortable : FlagItem → Bool
  | minus => true
  | flag .dotMatchesNewline | flag .swapGreed | flag .ignoreBlank => true
  | _ => false

def GroupKind.isPortable : GroupKind → Bool
  | capturing => true
  | flags items => items.all FlagItem.isPortable

/-- An assertion about the start or the end. -/
def Assertion.isAnchor : Assertion → Bool
  | startLine | endLine | startText | endText => true
  | _ => false

mutual

/-- Whether a class has no part with a name but those in ASCII, and all its characters are in the
basic plane. -/
def ClassBody.IsPortable : ClassBody → Prop
  | .empty _ | .ascii .. => True
  | .literal l => l.char.toNat ≤ 0xFFFF
  | .range _ lo hi => lo.char.toNat ≤ 0xFFFF ∧ hi.char.toNat ≤ 0xFFFF
  | .property _ | .shorthand _ => False
  | .nested _ _ body => body.IsPortable
  | .union _ members => ClassBody.AllPortable members
  | .operation _ _ left right => left.IsPortable ∧ right.IsPortable

def ClassBody.AllPortable : List ClassBody → Prop
  | [] => True
  | b :: rest => b.IsPortable ∧ ClassBody.AllPortable rest

end

mutual

/-- Whether a pattern is portable under the flags that hold where it starts. -/
def Regex.IsPortable (f : Flags) : Regex → Prop
  | .empty _ => True
  | .flags _ items => items.all FlagItem.isPortable = true
  | .literal l => l.char.toNat ≤ 0xFFFF
  | .dot _ => f.dotMatchesNewline = true
  | .assertion _ a => a.isAnchor = true
  | .property _ | .shorthand _ => False
  | .bracket _ _ body => body.IsPortable
  | .repetition _ _ _ body => body.isAssertion = false ∧ body.IsPortable f
  | .group _ kind body => kind.isPortable = true ∧ body.IsPortable (kind.inside f)
  | .alternation _ rs | .concat _ rs => Regex.AllPortable f rs

def Regex.AllPortable (f : Flags) : List Regex → Prop
  | [] => True
  | r :: rest => r.IsPortable f ∧ Regex.AllPortable (r.flagsAfter f) rest

end

mutual

/-- Whether all classes in brackets have a property of their sign and their body. -/
def Regex.AllBrackets (P : Bool → ClassBody → Prop) : Regex → Prop
  | .bracket _ negated body => P negated body
  | .repetition _ _ _ body | .group _ _ body => body.AllBrackets P
  | .alternation _ rs | .concat _ rs => Regex.AllBracketsIn P rs
  | _ => True

def Regex.AllBracketsIn (P : Bool → ClassBody → Prop) : List Regex → Prop
  | [] => True
  | r :: rest => r.AllBrackets P ∧ Regex.AllBracketsIn P rest

end

theorem ClassBody.allPortable_iff {members : List ClassBody} :
    ClassBody.AllPortable members ↔ ∀ b ∈ members, b.IsPortable := by
  induction members with
  | nil => exact ⟨fun _ => List.forall_mem_nil _, fun _ => trivial⟩
  | cons b rest ih => rw [ClassBody.AllPortable, List.forall_mem_cons, ih]

theorem Regex.allPortable_iff {f : Flags} {rs : List Regex} :
    Regex.AllPortable f rs ↔ ∀ p ∈ Regex.placed f rs, p.2.IsPortable p.1 := by
  induction rs generalizing f with
  | nil => exact ⟨fun _ => List.forall_mem_nil _, fun _ => trivial⟩
  | cons r rest ih => rw [Regex.AllPortable, Regex.placed, List.forall_mem_cons, ih]

theorem Regex.allBracketsIn_iff {P : Bool → ClassBody → Prop} {rs : List Regex} :
    Regex.AllBracketsIn P rs ↔ ∀ r ∈ rs, r.AllBrackets P := by
  induction rs with
  | nil => exact ⟨fun _ => List.forall_mem_nil _, fun _ => trivial⟩
  | cons r rest ih => rw [Regex.AllBracketsIn, List.forall_mem_cons, ih]

/-! ## 2. Flags -/

theorem flagSetting_ignoreCase {items : List FlagItem}
    (h : items.all FlagItem.isPortable = true) : flagSetting .ignoreCase items = none := by
  have go : ∀ (items : List FlagItem) (on : Bool), items.all FlagItem.isPortable = true →
      flagSetting.go .ignoreCase on none items = none := by
    intro items
    induction items with
    | nil => exact fun _ _ => rfl
    | cons item rest ih =>
      intro on h
      rw [List.all_cons, Bool.and_eq_true] at h
      cases item with
      | minus => exact ih false h.2
      | flag g =>
        cases g with
        | dotMatchesNewline | swapGreed | ignoreBlank => exact ih on h.2
        | ignoreCase | multiLine | unicode | crlf => exact absurd h.1 (by decide)
  exact go items true h

theorem Flags.apply_ignoreCase {f : Flags} {items : List FlagItem}
    (h : items.all FlagItem.isPortable = true) : (f.apply items).ignoreCase = f.ignoreCase := by
  rw [Flags.apply, flagSetting_ignoreCase h]
  rfl

theorem GroupKind.inside_ignoreCase {f : Flags} {kind : GroupKind} (h : kind.isPortable = true) :
    (kind.inside f).ignoreCase = f.ignoreCase := by
  cases kind with
  | capturing => rfl
  | flags items => exact Flags.apply_ignoreCase h

/-- Case stays significant along a row, if it does along each of its parts. -/
theorem placed_ignoreCase {f : Flags} {rs : List Regex} (hf : f.ignoreCase = false)
    (hp : Regex.AllPortable f rs)
    (h : ∀ r ∈ rs, ∀ f : Flags, f.ignoreCase = false → r.IsPortable f →
      (r.flagsAfter f).ignoreCase = false) :
    (∀ p ∈ Regex.placed f rs, p.1.ignoreCase = false) ∧
      (Regex.flagsAfterAll f rs).ignoreCase = false := by
  induction rs generalizing f with
  | nil => exact ⟨List.forall_mem_nil _, hf⟩
  | cons r rest ih =>
    -- The flags after a part are those before the next one.
    obtain ⟨hr, hrest⟩ := hp
    have hafter := h r List.mem_cons_self f hf hr
    obtain ⟨hplaced, hall⟩ := ih hafter hrest fun s hs => h s (List.mem_cons_of_mem _ hs)
    exact ⟨List.forall_mem_cons.2 ⟨hf, hplaced⟩, hall⟩

/-- A portable pattern leaves case significant. -/
theorem Regex.WellFormed.flagsAfter_ignoreCase {r : Regex} (hw : r.WellFormed) {f : Flags}
    (hf : f.ignoreCase = false) (hp : r.IsPortable f) : (r.flagsAfter f).ignoreCase = false := by
  induction hw generalizing f with
  | empty | literal | dot | assertion | bracket | group => exact hf
  | property | shorthand => exact hp.elim
  | flags span items => exact (Flags.apply_ignoreCase hp).trans hf
  | repetition _ _ _ ih => exact ih hf hp.2
  | alternation _ _ _ ih => exact (placed_ignoreCase hf hp fun r hr f hf hp => ih r hr hf hp).2
  | concat _ ih => exact (placed_ignoreCase hf hp fun r hr f hf hp => ih r hr hf hp).2

theorem placed_ignoreCase_of_portable {f : Flags} {rs : List Regex} (hw : ∀ r ∈ rs, r.WellFormed)
    (hf : f.ignoreCase = false) (hp : Regex.AllPortable f rs) :
    ∀ p ∈ Regex.placed f rs, p.1.ignoreCase = false :=
  (placed_ignoreCase hf hp fun r hr _ hf hp => (hw r hr).flagsAfter_ignoreCase hf hp).1

/-! ## 3. Conversion -/

/-- A portable pattern is always converted. -/
theorem Regex.WellFormed.toEcma_of_portable {r : Regex} (hw : r.WellFormed) {f : Flags}
    (hp : r.IsPortable f) : ∃ e, r.toEcma f = .ok e := by
  induction hw generalizing f with
  | empty | flags | literal | dot | bracket => exact ⟨_, rfl⟩
  | property | shorthand => exact hp.elim
  | assertion span a =>
    cases a with
    | startLine | endLine | startText | endText => exact ⟨_, rfl⟩
    | _ => cases hp
  | repetition _ _ _ ih =>
    obtain ⟨e, he⟩ := ih hp.2
    exact ⟨_, Except.bind_eq_ok.2 ⟨e, he, rfl⟩⟩
  | group _ ih =>
    obtain ⟨e, he⟩ := ih hp.2
    exact ⟨_, Except.bind_eq_ok.2 ⟨e, he, rfl⟩⟩
  | alternation _ _ _ ih =>
    have hall := Regex.allPortable_iff.1 hp
    obtain ⟨es, hes⟩ := exists_forall₂ fun p hmem =>
      ih p.2 (Regex.mem_of_placed hmem) (hall p hmem)
    exact ⟨_, Except.bind_eq_ok.2 ⟨es, Regex.branchesToEcma_eq_ok.2 hes, rfl⟩⟩
  | @concat span parts _ ih =>
    have hall := Regex.allPortable_iff.1 hp
    have hpart : ∀ p ∈ Regex.placed f parts, ∃ e, ∃ e', p.2.toEcma p.1 = .ok e' ∧
        grouped p.2.isAlternation e' = e := by
      intro p hmem
      obtain ⟨e', he'⟩ := ih p.2 (Regex.mem_of_placed hmem) (hall p hmem)
      exact ⟨_, e', he', rfl⟩
    obtain ⟨es, hes⟩ := exists_forall₂ hpart
    exact ⟨_, Except.bind_eq_ok.2 ⟨es, Regex.partsToEcma_eq_ok.2 hes, rfl⟩⟩

theorem anyRepeatsAssertion_eq_false {rs : List Regex} (h : ∀ r ∈ rs, r.repeatsAssertion = false) :
    Regex.anyRepeatsAssertion rs = false := by
  induction rs with
  | nil => rfl
  | cons r rest ih =>
    obtain ⟨hr, hrest⟩ := List.forall_mem_cons.1 h
    rw [Regex.anyRepeatsAssertion, hr, ih hrest]
    rfl

/-- Where each part of a row is portable, what follows from that holds of each part. -/
theorem Regex.AllPortable.forall {f : Flags} {rs : List Regex} (hp : Regex.AllPortable f rs)
    {P : Regex → Prop} (h : ∀ r ∈ rs, ∀ f, r.IsPortable f → P r) : ∀ r ∈ rs, P r := by
  induction rs generalizing f with
  | nil => exact List.forall_mem_nil _
  | cons r rest ih =>
    refine List.forall_mem_cons.2 ⟨h r List.mem_cons_self f hp.1, ?_⟩
    exact ih hp.2 fun s hs => h s (List.mem_cons_of_mem _ hs)

/-- A portable pattern repeats no assertion. -/
theorem Regex.WellFormed.repeatsAssertion_of_portable {r : Regex} (hw : r.WellFormed) {f : Flags}
    (hp : r.IsPortable f) : r.repeatsAssertion = false := by
  induction hw generalizing f with
  | empty | flags | literal | dot | assertion | property | shorthand | bracket => rfl
  | repetition _ _ _ ih =>
    rw [Regex.repeatsAssertion, hp.1, ih hp.2]
    rfl
  | group _ ih => exact ih hp.2
  | alternation _ _ _ ih =>
    exact anyRepeatsAssertion_eq_false (hp.forall fun r hr _ hp => ih r hr hp)
  | concat _ ih =>
    exact anyRepeatsAssertion_eq_false (hp.forall fun r hr _ hp => ih r hr hp)

/-! ## 4. Classes -/

theorem isValidChar_toNat (c : Char) : c.toNat.isValidChar := c.valid

theorem AsciiClass.codeSet_tidy (kind : AsciiClass) (k : Nat) : kind.codeSet.Tidy k := by
  have hrange : ∀ r ∈ kind.ranges.map fun p => charRange p.1 p.2, r.Proper ∧ r.Unsplit := by
    intro r hr
    obtain ⟨⟨lo, hi⟩, hmem, rfl⟩ := List.mem_map.1 hr
    obtain ⟨hle, hbasic⟩ := kind.ranges_ordered _ hmem
    exact ⟨⟨hle, isValidChar_toNat lo, isValidChar_toNat hi⟩, .inl hbasic⟩
  exact CodeSet.tidy_ofRanges (fun r hr => (hrange r hr).1) (fun r hr => (hrange r hr).2) k

theorem finishSet_false (negated : Bool) (s : CodeSet) :
    finishSet false negated s = if negated then s.compl else s := rfl

theorem finishSet_tidy {s : CodeSet} {k : Nat} (hk : 0xE000 ≤ k) (hk' : k ≤ 0xFFFF)
    (h : s.Tidy k) (negated : Bool) : (finishSet false negated s).Tidy (k + 1) := by
  rw [finishSet_false]
  split
  · exact h.compl hk hk'
  · exact h.mono (Nat.le_succ k)

theorem unionSet_tidy {members : List ClassBody} {k : Nat}
    (h : ∀ b ∈ members, (b.codeSet false).Tidy k) : (ClassBody.unionSet false members).Tidy k := by
  induction members with
  | nil => exact CodeSet.tidy_empty k
  | cons b rest ih =>
    obtain ⟨hb, hrest⟩ := List.forall_mem_cons.1 h
    exact hb.union (ih hrest) k

theorem descend_eq_ok {depth : Nat} {span : Span} (h : descend depth span = .ok ()) :
    depth + 1 ≤ maxDepth := by
  unfold descend at h
  split at h
  · cases h
  · omega

theorem checkDepths_eq_ok {depth : Nat} {members : List ClassBody}
    (h : ClassBody.checkDepths depth members = .ok ()) :
    ∀ b ∈ members, b.checkDepth depth = .ok () := by
  induction members with
  | nil => exact List.forall_mem_nil _
  | cons b rest ih =>
    obtain ⟨⟨⟩, hb, hrest⟩ := Except.bind_eq_ok.1 h
    exact List.forall_mem_cons.2 ⟨hb, ih hrest⟩

/-- A class that nests no deeper than a pattern may has a set in order: each level of
nesting may move the places where ranges touch by one. -/
theorem ClassBody.WellFormed.codeSet_tidy {body : ClassBody} (hw : body.WellFormed) {depth : Nat}
    (hd : depth ≤ maxDepth) (hc : body.checkDepth depth = .ok ()) (hp : body.IsPortable) :
    (body.codeSet false).Tidy (0xE001 + (maxDepth - depth)) := by
  have hmax : maxDepth = 250 := rfl
  induction hw generalizing depth with
  | empty span => exact CodeSet.tidy_empty _
  | literal l =>
    have hvalid := isValidChar_toNat l.char
    exact CodeSet.tidy_single _ ⟨le_rfl, hvalid, hvalid⟩ (.inl hp)
  | @range span lo hi hle =>
    exact CodeSet.tidy_single _ ⟨hle, isValidChar_toNat lo.char, isValidChar_toNat hi.char⟩
      (.inl hp.2)
  | ascii span negated kind =>
    have htidy := finishSet_tidy le_rfl (by decide) (kind.codeSet_tidy 0xE000) negated
    exact htidy.mono (by omega)
  | property | shorthand => exact hp.elim
  | @nested span negated body _ ih =>
    obtain ⟨⟨⟩, hdescend, hbody⟩ := Except.bind_eq_ok.1 hc
    -- One level down the bound is one lower, which leaves room for the step of a complement.
    have hlt := descend_eq_ok hdescend
    have htidy := finishSet_tidy (by omega) (by omega) (ih hlt hbody hp) negated
    exact htidy.mono (by omega)
  | union _ ih =>
    obtain ⟨⟨⟩, hdescend, hmembers⟩ := Except.bind_eq_ok.1 hc
    have hlt := descend_eq_ok hdescend
    refine unionSet_tidy fun b hb => ?_
    have htidy := ih b hb hlt (checkDepths_eq_ok hmembers b hb) (ClassBody.allPortable_iff.1 hp b hb)
    exact htidy.mono (by omega)
  | @operation span op left right _ _ ihl ihr =>
    obtain ⟨⟨⟩, hdescend, hc⟩ := Except.bind_eq_ok.1 hc
    obtain ⟨⟨⟩, hleft, hright⟩ := Except.bind_eq_ok.1 hc
    have hlt := descend_eq_ok hdescend
    have htl := (ihl hlt hleft hp.1).mono (show _ ≤ 0xE001 + (maxDepth - depth) by omega)
    have htr := (ihr hlt hright hp.2).mono (show _ ≤ 0xE001 + (maxDepth - depth) by omega)
    cases op with
    | intersection => exact htl.inter htr
    | difference => exact htl.diff htr
    | symmetricDifference => exact htl.symmDiff htr

theorem Regex.checkDepths_eq_ok {depth : Nat} {rs : List Regex}
    (h : Regex.checkDepths depth rs = .ok ()) : ∀ r ∈ rs, r.checkDepth depth = .ok () := by
  induction rs with
  | nil => exact List.forall_mem_nil _
  | cons r rest ih =>
    obtain ⟨⟨⟩, hr, hrest⟩ := Except.bind_eq_ok.1 h
    exact List.forall_mem_cons.2 ⟨hr, ih hrest⟩

/-- The classes of a portable pattern have sets in order. -/
theorem Regex.WellFormed.brackets_tidy {r : Regex} (hw : r.WellFormed) {f : Flags} {depth : Nat}
    (hc : r.checkDepth depth = .ok ()) (hp : r.IsPortable f) :
    r.AllBrackets fun _ body => (body.codeSet false).Tidy 0xFFFE := by
  have hmax : maxDepth = 250 := rfl
  induction hw generalizing f depth with
  | empty | flags | literal | dot | assertion | property | shorthand => exact trivial
  | bracket hb =>
    obtain ⟨⟨⟩, hdescend, hbody⟩ := Except.bind_eq_ok.1 hc
    exact (hb.codeSet_tidy (descend_eq_ok hdescend) hbody hp).mono (by omega)
  | repetition _ _ _ ih =>
    obtain ⟨⟨⟩, -, hbody⟩ := Except.bind_eq_ok.1 hc
    exact ih hbody hp.2
  | group _ ih =>
    obtain ⟨⟨⟩, -, hbody⟩ := Except.bind_eq_ok.1 hc
    exact ih hbody hp.2
  | alternation _ _ _ ih =>
    obtain ⟨⟨⟩, -, hrs⟩ := Except.bind_eq_ok.1 hc
    have hdepth := Regex.checkDepths_eq_ok hrs
    exact Regex.allBracketsIn_iff.2 fun r hr =>
      hp.forall (fun r hr _ hp => ih r hr (hdepth r hr) hp) r hr
  | concat _ ih =>
    obtain ⟨⟨⟩, -, hrs⟩ := Except.bind_eq_ok.1 hc
    have hdepth := Regex.checkDepths_eq_ok hrs
    exact Regex.allBracketsIn_iff.2 fun r hr =>
      hp.forall (fun r hr _ hp => ih r hr (hdepth r hr) hp) r hr

/-! ## 5. Code units -/

theorem caseForms_false (c : Char) : caseForms false c = [c] := rfl

/-- The members of a portable class are written in code units. -/
theorem ClassBody.WellFormed.members_units {body : ClassBody} (hw : body.WellFormed)
    (hp : body.IsPortable) {ms : List ClassMember} (h : body.members? false = some ms) :
    ∀ x ∈ ms, x.Fits .units := by
  induction hw generalizing ms with
  | empty span =>
    cases h
    exact List.forall_mem_nil _
  | literal l =>
    cases h
    intro x hx
    rw [caseForms_false, List.map_singleton, List.mem_singleton] at hx
    subst hx
    exact Mode.takes_of_le _ hp
  | range hle =>
    cases h
    intro x hx
    have hx : x = _ := List.mem_singleton.1 hx
    subst hx
    exact ⟨Mode.takes_of_le _ hp.1, Mode.takes_of_le _ hp.2, hle⟩
  | ascii span negated kind =>
    cases negated with
    | false =>
      cases h
      exact ascii_fits _ kind
    | true => cases h
  | property | shorthand => exact hp.elim
  | @nested span negated body _ ih =>
    cases negated with
    | false => exact ih hp h
    | true => cases h
  | union _ ih =>
    intro x hx
    obtain ⟨b, hb, bs, hbs, hx⟩ := unionMembers?_eq_some h x hx
    exact ih b hb (ClassBody.allPortable_iff.1 hp b hb) hbs x hx
  | operation _ _ _ _ => cases h

theorem toNat_ofNat {n : Nat} (h : n.isValidChar) : (Char.ofNat n).toNat = n := by
  rw [Char.toNat_ofNat, if_pos h]

/-- A set in order that has a single member has one in the basic plane. -/
theorem CodeSet.Tidy.single_basic {s : CodeSet} {k lo : Nat} (h : s.Tidy k)
    (hs : s.ranges = [⟨lo, lo⟩]) : lo ≤ 0xFFFF ∧ lo.isValidChar := by
  have hmem : (⟨lo, lo⟩ : CodeRange) ∈ s.ranges := by
    rw [hs]
    exact List.mem_singleton_self _
  have hunsplit := h.unsplit _ hmem
  refine ⟨?_, (h.proper _ hmem).lo⟩
  simp only [CodeRange.Unsplit, maxCodePoint] at hunsplit
  omega

/-- A class without a direct spelling is printed from its set, in code units. -/
theorem rangesClass_units {body : ClassBody} {ignoreCase negated : Bool} {k : Nat}
    (ht : (finishSet ignoreCase negated (body.codeSet ignoreCase)).Tidy k) :
    (rangesClass ignoreCase negated body).Fits .units := by
  unfold rangesClass
  dsimp only
  split
  · rename_i lo hi hs
    split
    · rename_i heq
      subst heq
      obtain ⟨hbasic, hvalid⟩ := CodeSet.Tidy.single_basic ht hs
      refine .char (Mode.takes_of_le _ ?_)
      rwa [toNat_ofNat hvalid]
    · exact ecmaOfSet_fits _ _
  · exact ecmaOfSet_fits _ _

theorem ecmaClass_units {body : ClassBody} (hw : body.WellFormed) (hp : body.IsPortable)
    (ht : (body.codeSet false).Tidy 0xFFFE) (negated : Bool) :
    (ecmaClass false negated body).Fits .units := by
  unfold ecmaClass
  split
  · rename_i ms hms
    exact .set (hw.members_units hp hms)
  · exact rangesClass_units (finishSet_tidy (by decide) (by decide) ht negated)

/-- The leaves of a portable pattern are written in code units. -/
theorem Regex.WellFormed.leavesFit_units {r : Regex} (hw : r.WellFormed) {f : Flags}
    (hf : f.ignoreCase = false) (hp : r.IsPortable f)
    (ht : r.AllBrackets fun _ body => (body.codeSet false).Tidy 0xFFFE) :
    r.LeavesFit .units f := by
  induction hw generalizing f with
  | empty | flags | dot | assertion => exact trivial
  | property | shorthand => exact hp.elim
  | literal l =>
    unfold Regex.LeavesFit
    rw [hf]
    exact .char (Mode.takes_of_le _ hp)
  | bracket hb =>
    unfold Regex.LeavesFit
    rw [hf]
    exact ecmaClass_units hb hp ht _
  | repetition _ _ _ ih => exact ih hf hp.2 ht
  | group _ ih => exact ih ((GroupKind.inside_ignoreCase hp.1).trans hf) hp.2 ht
  | alternation _ _ hw ih =>
    have hcase := placed_ignoreCase_of_portable hw hf hp
    refine Regex.allLeavesFit_iff.2 fun p hmem => ?_
    have hr := Regex.mem_of_placed hmem
    exact ih p.2 hr (hcase p hmem) (Regex.allPortable_iff.1 hp p hmem)
      (Regex.allBracketsIn_iff.1 ht p.2 hr)
  | concat hw ih =>
    have hcase := placed_ignoreCase_of_portable hw hf hp
    refine Regex.allLeavesFit_iff.2 fun p hmem => ?_
    have hr := Regex.mem_of_placed hmem
    exact ih p.2 hr (hcase p hmem) (Regex.allPortable_iff.1 hp p hmem)
      (Regex.allBracketsIn_iff.1 ht p.2 hr)

end ProtoSchema.Pattern
