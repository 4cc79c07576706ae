import ProtoSchema.Proofs.Pattern.Parsing
import ProtoSchema.Proofs.Pattern.Printing
import ProtoSchema.Proofs.Unicode.CodeSet
import ProtoSchema.Proofs.Unicode.Property

/-!
# Converted patterns

What a pattern is converted to can be read back: its classes have their ranges in order, what a
repetition applies to is one operand, and no alternation stands in a row without a group.
-/

namespace ProtoSchema.Pattern

open Grammar

/-! ## 1. Classes -/

/-- All ends of the ranges of code units are code units. -/
theorem codeUnits_bounded (s : Unicode.CodeSet) :
    ∀ r ∈ (codeUnits s).ranges, r.lo ≤ maxUnit ∧ r.hi ≤ maxUnit := by
  unfold codeUnits
  refine Unicode.CodeSet.ofRanges_forall (fun r t hr ht _ _ => ?_) fun r hr => ?_
  · exact ⟨hr.1, max_le hr.2 ht.2⟩
  · rcases List.mem_append.1 hr with hr | hr
    · obtain ⟨t, ht, rfl⟩ := List.mem_map.1 hr
      have hlo := of_decide_eq_true (List.mem_filter.1 ht).2
      exact ⟨hlo, min_le_right _ _⟩
    · split at hr
      · rw [List.mem_singleton.1 hr]
        decide
      · exact absurd hr List.not_mem_nil

theorem unitMember_fits {m : Mode} {r : Unicode.CodeRange} (hlo : r.lo ≤ maxUnit)
    (hhi : r.hi ≤ maxUnit) : (unitMember r).Fits m := by
  unfold unitMember
  split
  · rename_i hlt
    exact ⟨hlo, hhi, le_of_lt hlt⟩
  · exact hlo

theorem noChar_fits (m : Mode) : Ecma.noChar.Fits m := by
  refine .set fun x hx => ?_
  rcases List.mem_cons.1 hx with rfl | hx
  · exact trivial
  · rw [List.mem_singleton] at hx
    subst hx
    exact trivial

theorem anyChar_fits (m : Mode) : Ecma.anyChar.Fits m := by
  refine .set fun x hx => ?_
  rcases List.mem_cons.1 hx with rfl | hx
  · exact trivial
  · rw [List.mem_singleton] at hx
    subst hx
    exact trivial

/-- The class of a set is written in code units. -/
theorem ecmaOfSet_fits (m : Mode) (s : Unicode.CodeSet) : (ecmaOfSet s).Fits m := by
  have hbounded := codeUnits_bounded s
  unfold ecmaOfSet
  split
  · exact noChar_fits m
  · refine .set fun x hx => ?_
    obtain ⟨r, hr, rfl⟩ := List.mem_map.1 hx
    obtain ⟨hlo, hhi⟩ := hbounded r hr
    exact unitMember_fits hlo hhi

theorem rangesClass_fits (ignoreCase negated : Bool) (body : ClassBody) :
    (rangesClass ignoreCase negated body).Fits .points := by
  unfold rangesClass
  dsimp only
  split
  · split
    · exact .char rfl
    · exact ecmaOfSet_fits _ _
  · exact ecmaOfSet_fits _ _

/-- A property that exists has no closing brace in its name. -/
theorem PropertyClass.not_mem_of_check {p : PropertyClass} {f : Flags}
    (hw : p.name.WellFormed) (h : p.check f = .ok ()) : '}' ∉ p.name.text.toList := by
  refine hw.resolve_right fun hname => ?_
  unfold PropertyClass.check at h
  split at h
  · cases h
  · rw [hname, PropertyName.query, Unicode.resolve_brace] at h
    cases h

theorem checkAll_eq_ok {f : Flags} {members : List ClassBody}
    (h : ClassBody.checkAll f members = .ok ()) : ∀ b ∈ members, b.check f = .ok () := by
  induction members with
  | nil => exact List.forall_mem_nil _
  | cons b rest ih =>
    obtain ⟨⟨⟩, hb, hrest⟩ := Except.bind_eq_ok.1 h
    exact List.forall_mem_cons.2 ⟨hb, ih hrest⟩

theorem unionMembers?_eq_some {ignoreCase : Bool} {members : List ClassBody}
    {ms : List ClassMember} (h : ClassBody.unionMembers? ignoreCase members = some ms) :
    ∀ x ∈ ms, ∃ b ∈ members, ∃ bs, b.members? ignoreCase = some bs ∧ x ∈ bs := by
  induction members generalizing ms with
  | nil =>
    cases h
    exact List.forall_mem_nil _
  | cons b rest ih =>
    obtain ⟨bs, hbs, h⟩ := Option.bind_eq_some_iff.1 h
    obtain ⟨rs, hrs, h⟩ := Option.bind_eq_some_iff.1 h
    cases h
    intro x hx
    rcases List.mem_append.1 hx with hx | hx
    · exact ⟨b, List.mem_cons_self, bs, hbs, hx⟩
    · obtain ⟨c, hc, cs, hcs, hx⟩ := ih hrs x hx
      exact ⟨c, List.mem_cons_of_mem _ hc, cs, hcs, hx⟩

theorem toNat_toUpper {c : Char} (h : isAsciiLower c = true) : c.toUpper.toNat + 32 = c.toNat := by
  rw [isAsciiLower, Bool.and_eq_true, decide_eq_true_eq, decide_eq_true_eq] at h
  have hlo : 0x61 ≤ c.val.toNat := h.1
  have hhi : c.val.toNat ≤ 0x7A := h.2
  unfold Char.toUpper
  split
  · have hshift : ('A'.val - 'a'.val).toNat = 0xFFFFFFE0 := by decide
    change (c.val + ('A'.val - 'a'.val)).toNat + 32 = c.val.toNat
    rw [UInt32.toNat_add]
    omega
  · rename_i hnot
    exact absurd h hnot

theorem toNat_toLower {c : Char} (h : isAsciiUpper c = true) : c.toLower.toNat = c.toNat + 32 := by
  rw [isAsciiUpper, Bool.and_eq_true, decide_eq_true_eq, decide_eq_true_eq] at h
  have hhi : c.val.toNat ≤ 0x5A := h.2
  unfold Char.toLower
  split
  · have hshift : ('a'.val - 'A'.val).toNat = 0x20 := by decide
    change (c.val + ('a'.val - 'A'.val)).toNat = c.val.toNat + 32
    rw [UInt32.toNat_add]
    omega
  · rename_i hnot
    exact absurd h hnot

theorem isAsciiLower_iff {c : Char} :
    isAsciiLower c = true ↔ 0x61 ≤ c.toNat ∧ c.toNat ≤ 0x7A := by
  rw [isAsciiLower, Bool.and_eq_true, decide_eq_true_eq, decide_eq_true_eq]
  exact Iff.rfl

theorem isAsciiUpper_iff {c : Char} :
    isAsciiUpper c = true ↔ 0x41 ≤ c.toNat ∧ c.toNat ≤ 0x5A := by
  rw [isAsciiUpper, Bool.and_eq_true, decide_eq_true_eq, decide_eq_true_eq]
  exact Iff.rfl

/-- A range of letters is in order in the other case too. -/
theorem rangeMembers_fits {m : Mode} {ignoreCase : Bool} {lo hi : Char} (h : lo ≤ hi)
    (hmlo : m.takes lo = true) (hmhi : m.takes hi = true) :
    ∀ x ∈ rangeMembers ignoreCase lo hi, x.Fits m := by
  have hle : lo.toNat ≤ hi.toNat := h
  unfold rangeMembers
  refine List.forall_mem_cons.2 ⟨⟨hmlo, hmhi, hle⟩, ?_⟩
  split
  · rename_i hlower
    simp only [Bool.and_eq_true] at hlower
    have hlo := toNat_toUpper hlower.1.2
    have hhi := toNat_toUpper hlower.2
    have hbound := (isAsciiLower_iff.1 hlower.2).2
    intro x hx
    rw [List.mem_singleton] at hx
    subst hx
    refine ⟨m.takes_of_le (by omega), m.takes_of_le (by omega), ?_⟩
    change lo.toUpper.toNat ≤ hi.toUpper.toNat
    omega
  split
  · rename_i hupper
    simp only [Bool.and_eq_true] at hupper
    have hlo := toNat_toLower hupper.1.2
    have hhi := toNat_toLower hupper.2
    have hbound := (isAsciiUpper_iff.1 hupper.2).2
    intro x hx
    rw [List.mem_singleton] at hx
    subst hx
    refine ⟨m.takes_of_le (by omega), m.takes_of_le (by omega), ?_⟩
    change lo.toLower.toNat ≤ hi.toLower.toNat
    omega
  · exact List.forall_mem_nil _

theorem AsciiClass.ranges_ordered (kind : AsciiClass) :
    ∀ r ∈ kind.ranges, r.1.toNat ≤ r.2.toNat ∧ r.2.toNat ≤ 0xFFFF := by
  cases kind <;> decide

theorem ascii_fits (m : Mode) (kind : AsciiClass) :
    ∀ x ∈ kind.ranges.map fun (lo, hi) => charMember lo hi, x.Fits m := by
  intro x hx
  obtain ⟨⟨lo, hi⟩, hr, rfl⟩ := List.mem_map.1 hx
  obtain ⟨hle, hhi⟩ := kind.ranges_ordered _ hr
  have hlo : lo.toNat ≤ 0xFFFF := le_trans hle hhi
  dsimp only
  unfold charMember
  split
  · exact m.takes_of_le hlo
  · exact ⟨m.takes_of_le hlo, m.takes_of_le hhi, hle⟩

/-- The members of a class with a direct spelling can be read back. -/
theorem ClassBody.WellFormed.members_fit {body : ClassBody} (hw : body.WellFormed) {f : Flags}
    {ms : List ClassMember} (hc : body.check f = .ok ())
    (h : body.members? f.ignoreCase = some ms) : ∀ x ∈ ms, x.Fits .points := by
  induction hw generalizing ms with
  | empty span =>
    cases h
    exact List.forall_mem_nil _
  | literal l =>
    cases h
    intro x hx
    obtain ⟨c, -, rfl⟩ := List.mem_map.1 hx
    exact rfl
  | range hle =>
    cases h
    exact rangeMembers_fits hle rfl rfl
  | ascii span negated kind =>
    cases negated with
    | false =>
      cases h
      exact ascii_fits _ kind
    | true => cases h
  | @property p hp =>
    cases h
    intro x hx
    rw [List.mem_singleton] at hx
    subst hx
    exact ⟨rfl, PropertyClass.not_mem_of_check hp hc⟩
  | shorthand s =>
    cases h
    intro x hx
    rw [List.mem_singleton] at hx
    subst hx
    exact trivial
  | @nested span negated body _ ih =>
    obtain ⟨⟨⟩, hbody, -⟩ := Except.bind_eq_ok.1 hc
    cases negated with
    | false => exact ih hbody h
    | true => cases h
  | union _ ih =>
    intro x hx
    obtain ⟨b, hb, bs, hbs, hx⟩ := unionMembers?_eq_some h x hx
    exact ih b hb (checkAll_eq_ok hc b hb) hbs x hx
  | operation _ _ _ _ => cases h

theorem ecmaClass_fits {body : ClassBody} (hw : body.WellFormed) {f : Flags}
    (hc : body.check f = .ok ()) (negated : Bool) :
    (ecmaClass f.ignoreCase negated body).Fits .points := by
  unfold ecmaClass
  split
  · rename_i ms hms
    exact .set (hw.members_fit hc hms)
  · exact rangesClass_fits _ _ _

/-! ## 2. Patterns -/

theorem ecmaLiteral_fits (ignoreCase : Bool) (c : Char) :
    (ecmaLiteral ignoreCase c).Fits .points := by
  unfold ecmaLiteral
  split
  · refine .set fun x hx => ?_
    obtain ⟨d, -, rfl⟩ := List.mem_map.1 hx
    exact rfl
  · exact .char rfl

theorem Ecma.isAlternation_of_isOperand {e : Ecma} (h : e.isOperand = true) :
    e.isAlternation = false := by
  cases e with
  | alternation branches => cases h
  | _ => rfl

/-- Whether a pattern is printed as one atom without parts of its own. -/
def Ecma.isLeaf : Ecma → Bool
  | .char _ | .dot | .escape _ | .property .. | .set .. => true
  | _ => false

theorem Ecma.isOperand_of_isLeaf {e : Ecma} (h : e.isLeaf = true) : e.isOperand = true := by
  cases e with
  | empty | repetition | alternation | concat => cases h
  | _ => rfl

theorem ecmaOfSet_isLeaf (s : Unicode.CodeSet) : (ecmaOfSet s).isLeaf = true := by
  unfold ecmaOfSet
  split <;> rfl

theorem ecmaClass_isLeaf (ignoreCase negated : Bool) (body : ClassBody) :
    (ecmaClass ignoreCase negated body).isLeaf = true := by
  unfold ecmaClass rangesClass
  dsimp only
  split
  · rfl
  split
  · split
    · rfl
    · exact ecmaOfSet_isLeaf _
  · exact ecmaOfSet_isLeaf _

theorem ecmaLiteral_isLeaf (ignoreCase : Bool) (c : Char) :
    (ecmaLiteral ignoreCase c).isLeaf = true := by
  unfold ecmaLiteral
  split <;> rfl

theorem Ecma.Fits.grouped {m : Mode} {e : Ecma} (h : e.Fits m) (needed : Bool) :
    (grouped needed e).Fits m := by
  cases needed with
  | true => exact .group h
  | false => exact h

/-- The parts of a row with the flags that hold where each of them starts. -/
def Regex.placed (f : Flags) : List Regex → List (Flags × Regex)
  | [] => []
  | r :: rest => (f, r) :: placed (r.flagsAfter f) rest

theorem Regex.mem_of_placed {f : Flags} {rs : List Regex} {p : Flags × Regex}
    (h : p ∈ Regex.placed f rs) : p.2 ∈ rs := by
  induction rs generalizing f with
  | nil => exact absurd h List.not_mem_nil
  | cons r rest ih =>
    rcases List.mem_cons.1 h with rfl | h
    · exact List.mem_cons_self
    · exact List.mem_cons_of_mem _ (ih h)

theorem Regex.checkAll_eq_ok {f : Flags} {rs : List Regex} (h : Regex.checkAll f rs = .ok ()) :
    ∀ p ∈ Regex.placed f rs, p.2.check p.1 = .ok () := by
  induction rs generalizing f with
  | nil => exact List.forall_mem_nil _
  | cons r rest ih =>
    obtain ⟨⟨⟩, hr, hrest⟩ := Except.bind_eq_ok.1 h
    exact List.forall_mem_cons.2 ⟨hr, ih hrest⟩

/-- The branches are converted where they stand. -/
theorem Regex.branchesToEcma_eq_ok {f : Flags} {rs : List Regex} {es : List Ecma} :
    Regex.branchesToEcma f rs = .ok es ↔
      List.Forall₂ (fun p e => p.2.toEcma p.1 = .ok e) (Regex.placed f rs) es := by
  induction rs generalizing f es with
  | nil =>
    rw [Regex.placed, List.forall₂_nil_left_iff, Regex.branchesToEcma, eq_comm]
    exact ⟨fun h => by injection h, fun h => congrArg _ h⟩
  | cons r rest ih =>
    rw [Regex.placed, List.forall₂_cons_left_iff, Regex.branchesToEcma, Except.bind_eq_ok]
    refine exists_congr fun e => ?_
    rw [Except.bind_eq_ok]
    constructor
    · rintro ⟨he, es', hes, h⟩
      exact ⟨es', he, ih.1 hes, (Except.pure_eq_ok.1 h).symm⟩
    · rintro ⟨es', he, hes, rfl⟩
      exact ⟨he, es', ih.2 hes, rfl⟩

/-- The parts are converted where they stand, alternations among them in groups. -/
theorem Regex.partsToEcma_eq_ok {f : Flags} {rs : List Regex} {es : List Ecma} :
    Regex.partsToEcma f rs = .ok es ↔
      List.Forall₂ (fun p e => ∃ e', p.2.toEcma p.1 = .ok e' ∧
        Pattern.grouped p.2.isAlternation e' = e) (Regex.placed f rs) es := by
  induction rs generalizing f es with
  | nil =>
    rw [Regex.placed, List.forall₂_nil_left_iff, Regex.partsToEcma, eq_comm]
    exact ⟨fun h => by injection h, fun h => congrArg _ h⟩
  | cons r rest ih =>
    rw [Regex.placed, List.forall₂_cons_left_iff, Regex.partsToEcma, Except.bind_eq_ok]
    constructor
    · rintro ⟨e, he, h⟩
      obtain ⟨es', hes, h⟩ := Except.bind_eq_ok.1 h
      exact ⟨_, es', ⟨e, he, rfl⟩, ih.1 hes, (Except.pure_eq_ok.1 h).symm⟩
    · rintro ⟨_, es', ⟨e, he, rfl⟩, hes, rfl⟩
      exact ⟨e, he, Except.bind_eq_ok.2 ⟨es', ih.2 hes, rfl⟩⟩

mutual

/-- Whether the leaves of a pattern can be read back from what they are converted to. -/
def Regex.LeavesFit (m : Mode) (f : Flags) : Regex → Prop
  | .literal l => (ecmaLiteral f.ignoreCase l.char).Fits m
  | .property p => m = .points ∧ '}' ∉ p.name.text.toList
  | .bracket _ negated body => (ecmaClass f.ignoreCase negated body).Fits m
  | .repetition _ _ _ body => body.LeavesFit m f
  | .group _ kind body => body.LeavesFit m (kind.inside f)
  | .alternation _ rs | .concat _ rs => Regex.AllLeavesFit m f rs
  | _ => True

def Regex.AllLeavesFit (m : Mode) (f : Flags) : List Regex → Prop
  | [] => True
  | r :: rest => r.LeavesFit m f ∧ Regex.AllLeavesFit m (r.flagsAfter f) rest

end

theorem Regex.allLeavesFit_iff {m : Mode} {f : Flags} {rs : List Regex} :
    Regex.AllLeavesFit m f rs ↔ ∀ p ∈ Regex.placed f rs, p.2.LeavesFit m p.1 := by
  induction rs generalizing f with
  | nil => exact ⟨fun _ => List.forall_mem_nil _, fun _ => trivial⟩
  | cons r rest ih => rw [Regex.AllLeavesFit, Regex.placed, List.forall_mem_cons, ih]

/-- As code points, the leaves of a pattern that means something can be read back. -/
theorem Regex.WellFormed.leavesFit {r : Regex} (hw : r.WellFormed) {f : Flags}
    (hc : r.check f = .ok ()) : r.LeavesFit .points f := by
  induction hw generalizing f with
  | empty | flags | dot | assertion | shorthand => exact trivial
  | literal l => exact ecmaLiteral_fits _ _
  | property hp => exact ⟨rfl, PropertyClass.not_mem_of_check hp hc⟩
  | bracket hb =>
    obtain ⟨⟨⟩, hbody, -⟩ := Except.bind_eq_ok.1 hc
    exact ecmaClass_fits hb hbody _
  | repetition _ _ _ ih => exact ih hc
  | group _ ih => exact ih hc
  | alternation _ _ _ ih =>
    refine Regex.allLeavesFit_iff.2 fun p hp => ?_
    exact ih p.2 (Regex.mem_of_placed hp) (Regex.checkAll_eq_ok hc p hp)
  | concat _ ih =>
    refine Regex.allLeavesFit_iff.2 fun p hp => ?_
    exact ih p.2 (Regex.mem_of_placed hp) (Regex.checkAll_eq_ok hc p hp)

/-- What a converted pattern is as a part of others: one operand where it is repeated, and no
alternation in a row, once it is put into the group that it needs. -/
structure ConvertsTo (m : Mode) (r : Regex) (e : Ecma) : Prop where
  fits : e.Fits m
  operand : r.isRepeatable = true → (grouped r.needsGroup e).isOperand = true
  row : (grouped r.isAlternation e).isAlternation = false

theorem ConvertsTo.ofOperand {m : Mode} {r : Regex} {e : Ecma} (hf : e.Fits m)
    (ho : e.isOperand = true) (hr : r.needsGroup = false) (ha : r.isAlternation = false) :
    ConvertsTo m r e := by
  refine ⟨hf, fun _ => ?_, ?_⟩
  · rw [hr]
    exact ho
  · rw [ha]
    exact Ecma.isAlternation_of_isOperand ho

theorem Regex.WellFormed.convertsTo {m : Mode} {r : Regex} (hw : r.WellFormed) {f : Flags}
    {e : Ecma} (hl : r.LeavesFit m f) (h : r.toEcma f = .ok e) : ConvertsTo m r e := by
  induction hw generalizing f e with
  | empty span =>
    cases h
    exact ⟨.empty, fun h => absurd h Bool.false_ne_true, rfl⟩
  | flags span items =>
    cases h
    exact ⟨.empty, fun h => absurd h Bool.false_ne_true, rfl⟩
  | literal l =>
    cases h
    have hleaf := ecmaLiteral_isLeaf f.ignoreCase l.char
    exact .ofOperand hl (Ecma.isOperand_of_isLeaf hleaf) rfl rfl
  | dot span =>
    cases h
    split
    · exact .ofOperand (anyChar_fits _) rfl rfl rfl
    · exact .ofOperand .dot rfl rfl rfl
  | assertion span a =>
    unfold Regex.toEcma at h
    split at h
    · cases h
      exact .ofOperand (.assertion _) rfl rfl rfl
    · cases h
  | property hp =>
    cases h
    exact .ofOperand (.property hl.1 hl.2) rfl rfl rfl
  | shorthand s =>
    cases h
    exact .ofOperand (.escape _) rfl rfl rfl
  | @bracket span negated body hb =>
    cases h
    have hleaf := ecmaClass_isLeaf f.ignoreCase negated body
    exact .ofOperand hl (Ecma.isOperand_of_isLeaf hleaf) rfl rfl
  | @repetition span count greedy body hcount hbody _ ih =>
    obtain ⟨e', he, h⟩ := Except.bind_eq_ok.1 h
    cases h
    -- The body is repeatable, so with its group, if it needs one, it is printed as one operand.
    have hbodyTo := ih hl he
    have hq : count.toEcma.Ordered := by
      cases count with
      | between n m =>
        have hle : decide (n ≤ m) = true := hcount
        exact (of_decide_eq_true hle : n ≤ m)
      | _ => exact trivial
    exact ⟨.repetition hq (hbodyTo.operand hbody) (hbodyTo.fits.grouped _), fun _ => rfl, rfl⟩
  | group _ ih =>
    obtain ⟨e', he, h⟩ := Except.bind_eq_ok.1 h
    cases h
    exact .ofOperand (.group (ih hl he).fits) rfl rfl rfl
  | @alternation span branches _ ha _ ih =>
    obtain ⟨es, hes, h⟩ := Except.bind_eq_ok.1 h
    cases h
    have hrow := Regex.branchesToEcma_eq_ok.1 hes
    -- A branch is no alternation itself, so the bars between branches are those of this one.
    have hbranch : ∀ e ∈ es, e.Fits m ∧ e.isAlternation = false := by
      intro e he
      obtain ⟨p, hp, hpe⟩ := forall₂_exists_left hrow he
      have hmem := Regex.mem_of_placed hp
      have hto := ih p.2 hmem (Regex.allLeavesFit_iff.1 hl p hp) hpe
      have hnot := hto.row
      rw [ha p.2 hmem] at hnot
      exact ⟨hto.fits, hnot⟩
    exact ⟨.alternation (fun e he => (hbranch e he).2) fun e he => (hbranch e he).1,
      fun _ => rfl, rfl⟩
  | @concat span parts _ ih =>
    obtain ⟨es, hes, h⟩ := Except.bind_eq_ok.1 h
    cases h
    have hrow := Regex.partsToEcma_eq_ok.1 hes
    have hpart : ∀ e ∈ es, e.Fits m ∧ e.isAlternation = false := by
      intro e he
      obtain ⟨p, hp, e', hpe, rfl⟩ := forall₂_exists_left hrow he
      have hto := ih p.2 (Regex.mem_of_placed hp) (Regex.allLeavesFit_iff.1 hl p hp) hpe
      exact ⟨hto.fits.grouped _, hto.row⟩
    exact ⟨.concat (fun e he => (hpart e he).2) fun e he => (hpart e he).1, fun _ => rfl, rfl⟩

/-! ## 3. Texts -/

/-- A pattern that can be read and means something comes out as what its tree comes out as. -/
theorem convertText_of_check {pattern : String} {r : Regex} (hr : parse pattern = .ok r)
    (h : r.check {} = .ok ()) : convertText pattern = (r.toEcma {}).map Ecma.text := by
  unfold convertText convert
  rw [hr]
  change ((r.check {}).mapError _ >>= _ : Except _ _).map _ = _
  rw [h]
  rfl

end ProtoSchema.Pattern
