import ProtoSchema.Proofs.Pattern.CodeUnits
import ProtoSchema.Proofs.Pattern.Portable

/-!
# The language of a converted pattern

A portable pattern and the text that it is converted to match the same parts of every text in the
basic plane.  The one exception are negated classes that are written member by member: where the
ranges of such a class meet across the surrogates, the set that it denotes takes back the two
characters at the meeting, which its members leave out.
-/

namespace ProtoSchema.Pattern

open Grammar Unicode

/-! ## 1. Classes -/

section

variable {t : List Char} {P : Char → Prop}

/-- Of the characters of a text, a pattern that is printed as one leaf takes those with a
property. -/
def Ecma.TakesAs (t : List Char) (e : Ecma) (P : Char → Prop) : Prop :=
  ∃ l : Leaf, (∀ s, e.onto s = .cons (.leaf l) s) ∧
    ∀ c ∈ t, c.toNat ≤ 0xFFFF → (l.Takes c.toNat ↔ P c)

theorem takesAs_char {d : Char} (h : ∀ c : Char, c.toNat = d.toNat ↔ P c) :
    (Ecma.char d).TakesAs t P :=
  ⟨.atom (.code d.toNat), fun _ => by rw [Ecma.onto], fun c _ _ => h c⟩

/-- The members of a class hold a code point. -/
def MembersTake (ms : List ClassMember) (n : Nat) : Prop := ∃ x ∈ ms, x.member.Takes n

theorem membersTake_append {ms ns : List ClassMember} {n : Nat} :
    MembersTake (ms ++ ns) n ↔ MembersTake ms n ∨ MembersTake ns n := by
  simp only [MembersTake, List.mem_append, or_and_right, exists_or]

theorem takesAs_set {ms : List ClassMember} {negated : Bool}
    (h : ∀ c ∈ t, c.toNat ≤ 0xFFFF →
      ((if negated then ¬ MembersTake ms c.toNat else MembersTake ms c.toNat) ↔ P c)) :
    (Ecma.set negated ms).TakesAs t P := by
  refine ⟨_, fun _ => by rw [Ecma.onto], fun c hmem hc => (Iff.trans ?_ (h c hmem hc))⟩
  have hmap : (∃ x ∈ ms.map ClassMember.member, x.Takes c.toNat) ↔ MembersTake ms c.toNat := by
    simp only [MembersTake, List.mem_map, exists_exists_and_eq_and]
  cases negated with
  | false => exact hmap
  | true => exact not_congr hmap

theorem takesAs_anyChar (h : ∀ c, P c) : Ecma.anyChar.TakesAs t P := by
  refine takesAs_set fun c _ _ => iff_of_true ?_ (h c)
  by_cases hspace : IsSpaceUnit c.toNat
  · exact ⟨.escape .space, List.mem_cons_self, hspace⟩
  · exact ⟨.escape .notSpace, List.mem_cons_of_mem _ List.mem_cons_self, hspace⟩

/-- The class of a set takes the members of the set. -/
theorem takesAs_ecmaOfSet {s : CodeSet} (h : ∀ r ∈ s.ranges, r.Proper) :
    (ecmaOfSet s).TakesAs t (InSet s) := by
  have hle := codeUnits_le fun r hr => (h r hr).le
  refine ⟨_, ecmaOfSet_onto s, fun c _ hc => ?_⟩
  rw [Leaf.takes_ofRanges hle, ← CodeSet.mem_iff, mem_codeUnits (isValidChar_toNat c) hc, InSet]

/-- A class without a direct spelling takes the members of its set. -/
theorem takesAs_rangesClass {body : ClassBody} {ignoreCase negated : Bool} {k : Nat}
    (ht : (finishSet ignoreCase negated (body.codeSet ignoreCase)).Tidy k) :
    (rangesClass ignoreCase negated body).TakesAs t
      (InSet (finishSet ignoreCase negated (body.codeSet ignoreCase))) := by
  unfold rangesClass
  dsimp only
  split
  · rename_i lo hi hs
    split
    · rename_i heq
      subst heq
      obtain ⟨-, hvalid⟩ := CodeSet.Tidy.single_basic ht hs
      refine takesAs_char fun c => ?_
      rw [toNat_ofNat hvalid, InSet, CodeSet.mem_iff, hs]
      simp only [List.mem_singleton, exists_eq_left, CodeRange.mem_iff]
      omega
    · exact takesAs_ecmaOfSet ht.proper
  · exact takesAs_ecmaOfSet ht.proper

theorem mem_single {n m : Nat} : n ∈ (⟨[.single m]⟩ : CodeSet) ↔ n = m := by
  rw [CodeSet.mem_iff]
  simp only [List.mem_singleton, exists_eq_left, CodeRange.mem_iff, CodeRange.single]
  omega

theorem charMember_takes {lo hi : Char} {n : Nat} :
    (charMember lo hi).member.Takes n ↔ n ∈ charRange lo hi := by
  unfold charMember
  split
  · rename_i heq
    subst heq
    change n = lo.toNat ↔ lo.toNat ≤ n ∧ n ≤ lo.toNat
    omega
  · exact Iff.rfl

theorem membersTake_single {x : ClassMember} {n : Nat} :
    MembersTake [x] n ↔ x.member.Takes n := by
  simp only [MembersTake, List.mem_singleton, exists_eq_left]

theorem unionMembers?_takes {members : List ClassBody} {ms : List ClassMember} {n : Nat}
    (h : ClassBody.unionMembers? false members = some ms)
    (ih : ∀ b ∈ members, ∀ bs, b.members? false = some bs →
      (MembersTake bs n ↔ n ∈ b.codeSet false)) :
    MembersTake ms n ↔ n ∈ ClassBody.unionSet false members := by
  induction members generalizing ms with
  | nil =>
    cases h
    have hnone : n ∉ CodeSet.empty := by
      rw [CodeSet.mem_iff]
      rintro ⟨r, hr, -⟩
      exact absurd hr List.not_mem_nil
    refine iff_of_false ?_ hnone
    rintro ⟨x, hx, -⟩
    exact absurd hx List.not_mem_nil
  | cons b rest ih' =>
    obtain ⟨bs, hbs, h⟩ := Option.bind_eq_some_iff.1 h
    obtain ⟨rs, hrs, h⟩ := Option.bind_eq_some_iff.1 h
    cases h
    have hrest := ih' hrs fun c hc => ih c (List.mem_cons_of_mem _ hc)
    rw [membersTake_append, ih b List.mem_cons_self bs hbs, hrest, ClassBody.unionSet,
      CodeSet.mem_union]

/-- The members of a portable class take the code points of its set. -/
theorem ClassBody.WellFormed.members_take {body : ClassBody} (hw : body.WellFormed)
    (hp : body.IsPortable) {ms : List ClassMember} (h : body.members? false = some ms) (n : Nat) :
    MembersTake ms n ↔ n ∈ body.codeSet false := by
  induction hw generalizing ms with
  | empty span =>
    have hnone : ClassBody.unionMembers? false [] = some ms := h
    exact unionMembers?_takes hnone (List.forall_mem_nil _)
  | literal l =>
    cases h
    rw [caseForms_false, List.map_singleton, membersTake_single, ClassBody.codeSet, mem_single]
    exact Iff.rfl
  | range =>
    cases h
    refine membersTake_single.trans ?_
    rw [ClassBody.codeSet, CodeSet.mem_iff]
    simp only [List.mem_singleton, exists_eq_left]
    exact Iff.rfl
  | ascii span negated kind =>
    cases negated with
    | true => cases h
    | false =>
      cases h
      rw [ClassBody.codeSet, finishSet_false, if_neg Bool.false_ne_true, AsciiClass.codeSet,
        CodeSet.mem_ofRanges]
      simp only [MembersTake, List.mem_map, exists_exists_and_eq_and, charMember_takes]
  | property | shorthand => exact hp.elim
  | @nested span negated body _ ih =>
    cases negated with
    | false => exact ih hp h
    | true => cases h
  | union _ ih =>
    exact unionMembers?_takes h fun b hb bs hbs =>
      ih b hb (ClassBody.allPortable_iff.1 hp b hb) hbs
  | operation => cases h

/-- The set of a class with a direct spelling is written without touching ranges. -/
theorem ClassBody.WellFormed.codeSet_apart {body : ClassBody} (hw : body.WellFormed)
    (hp : body.IsPortable) {ms : List ClassMember} (h : body.members? false = some ms) :
    Apart (body.codeSet false).ranges := by
  induction hw generalizing ms with
  | empty span => exact List.Pairwise.nil
  | literal l => exact List.pairwise_singleton _ _
  | range => exact List.pairwise_singleton _ _
  | ascii span negated kind =>
    cases negated with
    | true => cases h
    | false => exact CodeSet.ofRanges_apart _
  | property | shorthand => exact hp.elim
  | @nested span negated body _ ih =>
    cases negated with
    | false => exact ih hp h
    | true => cases h
  | @union span members _ _ =>
    cases members with
    | nil => exact List.Pairwise.nil
    | cons b rest => exact CodeSet.ofRanges_apart _
  | operation => cases h

/-- Whether a class that is negated and written member by member denotes what its members leave
out of a text: no two of its ranges meet across the surrogates, with a character of the text at the
end of one. -/
def NegatesPlainly (t : List Char) (negated : Bool) (body : ClassBody) : Prop :=
  negated = true → (body.members? false).isSome = true → ∀ c ∈ t,
    ∀ r ∈ (body.codeSet false).ranges, ∀ s ∈ (body.codeSet false).ranges, ¬ MeetAt c.toNat r s

/-- A converted class takes the members of the set that the class denotes. -/
theorem takesAs_ecmaClass {body : ClassBody} (hw : body.WellFormed) (hp : body.IsPortable)
    (ht : (body.codeSet false).Tidy 0xFFFE) {negated : Bool} (hn : NegatesPlainly t negated body) :
    (ecmaClass false negated body).TakesAs t
      (InSet (finishSet false negated (body.codeSet false))) := by
  unfold ecmaClass
  split
  · rename_i ms hms
    have htake := hw.members_take hp hms
    refine takesAs_set fun c hc _ => ?_
    rw [InSet, finishSet_false, htake]
    cases negated with
    | false => exact Iff.rfl
    | true =>
      -- Away from the surrogates the complement is what the members leave out.
      have hmeet := List.pairwise_of_forall_mem_list (hn rfl (by rw [hms]; rfl) c hc)
      have happart := hw.codeSet_apart hp hms
      exact (CodeSet.mem_compl happart ht.proper (isValidChar_toNat c) hmeet).symm
  · exact takesAs_rangesClass (finishSet_tidy (by decide) (by decide) ht negated)

end

/-! ## 2. Patterns -/

section

variable {t : List Char} {f : Flags}

theorem takesOne_map {P : Char → Prop} {Q : Nat → Prop} (h : ∀ c ∈ t, Q c.toNat ↔ P c)
    {i j : Nat} : TakesOne Q (t.map Char.toNat) i j ↔ TakesOne P t i j := by
  refine and_congr_right fun _ => ?_
  rw [List.getElem?_map]
  constructor
  · rintro ⟨u, hu, hQ⟩
    obtain ⟨c, hc, rfl⟩ := Option.map_eq_some_iff.1 hu
    exact ⟨c, hc, (h c (List.mem_of_getElem? hc)).1 hQ⟩
  · rintro ⟨c, hc, hP⟩
    refine ⟨c.toNat, ?_, (h c (List.mem_of_getElem? hc)).2 hP⟩
    rw [hc]
    rfl

/-- The tree of a converted pattern matches what the pattern matches: as terms in front of an
alternative, and as a disjunction. -/
structure MatchesAs (t : List Char) (f : Flags) (r : Regex) (e : Ecma) : Prop where
  row : r.isAlternation = false → ∀ s i j, (e.onto s).Matches (t.map Char.toNat) i j ↔
    ∃ k, r.Matches t f i k ∧ s.Matches (t.map Char.toNat) k j
  whole : ∀ i j, (e.onto .empty).Matches (t.map Char.toNat) i j ↔ r.Matches t f i j

theorem MatchesAs.ofRow {r : Regex} {e : Ecma} (h : ∀ s i j,
    (e.onto s).Matches (t.map Char.toNat) i j ↔
      ∃ k, r.Matches t f i k ∧ s.Matches (t.map Char.toNat) k j) : MatchesAs t f r e := by
  refine ⟨fun _ => h, fun i j => (h .empty i j).trans ?_⟩
  constructor
  · rintro ⟨k, hr, hkj⟩
    have heq : k = j := hkj
    rwa [← heq]
  · exact fun hr => ⟨j, hr, rfl⟩

/-- One term that matches what a pattern matches. -/
theorem MatchesAs.ofTerm {r : Regex} {e : Ecma} {term : Tree} (honto : ∀ s, e.onto s = .cons term s)
    (h : ∀ i j, term.Matches (t.map Char.toNat) i j ↔ r.Matches t f i j) : MatchesAs t f r e := by
  refine .ofRow fun s i j => ?_
  rw [honto]
  exact exists_congr fun k => and_congr_left fun _ => h i k

theorem MatchesAs.ofGroup {r : Regex} {e : Ecma} (capturing : Bool)
    (h : ∀ i j, (e.onto .empty).Matches (t.map Char.toNat) i j ↔ r.Matches t f i j) :
    MatchesAs t f r (.group capturing e) := by
  have honto : ∀ s, (Ecma.group capturing e).onto s = .cons (.group capturing (e.onto .empty)) s :=
    fun _ => by rw [Ecma.onto]
  exact .ofTerm honto h

theorem MatchesAs.ofLeaf {r : Regex} {e : Ecma} {P : Char → Prop} (he : e.TakesAs t P)
    (ht : ∀ c ∈ t, c.toNat ≤ 0xFFFF) (hr : ∀ i j, r.Matches t f i j ↔ TakesOne P t i j) :
    MatchesAs t f r e := by
  obtain ⟨l, honto, hl⟩ := he
  refine .ofTerm honto fun i j => ?_
  rw [hr]
  exact takesOne_map fun c hc => hl c hc (ht c hc)

theorem MatchesAs.ofAssertion {span : Span} {a : Assertion} {b : EcmaAssertion}
    (h : ∀ i, b.Holds (t.map Char.toNat) i ↔ a.Holds t i) :
    MatchesAs t f (.assertion span a) (.assertion b) := by
  have honto : ∀ s, (Ecma.assertion b).onto s = .cons (.assertion b) s := fun _ => by
    rw [Ecma.onto]
  exact .ofTerm honto fun i _ => and_congr_right fun _ => h i

/-- A pattern that takes nothing has no terms. -/
theorem MatchesAs.ofEmpty {r : Regex} (h : ∀ i j, r.Matches t f i j ↔ i = j) :
    MatchesAs t f r .empty := by
  refine .ofRow fun s i j => ?_
  rw [Ecma.onto]
  constructor
  · exact fun hs => ⟨i, (h i i).2 rfl, hs⟩
  · rintro ⟨k, hk, hs⟩
    obtain rfl := (h i k).1 hk
    exact hs

theorem matches_grouped (needed : Bool) (e : Ecma) (u : List Nat) (i j : Nat) :
    ((grouped needed e).onto .empty).Matches u i j ↔ (e.onto .empty).Matches u i j := by
  cases needed with
  | false => exact Iff.rfl
  | true =>
    change ((Ecma.group false e).onto .empty).Matches u i j ↔ _
    rw [Ecma.onto]
    exact matches_single

theorem matches_branches {rs : List Regex} {es : List Ecma} (hne : rs ≠ [])
    (h : List.Forall₂ (fun p e => MatchesAs t p.1 p.2 e) (Regex.placed f rs) es) (i j : Nat) :
    (Ecma.ontoBranches es).Matches (t.map Char.toNat) i j ↔ Regex.SomeMatches t f rs i j := by
  induction rs generalizing f es with
  | nil => exact absurd rfl hne
  | cons r rest ih =>
    rw [Regex.placed, List.forall₂_cons_left_iff] at h
    obtain ⟨e, es, he, hes, rfl⟩ := h
    cases rest with
    | nil =>
      rw [Regex.placed, List.forall₂_nil_left_iff] at hes
      subst hes
      rw [Regex.SomeMatches, Regex.SomeMatches, or_false]
      exact he.whole i j
    | cons s rest =>
      have hrest := ih (List.cons_ne_nil _ _) hes
      rw [Regex.SomeMatches, ← he.whole, ← hrest]
      cases es with
      | nil => cases hes
      | cons e' es => exact Iff.rfl

theorem matches_parts {rs : List Regex} {es : List Ecma} (s : Tree)
    (h : List.Forall₂ (fun p e => ∃ e', MatchesAs t p.1 p.2 e' ∧
      grouped p.2.isAlternation e' = e) (Regex.placed f rs) es) (i j : Nat) :
    (Ecma.ontoParts es s).Matches (t.map Char.toNat) i j ↔
      ∃ k, Regex.RowMatches t f rs i k ∧ s.Matches (t.map Char.toNat) k j := by
  induction rs generalizing f es i with
  | nil =>
    rw [Regex.placed, List.forall₂_nil_left_iff] at h
    subst h
    constructor
    · exact fun hs => ⟨i, rfl, hs⟩
    · rintro ⟨k, hk, hs⟩
      have heq : i = k := hk
      rwa [Ecma.ontoParts, heq]
  | cons r rest ih =>
    rw [Regex.placed, List.forall₂_cons_left_iff] at h
    obtain ⟨_, es, ⟨e, he, rfl⟩, hes, rfl⟩ := h
    -- An alternation stands in a group, which is one term; any other part is its terms.
    have hfirst : ∀ s i j, ((grouped r.isAlternation e).onto s).Matches (t.map Char.toNat) i j ↔
        ∃ k, r.Matches t f i k ∧ s.Matches (t.map Char.toNat) k j := by
      intro s i j
      cases ha : r.isAlternation with
      | true =>
        change ((Ecma.group false e).onto s).Matches _ i j ↔ _
        rw [Ecma.onto]
        exact exists_congr fun k => and_congr_left fun _ => he.whole i k
      | false => exact he.row ha s i j
    rw [Ecma.ontoParts, hfirst]
    constructor
    · rintro ⟨k, hk, hrest⟩
      obtain ⟨l, hl, hs⟩ := (ih hes k).1 hrest
      exact ⟨l, ⟨k, hk, hl⟩, hs⟩
    · rintro ⟨l, ⟨k, hk, hl⟩, hs⟩
      exact ⟨k, hk, (ih hes k).2 ⟨l, hl, hs⟩⟩

theorem matches_repetition {body : Regex} {term : Tree} (count : Count) (lazy : Bool)
    (h : ∀ i j, term.Matches (t.map Char.toNat) i j ↔ body.Matches t f i j) (span : Span)
    (greedy : Bool) (i j : Nat) :
    (Tree.quantified term count.toEcma lazy).Matches (t.map Char.toNat) i j ↔
      (Regex.repetition span count greedy body).Matches t f i j := by
  have hsame : term.Matches (t.map Char.toNat) = body.Matches t f := by
    funext i j
    exact propext (h i j)
  rw [Tree.Matches, Regex.Matches, hsame, repeats_iff]
  refine exists_congr fun n => ?_
  rw [Count.allows_iff, and_assoc]

/-- A converted pattern matches what the pattern matches. -/
theorem Regex.WellFormed.matchesAs (ht : ∀ c ∈ t, c.toNat ≤ 0xFFFF) {r : Regex}
    (hw : r.WellFormed) {e : Ecma} (hf : f.ignoreCase = false) (hp : r.IsPortable f)
    (htidy : r.AllBrackets fun _ body => (body.codeSet false).Tidy 0xFFFE)
    (hn : r.AllBrackets (NegatesPlainly t)) (h : r.toEcma f = .ok e) : MatchesAs t f r e := by
  induction hw generalizing f e with
  | empty span =>
    cases h
    exact .ofEmpty fun _ _ => Iff.rfl
  | flags span items =>
    cases h
    exact .ofEmpty fun _ _ => Iff.rfl
  | literal l =>
    cases h
    rw [hf]
    refine .ofLeaf (takesAs_char fun c => Iff.rfl) ht fun i j => ?_
    rw [Regex.Matches, hf]
    refine and_congr_right fun _ => exists_congr fun c => and_congr_right fun _ => ?_
    rw [InSet, finishSet_false, if_neg Bool.false_ne_true, mem_single]
  | dot span =>
    cases h
    have hdot : f.dotMatchesNewline = true := hp
    rw [if_pos hdot]
    exact .ofLeaf (takesAs_anyChar fun c => .inl hdot) ht fun _ _ => Iff.rfl
  | assertion span a =>
    cases a with
    | startLine | startText =>
      cases h
      exact .ofAssertion fun _ => Iff.rfl
    | endLine | endText =>
      cases h
      refine .ofAssertion fun i => ?_
      change i = (t.map Char.toNat).length ↔ i = t.length
      rw [List.length_map]
    | _ => cases hp
  | property | shorthand => exact hp.elim
  | bracket hb =>
    cases h
    rw [hf]
    refine .ofLeaf (takesAs_ecmaClass hb hp htidy hn) ht fun i j => ?_
    rw [Regex.Matches, hf]
  | @repetition span count greedy body _ hbody hw ih =>
    obtain ⟨e', he, h⟩ := Except.bind_eq_ok.1 h
    cases h
    have hmatch := ih hf hp.2 htidy hn he
    have hto := hw.convertsTo (hw.leavesFit_units hf hp.2 htidy) he
    -- The quantifier applies to the first term, which is all that the body is printed as.
    obtain ⟨honto, -⟩ := Ecma.onto_of_isOperand (hto.operand hbody) .empty
    have hfirst : ∀ i j, ((grouped body.needsGroup e').onto .empty).first.Matches
        (t.map Char.toNat) i j ↔ body.Matches t f i j := by
      intro i j
      rw [← hmatch.whole, ← matches_grouped body.needsGroup e', honto]
      exact matches_single.symm
    exact .ofTerm (fun s => by rw [Ecma.onto]) (matches_repetition count _ hfirst span greedy)
  | @group span kind body _ ih =>
    obtain ⟨e', he, h⟩ := Except.bind_eq_ok.1 h
    cases h
    have hbody := ih ((GroupKind.inside_ignoreCase hp.1).trans hf) hp.2 htidy hn he
    exact .ofGroup _ hbody.whole
  | @alternation span branches hne _ hw ih =>
    obtain ⟨es, hes, h⟩ := Except.bind_eq_ok.1 h
    cases h
    have hcase := placed_ignoreCase_of_portable hw hf hp
    refine ⟨fun h => absurd h.symm Bool.false_ne_true, fun i j => ?_⟩
    rw [Ecma.onto]
    refine matches_branches hne ?_ i j
    refine forall₂_imp_of_mem (Regex.branchesToEcma_eq_ok.1 hes) fun p hmem e he => ?_
    have hr := Regex.mem_of_placed hmem
    exact ih p.2 hr (hcase p hmem) (Regex.allPortable_iff.1 hp p hmem)
      (Regex.allBracketsIn_iff.1 htidy p.2 hr) (Regex.allBracketsIn_iff.1 hn p.2 hr) he
  | @concat span parts hw ih =>
    obtain ⟨es, hes, h⟩ := Except.bind_eq_ok.1 h
    cases h
    have hcase := placed_ignoreCase_of_portable hw hf hp
    refine .ofRow fun s i j => ?_
    rw [Ecma.onto]
    refine matches_parts s ?_ i j
    refine forall₂_imp_of_mem (Regex.partsToEcma_eq_ok.1 hes) fun p hmem e he => ?_
    obtain ⟨e', he', hgrouped⟩ := he
    have hr := Regex.mem_of_placed hmem
    refine ⟨e', ?_, hgrouped⟩
    exact ih p.2 hr (hcase p hmem) (Regex.allPortable_iff.1 hp p hmem)
      (Regex.allBracketsIn_iff.1 htidy p.2 hr) (Regex.allBracketsIn_iff.1 hn p.2 hr) he'

end

/-! ## 3. Texts -/

theorem convertText_of_portable {pattern : String} {r : Regex} {e : Ecma}
    (hr : parse pattern = .ok r) (hc : r.check {} = .ok ()) (he : r.toEcma {} = .ok e) :
    convertText pattern = .ok e.text := by
  rw [convertText_of_check hr hc, he]
  rfl

theorem checkDepth_of_parse {pattern : String} {r : Regex} (h : parse pattern = .ok r) :
    r.checkDepth 0 = .ok () := by
  obtain ⟨r', -, h⟩ := Except.bind_eq_ok.1 h
  obtain ⟨⟨⟩, hdepth, h⟩ := Except.bind_eq_ok.1 h
  rw [Except.pure_eq_ok] at h
  rwa [← h]

/-- A portable pattern is converted, to a pattern of the target dialect without flags that can
match from and to the same positions of every text in the basic plane. -/
theorem convertText_matches {pattern : String} {r : Regex} (hr : parse pattern = .ok r)
    (hc : r.check {} = .ok ()) (hp : r.IsPortable {}) :
    ∃ text, convertText pattern = .ok text ∧ IsPattern .units text.toList ∧
      ∀ t : List Char, (∀ c ∈ t, c.toNat ≤ 0xFFFF) → r.AllBrackets (NegatesPlainly t) →
        ∀ i j, PatternMatches text.toList (utf16 t) i j ↔ r.Matches t {} i j := by
  have hw := parse_wellFormed hr
  have htidy := hw.brackets_tidy (checkDepth_of_parse hr) hp
  have hl := hw.leavesFit_units rfl hp htidy
  obtain ⟨e, he⟩ := hw.toEcma_of_portable hp
  have hfits := (hw.convertsTo hl he).fits
  have hq : (e.onto .empty).quantifiesAtoms = true := by
    rw [(hw.quantifiesAs hl he).whole, hw.repeatsAssertion_of_portable hp]
    rfl
  refine ⟨e.text, convertText_of_portable hr hc he, (isPattern_iff hfits.reads_text).2 hq, ?_⟩
  intro t ht hn i j
  rw [hfits.patternMatches_iff hq, utf16_eq_map ht]
  exact (hw.matchesAs ht rfl hp htidy hn he).whole i j

/-- One or more characters that are no `b`. -/
def withoutB : Regex :=
  .repetition ⟨⟨0, 1, 1⟩, ⟨5, 1, 6⟩⟩ .some true (.bracket ⟨⟨0, 1, 1⟩, ⟨4, 1, 5⟩⟩ true
    (.literal ⟨⟨⟨2, 1, 3⟩, ⟨3, 1, 4⟩⟩, .plain, 'b'⟩))

theorem parse_withoutB : parse "[^b]+" = .ok withoutB := by
  have hchars : "[^b]+".toList = ['[', '^', 'b', ']', '+'] := by decide
  unfold parse Cursor.ofPattern
  rw [hchars]
  cbv

theorem withoutB_matches :
    ∃ text, convertText "[^b]+" = .ok text ∧ IsPattern .units text.toList ∧
      PatternMatches text.toList (utf16 ['a', 'a']) 0 2 := by
  have hp : withoutB.IsPortable {} := ⟨rfl, show 0x62 ≤ 0xFFFF by decide⟩
  obtain ⟨text, htext, hpattern, hmatch⟩ := convertText_matches parse_withoutB rfl hp
  have hn : withoutB.AllBrackets (NegatesPlainly ['a', 'a']) := by
    intro _ _ c _ r hr s _ hmeet
    rw [List.mem_singleton.1 hr] at hmeet
    exact absurd hmeet.1 (by decide)
  have hone : ∀ i, ['a', 'a'][i]? = some 'a' → Regex.Matches ['a', 'a'] {}
      (.bracket ⟨⟨0, 1, 1⟩, ⟨4, 1, 5⟩⟩ true (.literal ⟨⟨⟨2, 1, 3⟩, ⟨3, 1, 4⟩⟩, .plain, 'b'⟩))
      i (i + 1) := by
    intro i hi
    refine ⟨rfl, 'a', hi, ?_⟩
    cbv
  have ha : 'a'.toNat ≤ 0xFFFF := show 0x61 ≤ 0xFFFF by decide
  have ht : ∀ c ∈ ['a', 'a'], c.toNat ≤ 0xFFFF :=
    List.forall_mem_cons.2 ⟨ha, List.forall_mem_singleton.2 ha⟩
  refine ⟨text, htext, hpattern, (hmatch _ ht hn 0 2).2 ⟨2, show 1 ≤ 2 by decide, ?_⟩⟩
  exact ⟨1, hone 0 rfl, 2, hone 1 rfl, rfl⟩

/-- Every character but the two next to the surrogates. -/
def besideSurrogates : Regex :=
  .bracket ⟨⟨0, 1, 1⟩, ⟨9, 1, 6⟩⟩ true (.union ⟨⟨2, 1, 3⟩, ⟨8, 1, 5⟩⟩
    [.literal ⟨⟨⟨2, 1, 3⟩, ⟨5, 1, 4⟩⟩, .plain, '\ud7ff'⟩,
      .literal ⟨⟨⟨5, 1, 4⟩, ⟨8, 1, 5⟩⟩, .plain, '\ue000'⟩])

theorem parse_besideSurrogates : parse "[^\ud7ff\ue000]" = .ok besideSurrogates := by
  have hchars : "[^\ud7ff\ue000]".toList = ['[', '^', '\ud7ff', '\ue000', ']'] := by decide
  unfold parse Cursor.ofPattern
  rw [hchars]
  cbv

/-- The two characters are in the set that the class denotes, and are not matched. -/
theorem besideSurrogates_not_preserved :
    parse "[^\ud7ff\ue000]" = .ok besideSurrogates ∧ besideSurrogates.check {} = .ok () ∧
      besideSurrogates.IsPortable {} ∧
      convertText "[^\ud7ff\ue000]" = .ok "[^\ud7ff\ue000]" ∧
      besideSurrogates.Matches ['\ud7ff'] {} 0 1 ∧
      ¬ PatternMatches "[^\ud7ff\ue000]".toList (utf16 ['\ud7ff']) 0 1 := by
  have hp : besideSurrogates.IsPortable {} :=
    ⟨show 0xD7FF ≤ 0xFFFF by decide, show 0xE000 ≤ 0xFFFF by decide, trivial⟩
  have hw := parse_wellFormed parse_besideSurrogates
  have htidy := hw.brackets_tidy (checkDepth_of_parse parse_besideSurrogates) hp
  have hfits := (hw.convertsTo (hw.leavesFit_units rfl hp htidy) rfl).fits
  refine ⟨parse_besideSurrogates, rfl, hp, ?_, ?_, ?_⟩
  · exact convertText_of_portable parse_besideSurrogates rfl rfl
  · refine ⟨rfl, _, rfl, ?_⟩
    cbv
  · -- The text is read as the class of the two members, which takes neither of them.
    intro h
    obtain ⟨k, htakes, -⟩ := (hfits.patternMatches_iff rfl).1 h
    obtain ⟨-, u, hu, hnot⟩ := htakes
    cases hu
    exact hnot ⟨_, List.mem_cons_self, rfl⟩

end ProtoSchema.Pattern
