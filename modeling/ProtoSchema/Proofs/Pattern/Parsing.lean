import ProtoSchema.Pattern.Conversion
import ProtoSchema.Proofs.Outcome

/-!
# Patterns that are read

What holds of the tree of every pattern that can be read: the ranges of its classes are in order,
the names of its properties end where their braces do, a count does not exceed its limit, and a
repetition has something to repeat.  The reader keeps this, and whatever else holds of leaves and of
what is put together from parts, for the parts that it has read and for those that are open around
them.
-/

namespace ProtoSchema.Pattern

open Cursor

/-! ## 1. Well-formed trees -/

/-- A name that holds no closing brace.  The brace by itself is the one name that can be written
without braces. -/
def PropertyName.WellFormed (n : PropertyName) : Prop :=
  '}' ∉ n.text.toList ∨ n = .name "\x7d"

inductive ClassBody.WellFormed : ClassBody → Prop
  | empty (span : Span) : WellFormed (.empty span)
  | literal (l : Literal) : WellFormed (.literal l)
  | range {span : Span} {lo hi : Literal} (h : lo.char ≤ hi.char) : WellFormed (.range span lo hi)
  | ascii (span : Span) (negated : Bool) (kind : AsciiClass) :
      WellFormed (.ascii span negated kind)
  | property {p : PropertyClass} (h : p.name.WellFormed) : WellFormed (.property p)
  | shorthand (s : ShorthandClass) : WellFormed (.shorthand s)
  | nested {span : Span} {negated : Bool} {body : ClassBody} (h : WellFormed body) :
      WellFormed (.nested span negated body)
  | union {span : Span} {members : List ClassBody} (h : ∀ b ∈ members, WellFormed b) :
      WellFormed (.union span members)
  | operation {span : Span} {op : SetOperation} {left right : ClassBody} (hl : WellFormed left)
      (hr : WellFormed right) : WellFormed (.operation span op left right)

/-- Whether a part can be repeated. -/
def Regex.isRepeatable : Regex → Bool
  | .empty _ | .flags .. => false
  | _ => true

/-- Whether a part holds no other parts. -/
def Regex.isLeaf : Regex → Bool
  | .repetition .. | .group .. | .alternation .. | .concat .. => false
  | _ => true

/-- Whether a part is neither a row of parts nor an alternation. -/
def Regex.isSingle : Regex → Bool
  | .alternation .. | .concat .. => false
  | _ => true

theorem Regex.isSingle_of_isLeaf {r : Regex} (h : r.isLeaf = true) : r.isSingle = true := by
  cases r with
  | alternation | concat => cases h
  | _ => rfl

theorem Regex.isAlternation_of_isSingle {r : Regex} (h : r.isSingle = true) :
    r.isAlternation = false := by
  cases r with
  | alternation => cases h
  | _ => rfl

inductive Regex.WellFormed : Regex → Prop
  | empty (span : Span) : WellFormed (.empty span)
  | flags (span : Span) (items : List FlagItem) : WellFormed (.flags span items)
  | literal (l : Literal) : WellFormed (.literal l)
  | dot (span : Span) : WellFormed (.dot span)
  | assertion (span : Span) (a : Assertion) : WellFormed (.assertion span a)
  | property {p : PropertyClass} (h : p.name.WellFormed) : WellFormed (.property p)
  | shorthand (s : ShorthandClass) : WellFormed (.shorthand s)
  | bracket {span : Span} {negated : Bool} {body : ClassBody} (h : body.WellFormed) :
      WellFormed (.bracket span negated body)
  | repetition {span : Span} {count : Count} {greedy : Bool} {body : Regex}
      (hc : count.isValid = true) (hb : body.isRepeatable = true) (h : WellFormed body) :
      WellFormed (.repetition span count greedy body)
  | group {span : Span} {kind : GroupKind} {body : Regex} (h : WellFormed body) :
      WellFormed (.group span kind body)
  | alternation {span : Span} {branches : List Regex} (hne : branches ≠ [])
      (ha : ∀ r ∈ branches, r.isAlternation = false) (h : ∀ r ∈ branches, WellFormed r) :
      WellFormed (.alternation span branches)
  | concat {span : Span} {parts : List Regex} (h : ∀ r ∈ parts, WellFormed r) :
      WellFormed (.concat span parts)

theorem ensures_fail {α : Type} {kind : FaultKind} {span : Span} {P : α → Prop} :
    Except.Ensures (fail kind span) P :=
  Except.ensures_error

/-- What holds where no fault is found holds of the results. -/
theorem ensures_unless {α β : Type} {c : Prop} [Decidable c] {kind : FaultKind} {span : Span}
    {f : β → Except Fault α} {x : Except Fault α} {P : α → Prop} (h : Except.Ensures x P) :
    Except.Ensures (if c then fail kind span >>= f else x) P := by
  split
  · exact ensures_fail
  · exact h

/-! ## 2. Properties -/

theorem textInBraces_ensures (blank : Bool) (fuel : Nat) {taken : List Char} (c : Cursor)
    (h : '}' ∉ taken) :
    Except.Ensures (textInBraces blank fuel taken c) fun r => '}' ∉ r.1 := by
  induction fuel generalizing taken c with
  | zero =>
    unfold textInBraces
    split
    · exact Except.ensures_ok (by rwa [List.mem_reverse])
    · rename_i heq _
      cases heq
    · exact ensures_fail
  | succ fuel ih =>
    unfold textInBraces
    split
    · exact Except.ensures_ok (by rwa [List.mem_reverse])
    · rename_i x hx heq hpeek
      cases heq
      apply ih
      rw [List.mem_cons]
      rintro (rfl | hmem)
      · exact hx rfl
      · exact h hmem
    · exact ensures_fail

theorem splitAtFirst?_subset {separator text before after : List Char}
    (h : splitAtFirst? separator text = some (before, after)) :
    before ⊆ text ∧ after ⊆ text := by
  induction text generalizing before with
  | nil => cases h
  | cons c cs ih =>
    rw [splitAtFirst?] at h
    split at h
    · cases h
      exact ⟨List.nil_subset _, List.drop_subset _ _⟩
    · obtain ⟨⟨before', after'⟩, hsplit, heq⟩ := Option.map_eq_some_iff.1 h
      cases heq
      obtain ⟨hb, ha⟩ := ih hsplit
      exact ⟨List.cons_subset_cons _ hb, fun x hx => List.mem_cons_of_mem _ (ha hx)⟩

theorem PropertyName.ofText_wellFormed {text : List Char} (h : '}' ∉ text) :
    (PropertyName.ofText text).WellFormed := by
  have value : ∀ {separator before after : List Char} (unequal : Bool),
      splitAtFirst? separator text = some (before, after) →
      (PropertyName.value unequal (.ofList before) (.ofList after)).WellFormed := by
    intro separator before after unequal hsplit
    obtain ⟨hb, ha⟩ := splitAtFirst?_subset hsplit
    left
    simp only [PropertyName.text, String.toList_append, String.toList_ofList]
    intro hmem
    rcases List.mem_append.1 hmem with hmem | hmem
    · rcases List.mem_append.1 hmem with hmem | hmem
      · exact h (hb hmem)
      · revert hmem
        decide
    · exact h (ha hmem)
  unfold PropertyName.ofText
  split
  · rename_i hsplit
    exact value true hsplit
  · split
    · rename_i hsplit
      rcases Option.or_eq_some_iff.1 hsplit with hcolon | ⟨-, hequals⟩
      · exact value false hcolon
      · exact value false hequals
    · left
      rwa [PropertyName.text, String.toList_ofList]

theorem propertyClass_ensures (blank : Bool) (start : Position) (negated : Bool) (c : Cursor) :
    Except.Ensures (propertyClass blank start negated c) fun r => r.1.name.WellFormed := by
  unfold propertyClass
  dsimp only
  split
  · exact ensures_fail
  · refine (textInBraces_ensures blank _ _ (List.not_mem_nil)).bind fun r hr => ?_
    exact Except.ensures_pure (PropertyName.ofText_wellFormed hr)
  · exact ensures_fail
  · rename_i x _ _ _
    refine Except.ensures_pure ?_
    -- Without braces the name is one character, and the closing brace is the one exception.
    by_cases hx : x = '}'
    · subst hx
      right
      rfl
    · left
      intro hmem
      have hone : x.toString.toList = [x] := String.toList_singleton ..
      rw [PropertyName.text, hone, List.mem_singleton] at hmem
      exact hx hmem.symm

/-! ## 3. Primitives -/

def Primitive.WellFormed : Primitive → Prop
  | property p => p.name.WellFormed
  | _ => True

theorem Primitive.toRegex_wellFormed {p : Primitive} (h : p.WellFormed) :
    p.toRegex.WellFormed ∧ p.toRegex.isLeaf = true := by
  cases p with
  | literal l => exact ⟨.literal l, rfl⟩
  | dot span => exact ⟨.dot span, rfl⟩
  | assertion span a => exact ⟨.assertion span a, rfl⟩
  | property p => exact ⟨.property h, rfl⟩
  | shorthand s => exact ⟨.shorthand s, rfl⟩

theorem escape_ensures (blank : Bool) (c : Cursor) :
    Except.Ensures (escape blank c) fun r => r.1.WellFormed := by
  unfold escape
  dsimp only
  split
  · exact ensures_fail
  split
  · exact ensures_fail
  split
  · exact (Except.ensures_true _).bind fun _ _ => Except.ensures_pure trivial
  split
  · exact (propertyClass_ensures _ _ _ _).bind fun _ h => Except.ensures_pure h
  split
  · exact Except.ensures_pure trivial
  split
  · exact Except.ensures_pure trivial
  split
  · exact Except.ensures_pure trivial
  split
  · exact Except.ensures_pure trivial
  split
  · split
    · refine (Except.ensures_true _).bind fun r _ => ?_
      split
      · exact Except.ensures_pure trivial
      · exact Except.ensures_pure trivial
    · exact Except.ensures_pure trivial
  · exact ensures_fail

theorem primitive_ensures (blank : Bool) (c : Cursor) (x : Char) :
    Except.Ensures (primitive blank c x) fun r => r.1.WellFormed := by
  unfold primitive
  split
  · exact escape_ensures blank c
  · exact Except.ensures_ok trivial
  · exact Except.ensures_ok trivial
  · exact Except.ensures_ok trivial
  · exact Except.ensures_ok trivial

/-! ## 4. Classes -/

theorem classPrimitive_ensures (blank : Bool) (c : Cursor) (x : Char) :
    Except.Ensures (classPrimitive blank c x) fun r => r.1.WellFormed := by
  unfold classPrimitive
  split
  · exact escape_ensures blank c
  · exact Except.ensures_ok trivial

theorem Primitive.toMember_ensures {p : Primitive} (h : p.WellFormed) :
    Except.Ensures p.toMember ClassBody.WellFormed := by
  cases p with
  | literal l => exact Except.ensures_ok (.literal l)
  | property p => exact Except.ensures_ok (.property h)
  | shorthand s => exact Except.ensures_ok (.shorthand s)
  | dot span => exact ensures_fail
  | assertion span a => exact ensures_fail

theorem unclosed_ensures {α : Type} {P : α → Prop} (frames : List ClassFrame) :
    Except.Ensures (unclosed frames) P := by
  induction frames with
  | nil => exact ensures_fail
  | cons frame frames ih =>
    cases frame with
    | bracket outer opening negated => exact ensures_fail
    | operation op left => exact ih

/-- A range is read only if its ends are in order. -/
theorem classRange_ensures (blank : Bool) (frames : List ClassFrame) (c : Cursor) (x : Char) :
    Except.Ensures (classRange blank frames c x) fun r => r.1.WellFormed := by
  unfold classRange
  refine (classPrimitive_ensures blank c x).bind fun r hr => ?_
  dsimp only
  split
  · exact (unclosed_ensures (P := fun _ => False) frames).bind fun _ h => h.elim
  split
  · exact (Primitive.toMember_ensures hr).bind fun _ hb => Except.ensures_pure hb
  split
  · exact unclosed_ensures frames
  refine (Except.ensures_true _).bind fun last _ => ?_
  refine (Except.ensures_true _).bind fun lo _ => (Except.ensures_true _).bind fun hi _ => ?_
  split
  · exact ensures_fail
  · rename_i hlt
    exact Except.ensures_pure (.range (not_lt.1 hlt))

def Members.WellFormed (m : Members) : Prop := ∀ b ∈ m.taken, b.WellFormed

def ClassFrame.WellFormed : ClassFrame → Prop
  | bracket outer _ _ => outer.WellFormed
  | operation _ left => left.WellFormed

theorem Members.none_wellFormed (c : Cursor) : (Members.none c).WellFormed :=
  List.forall_mem_nil _

theorem Members.WellFormed.push {m : Members} {b : ClassBody} (hm : m.WellFormed)
    (hb : b.WellFormed) : (m.push b).WellFormed :=
  List.forall_mem_cons.2 ⟨hb, hm⟩

theorem Members.WellFormed.body {m : Members} (hm : m.WellFormed) : m.body.WellFormed := by
  unfold Members.body
  split
  · exact .empty _
  · rename_i b heq
    exact hm b (by rw [heq]; exact List.mem_singleton_self b)
  · exact .union fun b hb => hm b (List.mem_reverse.1 hb)

theorem closeOperation_wellFormed {right : ClassBody} {frames : List ClassFrame}
    (hr : right.WellFormed) (hf : ∀ f ∈ frames, f.WellFormed) :
    (closeOperation right frames).1.WellFormed ∧
      ∀ f ∈ (closeOperation right frames).2, f.WellFormed := by
  unfold closeOperation
  split
  · rename_i op left frames
    obtain ⟨hl, hrest⟩ := List.forall_mem_cons.1 hf
    exact ⟨.operation hl hr, hrest⟩
  · exact ⟨hr, hf⟩

theorem leadingHyphens_ensures (blank : Bool) (start : Position) (fuel : Nat) {m : Members}
    (c : Cursor) (hm : m.WellFormed) :
    Except.Ensures (leadingHyphens blank start fuel m c) fun r => r.1.WellFormed := by
  induction fuel generalizing m c with
  | zero => exact Except.ensures_ok hm
  | succ fuel ih =>
    unfold leadingHyphens
    split
    · rename_i heq _
      cases heq
      dsimp only
      split
      · exact ensures_fail
      · exact ih _ (hm.push (.literal _))
    · exact Except.ensures_ok hm

theorem openBracket_ensures (blank : Bool) (c : Cursor) :
    Except.Ensures (openBracket blank c) fun r => r.2.2.1.WellFormed := by
  unfold openBracket
  dsimp only
  refine ensures_unless (ensures_unless ?_)
  refine (leadingHyphens_ensures blank _ _ _ (Members.none_wellFormed _)).bind fun r hr => ?_
  split
  · exact ensures_unless (Except.ensures_pure (hr.push (.literal _)))
  · exact Except.ensures_pure hr

theorem asciiClass?_wellFormed {c last : Cursor} {b : ClassBody}
    (h : asciiClass? c = some (b, last)) : b.WellFormed := by
  unfold asciiClass? at h
  obtain ⟨inner, -, h⟩ := Option.bind_eq_some_iff.1 h
  obtain ⟨kind, -, h⟩ := Option.bind_eq_some_iff.1 h
  obtain ⟨after, -, h⟩ := Option.bind_eq_some_iff.1 h
  cases h
  exact .ascii _ _ _

/-- Whatever is open around them, well-formed members make a well-formed class. -/
theorem classMembers_ensures (blank : Bool) (fuel : Nat) {frames : List ClassFrame} {m : Members}
    (c : Cursor) (hf : ∀ f ∈ frames, f.WellFormed) (hm : m.WellFormed) :
    Except.Ensures (classMembers blank fuel frames m c)
      fun r => r.1.WellFormed ∧ r.1.isLeaf = true := by
  induction fuel generalizing frames m c with
  | zero => exact unclosed_ensures frames
  | succ fuel ih =>
    -- A closing bracket and an operator both close what operation is open.
    have hclose := closeOperation_wellFormed hm.body hf
    unfold classMembers
    dsimp only
    split
    · rename_i heq _
      cases heq
      split
      · rename_i body outer opening negated rest heq
        rw [heq] at hclose
        obtain ⟨hbody, hframes⟩ := hclose
        split
        · exact Except.ensures_ok ⟨.bracket hbody, rfl⟩
        · obtain ⟨houter, hrest⟩ := List.forall_mem_cons.1 hframes
          have houter : outer.WellFormed := houter
          exact ih _ hrest (houter.push (.nested hbody))
      · exact unclosed_ensures frames
    · rename_i x _ heq _
      cases heq
      split
      · rename_i hmember
        split at hmember
        · exact ih _ hf (hm.push (asciiClass?_wellFormed hmember))
        · cases hmember
      · exact ih _ (List.forall_mem_cons.2 hclose) (Members.none_wellFormed _)
      · split
        · refine (openBracket_ensures blank _).bind fun r hr => ih _ ?_ hr
          exact List.forall_mem_cons.2 ⟨hm, hf⟩
        · exact (classRange_ensures blank frames _ x).bind fun r hr => ih _ hf (hm.push hr)
    · exact unclosed_ensures frames

theorem bracketClass_ensures (blank : Bool) (c : Cursor) :
    Except.Ensures (bracketClass blank c) fun r => r.1.WellFormed ∧ r.1.isLeaf = true := by
  refine (openBracket_ensures blank c).bind fun r hr => ?_
  refine classMembers_ensures blank _ _ ?_ hr
  intro f h
  rw [List.mem_singleton] at h
  subst h
  exact Members.none_wellFormed c

/-! ## 5. Patterns -/

/-- What the reader keeps: the leaves have it, and so does what is put together from parts that have
it.  A repetition takes a single part. -/
structure Kept (P : Regex → Prop) : Prop where
  leaf : ∀ {r : Regex}, r.WellFormed → r.isLeaf = true → P r
  repetition : ∀ {span : Span} {count : Count} {greedy : Bool} {body : Regex},
    count.isValid = true → body.isRepeatable = true → body.isSingle = true → P body →
      P (.repetition span count greedy body)
  group : ∀ {span : Span} {kind : GroupKind} {body : Regex}, P body → P (.group span kind body)
  alternation : ∀ {span : Span} {branches : List Regex}, branches ≠ [] →
    (∀ r ∈ branches, P r ∧ r.isAlternation = false) → P (.alternation span branches)
  concat : ∀ {span : Span} {parts : List Regex}, (∀ r ∈ parts, P r) → P (.concat span parts)

section Keeping

variable {P : Regex → Prop}

def Sequence.Holds (P : Regex → Prop) (s : Sequence) : Prop :=
  ∀ r ∈ s.taken, P r ∧ r.isSingle = true

def Frame.Holds (P : Regex → Prop) : Frame → Prop
  | group before _ _ _ => before.Holds P
  | alternation _ branches => ∀ r ∈ branches, P r ∧ r.isAlternation = false

/-- What is read so far and what is open around it has the property. -/
structure State.Holds (P : Regex → Prop) (s : State) : Prop where
  frames : ∀ f ∈ s.frames, f.Holds P
  parts : s.parts.Holds P

theorem Sequence.nil_holds (start : Position) : Sequence.Holds P ⟨start, []⟩ :=
  List.forall_mem_nil _

theorem Sequence.Holds.push {s : Sequence} {r : Regex} (hs : s.Holds P) (hr : P r)
    (h : r.isSingle = true) : (s.push r).Holds P :=
  List.forall_mem_cons.2 ⟨⟨hr, h⟩, hs⟩

theorem Sequence.Holds.finish (hP : Kept P) {s : Sequence} (hs : s.Holds P) (stop : Position) :
    P (s.finish stop) ∧ (s.finish stop).isAlternation = false := by
  unfold Sequence.finish
  split
  · exact ⟨hP.leaf (.empty _) rfl, rfl⟩
  · rename_i r heq
    obtain ⟨hr, hsingle⟩ := hs r (by rw [heq]; exact List.mem_singleton_self r)
    exact ⟨hr, Regex.isAlternation_of_isSingle hsingle⟩
  · exact ⟨hP.concat fun r hr => (hs r (List.mem_reverse.1 hr)).1, rfl⟩

/-- Branches, the last one first, make an alternation. -/
theorem Kept.branches (hP : Kept P) {span : Span} {body : Regex} {branches : List Regex}
    (hb : P body ∧ body.isAlternation = false)
    (h : ∀ r ∈ branches, P r ∧ r.isAlternation = false) :
    P (.alternation span (body :: branches).reverse) := by
  have hcons : ∀ r ∈ body :: branches, P r ∧ r.isAlternation = false :=
    List.forall_mem_cons.2 ⟨hb, h⟩
  apply hP.alternation
  · rw [Ne, List.reverse_eq_nil_iff]
    exact List.cons_ne_nil _ _
  · intro r hr
    exact hcons r (List.mem_reverse.1 hr)

theorem State.Holds.open {s : State} (hs : s.Holds P) (opening : Span) (kind : GroupKind)
    (blank : Bool) (c : Cursor) : (s.push opening kind blank c).Holds P where
  frames := List.forall_mem_cons.2 ⟨hs.parts, hs.frames⟩
  parts := Sequence.nil_holds _

theorem openGroup_ensures (hP : Kept P) {s : State} (hs : s.Holds P) :
    Except.Ensures (openGroup s) (State.Holds P) := by
  unfold openGroup
  dsimp only
  split
  · exact ensures_fail
  split
  · refine (Except.ensures_true _).bind fun r _ => Except.ensures_pure ?_
    have hnamed : State.Holds P { s with names := (r.1, r.2.1) :: s.names } :=
      ⟨hs.frames, hs.parts⟩
    exact hnamed.open _ _ _ _
  split
  · exact Except.ensures_pure (hs.open _ _ _ _)
  · refine ensures_unless ((Except.ensures_true _).bind fun r _ => ?_)
    split
    · exact Except.ensures_pure (hs.open _ _ _ _)
    · have hflags : P (.flags ⟨s.cursor.here.start, r.2.bump.pos⟩ r.1) :=
        hP.leaf (.flags _ _) rfl
      exact ensures_unless (Except.ensures_pure ⟨hs.frames, hs.parts.push hflags rfl⟩)

theorem closeGroup_ensures (hP : Kept P) {s : State} (hs : s.Holds P) :
    Except.Ensures (closeGroup s) (State.Holds P) := by
  obtain ⟨hbody, ha⟩ := hs.parts.finish hP s.cursor.pos
  have hframes := hs.frames
  unfold closeGroup
  dsimp only
  split
  · rename_i before opening kind blank frames heq
    rw [heq] at hframes
    obtain ⟨hgroup, hrest⟩ := List.forall_mem_cons.1 hframes
    have hbefore : before.Holds P := hgroup
    exact Except.ensures_ok ⟨hrest, hbefore.push (hP.group hbody) rfl⟩
  · rename_i start branches before opening kind blank frames heq
    rw [heq] at hframes
    obtain ⟨hbranches, hframes⟩ := List.forall_mem_cons.1 hframes
    obtain ⟨hgroup, hrest⟩ := List.forall_mem_cons.1 hframes
    have hbefore : before.Holds P := hgroup
    refine Except.ensures_ok ⟨hrest, ?_⟩
    exact hbefore.push (hP.group (hP.branches ⟨hbody, ha⟩ hbranches)) rfl
  · exact ensures_fail

theorem nextBranch_holds (hP : Kept P) {s : State} (hs : s.Holds P) : (nextBranch s).Holds P := by
  have hbody := hs.parts.finish hP s.cursor.pos
  refine ⟨?_, Sequence.nil_holds _⟩
  have hframes := hs.frames
  unfold nextBranch
  dsimp only
  split
  · rename_i start branches frames heq
    rw [heq] at hframes
    obtain ⟨hbranches, hrest⟩ := List.forall_mem_cons.1 hframes
    have hmore : Frame.Holds P (.alternation start (s.parts.finish s.cursor.pos :: branches)) :=
      List.forall_mem_cons.2 ⟨hbody, hbranches⟩
    exact List.forall_mem_cons.2 ⟨hmore, hrest⟩
  · have hfirst : Frame.Holds P (.alternation s.parts.start [s.parts.finish s.cursor.pos]) :=
      List.forall_mem_singleton.2 hbody
    exact List.forall_mem_cons.2 ⟨hfirst, hframes⟩

theorem finish_ensures (hP : Kept P) {s : State} (hs : s.Holds P) :
    Except.Ensures (finish s) P := by
  have hbody := hs.parts.finish hP s.cursor.pos
  have hframes := hs.frames
  unfold finish
  dsimp only
  split
  · exact Except.ensures_ok hbody.1
  · rename_i start branches heq
    rw [heq] at hframes
    exact Except.ensures_ok (hP.branches hbody (List.forall_mem_cons.1 hframes).1)
  · exact ensures_fail
  · exact ensures_fail
  · exact ensures_fail

/-- A part is taken away to be repeated only if it can be. -/
theorem operand_ensures {s : State} (hs : s.Holds P) :
    Except.Ensures (operand s) fun r =>
      (P r.1 ∧ r.1.isSingle = true) ∧ r.1.isRepeatable = true ∧ r.2.Holds P := by
  have hparts := hs.parts
  unfold Sequence.Holds at hparts
  unfold operand
  split
  · exact ensures_fail
  · exact ensures_fail
  · exact ensures_fail
  · rename_i r rest hempty hflags heq
    rw [heq] at hparts
    obtain ⟨hr, hrest⟩ := List.forall_mem_cons.1 hparts
    refine Except.ensures_ok ⟨hr, ?_, hrest⟩
    -- The two parts that cannot be repeated were refused above.
    cases r with
    | empty span => exact absurd rfl (hempty span)
    | flags span items => exact absurd rfl (hflags span items)
    | _ => rfl

theorem repeated_holds (hP : Kept P) {s : State} (hs : s.Holds P) {body : Regex}
    {before : Sequence} {count : Count} (hbody : P body ∧ body.isSingle = true)
    (hr : body.isRepeatable = true) (hbefore : before.Holds P) (hcount : count.isValid = true)
    (c : Cursor) : (repeated s body before count c).Holds P :=
  ⟨hs.frames, hbefore.push (hP.repetition hcount hr hbody.2 hbody.1) rfl⟩

theorem simpleRepetition_ensures (hP : Kept P) {s : State} (hs : s.Holds P) {count : Count}
    (hcount : count.isValid = true) :
    Except.Ensures (simpleRepetition s count) (State.Holds P) := by
  refine (operand_ensures hs).bind fun r hr => ?_
  exact Except.ensures_pure (repeated_holds hP hs hr.1 hr.2.1 hr.2.2 hcount _)

theorem countedRepetition_ensures (hP : Kept P) {s : State} (hs : s.Holds P) :
    Except.Ensures (countedRepetition s) (State.Holds P) := by
  unfold countedRepetition
  refine (operand_ensures hs).bind fun r hr => ?_
  dsimp only
  refine ensures_unless ((Except.ensures_true _).bind fun counted _ => ensures_unless ?_)
  split
  · exact ensures_fail
  · rename_i hcount
    rw [Bool.not_eq_true', Bool.not_eq_false] at hcount
    exact Except.ensures_pure (repeated_holds hP hs hr.1 hr.2.1 hr.2.2 hcount _)

/-- Each step keeps what holds of what is read. -/
theorem step_ensures (hP : Kept P) {s : State} (hs : s.Holds P) (x : Char) :
    Except.Ensures (step s x) (State.Holds P) := by
  have hpush : ∀ {r : Regex} {c : Cursor}, r.WellFormed → r.isLeaf = true →
      State.Holds P { s with parts := s.parts.push r, cursor := c } := by
    intro r c hr hleaf
    exact ⟨hs.frames, hs.parts.push (hP.leaf hr hleaf) (Regex.isSingle_of_isLeaf hleaf)⟩
  unfold step
  split
  · exact openGroup_ensures hP hs
  · exact closeGroup_ensures hP hs
  · exact Except.ensures_ok (nextBranch_holds hP hs)
  · exact (bracketClass_ensures _ _).bind fun r hr => Except.ensures_pure (hpush hr.1 hr.2)
  · exact simpleRepetition_ensures hP hs rfl
  · exact simpleRepetition_ensures hP hs rfl
  · exact simpleRepetition_ensures hP hs rfl
  · exact countedRepetition_ensures hP hs
  · refine (primitive_ensures _ _ _).bind fun r hr => Except.ensures_pure ?_
    have hr := Primitive.toRegex_wellFormed hr
    exact hpush hr.1 hr.2

theorem parseFrom_ensures (hP : Kept P) (fuel : Nat) {s : State} (hs : s.Holds P) :
    Except.Ensures (parseFrom fuel s) P := by
  have skip : ∀ {s : State}, s.Holds P →
      State.Holds P { s with cursor := s.cursor.skipBlanks s.blank } :=
    fun h => ⟨h.frames, h.parts⟩
  induction fuel generalizing s with
  | zero => exact finish_ensures hP (skip hs)
  | succ fuel ih =>
    unfold parseFrom
    dsimp only
    split
    · rename_i heq _
      cases heq
      exact (step_ensures hP (skip hs) _).bind fun _ h => ih h
    · exact finish_ensures hP (skip hs)

/-- What the reader keeps holds of the tree of every pattern. -/
theorem Kept.parse (hP : Kept P) {pattern : String} {r : Regex} (h : parse pattern = .ok r) :
    P r := by
  obtain ⟨r', hr', h⟩ := Except.bind_eq_ok.1 h
  obtain ⟨-, -, h⟩ := Except.bind_eq_ok.1 h
  rw [Except.pure_eq_ok] at h
  subst h
  have start : State.Holds P ⟨[], ⟨(Cursor.ofPattern pattern).pos, []⟩, false, [],
      Cursor.ofPattern pattern⟩ :=
    ⟨List.forall_mem_nil _, Sequence.nil_holds _⟩
  exact parseFrom_ensures hP _ start r' hr'

end Keeping

theorem Regex.kept_wellFormed : Kept Regex.WellFormed where
  leaf hw _ := hw
  repetition hc hb _ h := .repetition hc hb h
  group h := .group h
  alternation hne h := .alternation hne (fun r hr => (h r hr).2) fun r hr => (h r hr).1
  concat h := .concat h

/-- The tree of a pattern is well-formed. -/
theorem parse_wellFormed {pattern : String} {r : Regex} (h : parse pattern = .ok r) :
    r.WellFormed :=
  Regex.kept_wellFormed.parse h

end ProtoSchema.Pattern
