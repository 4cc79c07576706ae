import ProtoSchema.Proofs.Generation.Leaves
import ProtoSchema.Proofs.Pattern.Denotation

/-!
# Rules on strings

The patterns that are written for literal texts find these texts: anywhere, at the start, at the end,
or at the start and the end at once.  With them the schema of a string asks for all its rules.
-/

namespace ProtoSchema

open Pattern Pattern.Grammar

namespace Generation

/-! ## 1. A start and an end -/

/-- A text with a start and an end has something between them, or its start ends with what its end
begins with, and they share this overlap. -/
theorem starts_and_ends_iff {α : Type} {first last t : List α} :
    first <+: t ∧ last <:+ t ↔ (∃ mid, t = first ++ (mid ++ last)) ∨
      ∃ k < last.length, last.take (k + 1) <:+ first ∧ t = first ++ last.drop (k + 1) := by
  constructor
  · rintro ⟨⟨rest, hfirst⟩, front, hlast⟩
    rcases List.append_eq_append_iff.1 (hfirst.trans hlast.symm) with
      ⟨mid, -, hrest⟩ | ⟨overlap, hfront, hend⟩
    · exact .inl ⟨mid, by rw [← hfirst, hrest]⟩
    · cases overlap with
      | nil => exact .inl ⟨[], by rw [← hfirst, hend]; rfl⟩
      | cons a overlap =>
        have htake : last.take (overlap.length + 1) = a :: overlap := by
          rw [hend]
          exact List.take_left' rfl
        have hdrop : last.drop (overlap.length + 1) = rest := by
          rw [hend]
          exact List.drop_left' rfl
        refine .inr ⟨overlap.length, ?_, ?_, ?_⟩
        · rw [hend, List.length_append, List.length_cons]
          omega
        · rw [htake]
          exact ⟨front, hfront.symm⟩
        · rw [hdrop, hfirst]
  · rintro (⟨mid, rfl⟩ | ⟨k, hk, ⟨front, rfl⟩, rfl⟩)
    · exact ⟨List.prefix_append _ _, (List.suffix_append _ _).trans (List.suffix_append _ _)⟩
    · refine ⟨List.prefix_append _ _, ?_⟩
      rw [List.append_assoc, List.take_append_drop]
      exact List.suffix_append _ _

/-- The texts that start and end by an overlap. -/
def overlapTexts (first last : List Char) : List (List Char) :=
  (List.range last.length).filterMap fun k =>
    if (last.take (k + 1)).isSuffixOf first then some (first ++ last.drop (k + 1)) else none

theorem mem_overlapTexts {first last t : List Char} :
    t ∈ overlapTexts first last ↔
      ∃ k < last.length, last.take (k + 1) <:+ first ∧ t = first ++ last.drop (k + 1) := by
  unfold overlapTexts
  rw [List.mem_filterMap]
  refine exists_congr fun k => and_congr List.mem_range ?_
  rw [Option.ite_none_right_eq_some, List.isSuffixOf_iff_suffix, Option.some.injEq, eq_comm (a := t)]

/-- The pattern of the texts in which the end comes after the start. -/
def apartPattern (first last : List Char) : Ecma :=
  .concat [patternOf first, .repetition .any false .anyChar, patternOf last]

def edgesBody (first last : List Char) : Ecma :=
  let overlaps := (overlapTexts first last).map patternOf
  if overlaps.isEmpty then apartPattern first last
  else .group false (.alternation (apartPattern first last :: overlaps))

theorem edgesPattern_eq (first last : List Char) : edgesPattern first last =
    .concat [.assertion .start, edgesBody first last, .assertion .stop] := by
  have hoverlaps : (List.range last.length).filterMap (fun k =>
      if (last.take (k + 1)).isSuffixOf first then some (patternOf (first ++ last.drop (k + 1)))
      else none) = (overlapTexts first last).map patternOf := by
    rw [overlapTexts, List.map_filterMap]
    refine List.filterMap_congr fun k _ => ?_
    split <;> rfl
  unfold edgesPattern
  rw [hoverlaps]
  rfl

/-! ## 2. What the pattern selects -/

/-- From the start to the end of a text. -/
theorem text_whole_iff {w u : List Nat} : Spans.text w u 0 u.length ↔ u = w := by
  constructor
  · rintro ⟨hstart, hlength⟩
    rw [Nat.zero_add] at hlength
    exact (hstart.eq_of_length_le hlength.le).symm
  · rintro rfl
    exact ⟨List.prefix_rfl, (Nat.zero_add _).symm⟩

def apartSpans (a b : List Nat) : Spans := .row [.text a, .anything, .text b]

theorem apartSpans_whole_iff {a b u : List Nat} :
    apartSpans a b u 0 u.length ↔ ∃ mid, u = a ++ (mid ++ b) := by
  constructor
  · rintro ⟨_, ⟨ha, rfl⟩, j, ⟨hij, -⟩, _, ⟨hb, rfl⟩, hend⟩
    obtain ⟨rest, rfl⟩ : a <+: u := ha
    have hj : a.length ≤ j := (Nat.zero_add _).ge.trans hij
    obtain ⟨k, rfl⟩ := Nat.exists_eq_add_of_le hj
    have hlength : a.length + k + b.length = (a ++ rest).length := hend
    rw [List.drop_length_add_append] at hb
    have hdrop : b = rest.drop k := by
      apply hb.eq_of_length_le
      rw [List.length_append] at hlength
      rw [List.length_drop]
      omega
    exact ⟨rest.take k, by rw [hdrop, List.take_append_drop]⟩
  · rintro ⟨mid, rfl⟩
    refine ⟨_, ⟨List.prefix_append _ _, rfl⟩, a.length + mid.length, ⟨by omega, .inl ?_⟩, _,
      ⟨?_, rfl⟩, ?_⟩
    · simp only [List.length_append]
      omega
    · rw [← List.append_assoc, ← List.length_append, List.drop_left]
    · change _ = _
      simp only [List.length_append]
      omega

/-- The overlaps are branches of their own, after the one for a start and an end apart. -/
def edgeSpans (m : Mode) (first last : List Char) : List Spans :=
  apartSpans (m.encodeText first) (m.encodeText last) ::
    (overlapTexts first last).map fun w => .text (m.encodeText w)

theorem denotes_edgesBody (m : Mode) (first last : List Char) :
    (edgesBody first last).Denotes m (.oneOf (edgeSpans m first last)) := by
  have hapart : (apartPattern first last).Denotes m
      (apartSpans (m.encodeText first) (m.encodeText last)) :=
    Ecma.denotes_concat (.cons (Ecma.denotes_text m first)
      (.cons (Ecma.denotes_anything m) (.cons (Ecma.denotes_text m last) .nil)))
  have hbranches : List.Forall₂ (Ecma.Denotes m)
      (apartPattern first last :: (overlapTexts first last).map patternOf)
      (edgeSpans m first last) := by
    refine .cons hapart ?_
    rw [List.forall₂_map_left_iff, List.forall₂_map_right_iff]
    exact List.forall₂_same.2 fun w _ => Ecma.denotes_text m w
  unfold edgesBody
  by_cases hnil : overlapTexts first last = []
  · -- One branch needs no group.
    have hone : Spans.oneOf (edgeSpans m first last) =
        apartSpans (m.encodeText first) (m.encodeText last) := by
      funext u i j
      simp [Spans.oneOf, edgeSpans, hnil]
    rw [hone, hnil]
    exact hapart
  · dsimp only
    rw [if_neg (by simpa using hnil)]
    exact Ecma.denotes_group hbranches (List.cons_ne_nil _ _)

theorem edgeSpans_whole_iff (m : Mode) {first last t : List Char} :
    Spans.oneOf (edgeSpans m first last) (m.encodeText t) 0 (m.encodeText t).length ↔
      first <+: t ∧ last <:+ t := by
  unfold Spans.oneOf edgeSpans
  rw [List.exists_mem_cons_iff, apartSpans_whole_iff]
  simp only [List.mem_map, exists_exists_and_eq_and, text_whole_iff, m.encodeText_inj]
  constructor
  · rintro (⟨mid, hmid⟩ | ⟨w, hw, rfl⟩)
    · rw [← m.encodeText_isPrefix_iff, ← m.encodeText_isSuffix_iff, hmid]
      exact ⟨List.prefix_append _ _, (List.suffix_append _ _).trans (List.suffix_append _ _)⟩
    · exact starts_and_ends_iff.2 (.inr (mem_overlapTexts.1 hw))
  · intro h
    rcases starts_and_ends_iff.1 h with ⟨mid, rfl⟩ | hoverlap
    · exact .inl ⟨m.encodeText mid, by rw [m.encodeText_append, m.encodeText_append]⟩
    · exact .inr ⟨t, mem_overlapTexts.2 hoverlap, rfl⟩

theorem selects_edges (m : Mode) (first last : List Char) :
    (edgesPattern first last).Selects m fun t => first <+: t ∧ last <:+ t := by
  rw [edgesPattern_eq]
  refine ⟨_, Ecma.denotes_concat (.cons (Ecma.denotes_assertion m .start)
    (.cons (denotes_edgesBody m first last) (.cons (Ecma.denotes_assertion m .stop) .nil))),
    fun t => ?_⟩
  refine Iff.trans ?_ (edgeSpans_whole_iff m)
  constructor
  · rintro ⟨_, _, _, ⟨rfl, rfl⟩, _, hbody, _, ⟨rfl, rfl⟩, rfl⟩
    exact hbody
  · exact fun hbody => ⟨0, _, 0, ⟨rfl, rfl⟩, _, hbody, _, ⟨rfl, rfl⟩, rfl⟩

/-- A validator finds the pattern in the texts that start and end so, whichever way it reads. -/
theorem finds_edgesPattern (m : Mode) (first last t : List Char) :
    IsPattern m (m.source (edgesPattern first last).text.toList) ∧
      (m.Finds (edgesPattern first last).text.toList t ↔ first <+: t ∧ last <:+ t) := by
  obtain ⟨tree, hread, -, hmatch⟩ := (selects_edges m first last).reads
  exact ⟨⟨tree, hread⟩, (m.finds_iff hread).trans (hmatch t)⟩

example : (edgesPattern ['a', 'b'] ['b', '.']).text = "^(?:ab[\\s\\S]*b\\.|ab\\.)$" := by rfl

end Generation

/-! ## 3. Dialects that read patterns by the grammar -/

/-- The dialect reads patterns as a mode of the grammar does.  Property classes are left to it. -/
def Dialect.Follows (m : Mode) (δ : Dialect) : Prop :=
  ∀ p tree, Reads m false .disjunction (m.source p.toList) [] tree → tree.isPropertyFree = true →
    ∀ text : String, δ.Matches p text ↔ ∃ i j, tree.Matches (m.encodeText text.toList) i j

theorem Dialect.Follows.matches_iff {m : Mode} {δ : Dialect} (hδ : δ.Follows m) {r : Ecma}
    {P : List Char → Prop} (h : r.Selects m P) {text : String} :
    δ.Matches r.text text ↔ P text.toList := by
  obtain ⟨tree, hread, hfree, hmatch⟩ := h.reads
  exact (hδ _ tree hread hfree text).trans (hmatch _)

/-- The dialect of a mode that knows no formats. -/
def formatless (m : Mode) : Dialect where
  Matches := fun p text => m.Finds p.toList text.toList
  HasFormat := fun _ _ => False

theorem formatless_follows (m : Mode) : (formatless m).Follows m :=
  fun _ _ hread _ _ => m.finds_iff hread

/-! ## 4. All rules together -/

/-- The formats of a shape. -/
def StringShape.formats : StringShape → List StringFormat
  | .email => [.email]
  | .hostname => [.hostname]
  | .ip => [.ipv4, .ipv6]
  | .ipv4 => [.ipv4]
  | .ipv6 => [.ipv6]
  | .uri => [.uri]
  | .uriRef => [.uriReference]
  | .address => [.hostname, .ipv4, .ipv6]

/-- The text satisfies every rule that is given. -/
structure StringRules.Satisfied (δ : Dialect) (r : StringRules) (text : String) : Prop where
  equals : ∀ s ∈ r.equals, text = s
  allow : r.allow = [] ∨ text ∈ r.allow
  deny : text ∉ r.deny
  length : ∀ k ∈ r.length, text.length = k
  minLength : ∀ k ∈ r.minLength, k ≤ text.length
  maxLength : ∀ k ∈ r.maxLength, text.length ≤ k
  contains : ∀ s ∈ r.contains, s.toList <:+: text.toList
  excludes : ∀ s ∈ r.excludes, ¬ s.toList <:+: text.toList
  startsWith : ∀ s ∈ r.startsWith, s.toList <+: text.toList
  endsWith : ∀ s ∈ r.endsWith, s.toList <:+ text.toList
  pattern : ∀ p ∈ r.pattern, ∀ q, Pattern.convert p = .ok q → δ.Matches q.text text
  shape : ∀ shape ∈ r.wellKnown, ∃ f ∈ shape.formats, δ.HasFormat f text

/-- The rules with the exact length as a bound on each side that has no bound of its own. -/
def StringRules.bounded (r : StringRules) : StringRules :=
  { r with
    length := none
    minLength := r.minLength <|> r.length
    maxLength := r.maxLength <|> r.length }

namespace Generation

variable {m : Mode} {δ : Dialect} {r : StringRules} {text : String}

theorem matches_patternOf (hδ : δ.Follows m) (s : String) :
    δ.Matches (patternOf s.toList).text text ↔ s.toList <:+: text.toList :=
  hδ.matches_iff (Ecma.selects_text m s.toList)

theorem matches_edges (hδ : δ.Follows m) {first last : Option String} :
    (∀ q ∈ edges? first last, δ.Matches q.text text) ↔
      (∀ s ∈ first, s.toList <+: text.toList) ∧ ∀ s ∈ last, s.toList <:+ text.toList := by
  cases first <;> cases last <;>
    simp only [edges?, Option.mem_def, Option.some.injEq, reduceCtorEq, forall_eq', false_imp_iff,
      implies_true, true_and, and_true]
  case none.some last => exact hδ.matches_iff (Ecma.selects_stop m last.toList)
  case some.none first => exact hδ.matches_iff (Ecma.selects_start m first.toList)
  case some.some first last => exact hδ.matches_iff (selects_edges m first.toList last.toList)

/-- The keywords and operands say what the rules do, with the exact length as a bound. -/
theorem admits_iff_bounded (hδ : δ.Follows m) : r.Admits δ text ↔ r.bounded.Satisfied δ text := by
  have hshape : ∀ shape : StringShape,
      (formatOf? shape).toList ++ formatsOf shape = shape.formats := by
    intro shape
    cases shape <;> rfl
  constructor
  · intro h
    have hedges := (matches_edges hδ).1 h.edges
    exact {
      equals := h.equals
      allow := h.allow
      deny := h.deny
      length := nofun
      minLength := h.minLength
      maxLength := h.maxLength
      contains := fun s hs => (matches_patternOf hδ s).1 (h.contains s hs)
      excludes := fun s hs hinside => h.excludes s hs ((matches_patternOf hδ s).2 hinside)
      startsWith := hedges.1
      endsWith := hedges.2
      pattern := h.pattern
      shape := fun shape hs => hshape shape ▸ h.shape shape hs }
  · intro h
    exact {
      equals := h.equals
      allow := h.allow
      deny := h.deny
      minLength := h.minLength
      maxLength := h.maxLength
      contains := fun s hs => (matches_patternOf hδ s).2 (h.contains s hs)
      excludes := fun s hs hmatch => h.excludes s hs ((matches_patternOf hδ s).1 hmatch)
      pattern := h.pattern
      edges := (matches_edges hδ).2 ⟨h.startsWith, h.endsWith⟩
      shape := fun shape hs => (hshape shape).symm ▸ h.shape shape hs }

/-- What the bounds leave out is the exact length, where a bound stands beside it. -/
theorem satisfied_iff_bounded :
    r.Satisfied δ text ↔ r.bounded.Satisfied δ text ∧ ∀ k ∈ r.length, text.length = k := by
  have hor : ∀ {k : Nat} {bound : Option Nat},
      k ∈ (bound <|> r.length) ↔ k ∈ bound ∨ bound = none ∧ k ∈ r.length := by
    intro k bound
    cases bound <;> simp
  constructor
  · intro h
    refine ⟨{ h with length := nofun, minLength := ?_, maxLength := ?_ }, h.length⟩
    · intro k hk
      rcases hor.1 hk with hk | ⟨-, hk⟩
      · exact h.minLength k hk
      · exact (h.length k hk).ge
    · intro k hk
      rcases hor.1 hk with hk | ⟨-, hk⟩
      · exact h.maxLength k hk
      · exact (h.length k hk).le
  · rintro ⟨h, hlength⟩
    exact {
      h with
      length := hlength
      minLength := fun k hk => h.minLength k (hor.2 (.inl hk))
      maxLength := fun k hk => h.maxLength k (hor.2 (.inl hk)) }

/-- Without a bound of its own beside it, an exact length is two bounds. -/
theorem satisfied_iff_bounded_of_alone
    (halone : r.length = none ∨ r.minLength = none ∧ r.maxLength = none) :
    r.Satisfied δ text ↔ r.bounded.Satisfied δ text := by
  rw [satisfied_iff_bounded]
  refine and_iff_left_of_imp fun h k hk => ?_
  rcases halone with hnone | ⟨hmin, hmax⟩
  · rw [hnone] at hk
    cases hk
  · have hge : k ≤ text.length := h.minLength k (by simpa [StringRules.bounded, hmin] using hk)
    have hle : text.length ≤ k := h.maxLength k (by simpa [StringRules.bounded, hmax] using hk)
    exact hle.antisymm hge

/-- The schema of strings accepts the strings that satisfy all rules, an exact length counting as a
bound on each side that has none.  So it rejects no string that satisfies every rule as given, and
accepts no others unless an exact length is given together with a bound. -/
theorem stringSchema_exact {m : Mode} {δ : Dialect} (hδ : δ.Follows m) {r : StringRules}
    {s : Schema} {ts : List Target} (h : (stringSchema r).Yields s ts)
    (refs : Reference → Json → Prop) :
    (∀ v, s.Holds δ refs v ↔ ∃ text, v = .string text ∧ r.bounded.Satisfied δ text) ∧
      (∀ text, r.Satisfied δ text ↔
        s.Holds δ refs (.string text) ∧ ∀ k ∈ r.length, text.length = k) ∧
      (r.length = none ∨ r.minLength = none ∧ r.maxLength = none →
        ∀ v, s.Holds δ refs v ↔ ∃ text, v = .string text ∧ r.Satisfied δ text) := by
  obtain ⟨-, given, hgiven, rfl⟩ := Yields.stringSchema h
  have hholds : ∀ v, (stringUnder r given).Holds δ refs v ↔
      ∃ text, v = .string text ∧ r.bounded.Satisfied δ text := by
    intro v
    rw [holds_stringUnder hgiven]
    exact exists_congr fun text => and_congr_right fun _ => admits_iff_bounded hδ
  refine ⟨hholds, fun text => ?_, fun halone v => ?_⟩
  · rw [satisfied_iff_bounded, hholds]
    simp only [Json.string.injEq, exists_eq_left']
  · rw [hholds]
    exact exists_congr fun text => and_congr_right fun _ =>
      (satisfied_iff_bounded_of_alone halone).symm

/-- With an upper bound beside it, an exact length is a lower bound only. -/
theorem boundedLength_accepts_longer :
    ∃ s, (stringSchema { length := some 5, maxLength := some 10 }).Yields s [] ∧
      (formatless .units).Follows .units ∧
      s.Holds (formatless .units) (fun _ _ => False) (.string "abcdef") ∧
      ¬ StringRules.Satisfied (formatless .units) { length := some 5, maxLength := some 10 }
        "abcdef" := by
  have hyields : (stringSchema { length := some 5, maxLength := some 10 }).Yields
      (.string { minLength := some 5, maxLength := some 10 }) [] := ⟨rfl, rfl⟩
  have hexact := stringSchema_exact (formatless_follows .units) hyields fun _ _ => False
  have hlonger : StringRules.Satisfied (formatless .units)
      (StringRules.bounded { length := some 5, maxLength := some 10 }) "abcdef" := {
    equals := nofun
    allow := .inl rfl
    deny := List.not_mem_nil
    length := nofun
    minLength := fun k hk => by
      cases hk
      decide
    maxLength := fun k hk => by
      cases hk
      decide
    contains := nofun
    excludes := nofun
    startsWith := nofun
    endsWith := nofun
    pattern := nofun
    shape := nofun }
  refine ⟨_, hyields, formatless_follows .units, (hexact.1 _).2 ⟨_, rfl, hlonger⟩, fun h => ?_⟩
  exact absurd (h.length 5 rfl) (by decide)

end Generation

end ProtoSchema
