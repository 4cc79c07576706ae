import ProtoSchema.Proofs.Pattern.CodeUnits
import ProtoSchema.Proofs.Pattern.Scope

/-!
# Which patterns are refused

A class that has no direct spelling is translated a second time, by itself and with the Unicode flag
on, to find the code points that it denotes.  Here the text of a pattern is written with that second
translation in full, which may fail, and with every result that it may have.  It never does: once
the whole pattern means something, each of its classes does so by itself.  So a pattern is refused
for its grammar or its meaning, or for an assertion that the target dialect does not have.
-/

namespace ProtoSchema.Pattern

open Unicode

/-! ## 1. Classes by themselves -/

/-- What a class can be translated to: characters, bytes, or the bytes of its only character. -/
inductive ClassTranslation
  | characters (s : CodeSet)
  | bytes (s : CodeSet)
  | literal (encoded : ByteArray)

/-- A class by itself, with the Unicode flag on.  Without any member it is a class of bytes. -/
def translateClass (ignoreCase : Bool) (span : Span) (negated : Bool) (body : ClassBody) :
    Except Fault ClassTranslation := do
  (Regex.bracket span negated body).check { ignoreCase }
  let s := finishSet ignoreCase negated (body.codeSet ignoreCase)
  return match s.ranges with
    | [] => .bytes s
    | [⟨lo, hi⟩] =>
      if lo = hi then .literal (String.singleton (Char.ofNat lo)).toUTF8 else .characters s
    | _ => .characters s

/-- The text of a class that has no direct spelling; `shown` is what stands for the class in the
message that there is none. -/
def resolveClass (shown : Regex → String) (ignoreCase : Bool) (span : Span) (negated : Bool)
    (body : ClassBody) : Except ConversionFault (List Char) := do
  match ← (translateClass ignoreCase span negated body).mapError .refused with
  | .characters s => return (ecmaOfSet s).print
  | .bytes s =>
    if s.ranges.all (·.hi < 0x80) then return (ecmaOfSet s).print
    else throw (.inexpressible (shown (.bracket span negated body)))
  | .literal encoded =>
    match String.fromUTF8? encoded with
    | some text => return (escapeText text).toList
    | none => throw (.inexpressible (shown (.bracket span negated body)))

theorem checkBytes_unicode {f : Flags} (h : f.unicode = true) (negated : Bool) (span : Span) :
    checkBytes f negated span = .ok () := by
  unfold checkBytes
  rw [h]
  rfl

theorem Literal.check_unicode {f : Flags} (h : f.unicode = true) (l : Literal) :
    l.check f = .ok () := by
  unfold Literal.check
  rw [h]
  rfl

theorem Literal.checkMember_unicode {f : Flags} (h : f.unicode = true) (l : Literal) :
    l.checkMember f = .ok () := by
  unfold Literal.checkMember
  rw [l.check_unicode h, h]
  rfl

/-- An inequality is what the equality is with the other letter, in a class that is spelled as in
one that is resolved: the two never differ in which code points a property leaves out. -/
theorem property_unequal (ignoreCase negated : Bool) (span : Span) (name value : String) :
    let unequal : ClassBody := .property ⟨span, negated, .value true name value⟩
    let equal : ClassBody := .property ⟨span, !negated, .value false name value⟩
    unequal.members? ignoreCase = equal.members? ignoreCase ∧
      unequal.codeSet ignoreCase = equal.codeSet ignoreCase := by
  cases negated with
  | false => exact ⟨rfl, rfl⟩
  | true => exact ⟨rfl, rfl⟩

/-- A property that exists without the Unicode flag exists with it: without it there is none. -/
theorem PropertyClass.check_unicode {f g : Flags} (hg : g.unicode = true) {p : PropertyClass}
    (h : p.check f = .ok ()) : p.check g = .ok () := by
  unfold PropertyClass.check at h ⊢
  rw [hg]
  split at h
  · cases h
  · exact h

mutual

/-- A class that means something under some flags does so under all that have the Unicode flag. -/
theorem ClassBody.check_unicode {f g : Flags} (hg : g.unicode = true) (body : ClassBody)
    (h : body.check f = .ok ()) : body.check g = .ok () := by
  match body with
  | .empty _ => rfl
  | .literal l => exact l.checkMember_unicode hg
  | .range _ lo hi =>
    exact Except.bind_eq_ok.2 ⟨(), lo.checkMember_unicode hg, hi.checkMember_unicode hg⟩
  | .ascii span negated _ => exact checkBytes_unicode hg negated span
  | .property p => exact PropertyClass.check_unicode hg h
  | .shorthand s => exact checkBytes_unicode hg s.negated s.span
  | .nested span negated body =>
    obtain ⟨⟨⟩, hbody, -⟩ := Except.bind_eq_ok.1 h
    exact Except.bind_eq_ok.2
      ⟨(), ClassBody.check_unicode hg body hbody, checkBytes_unicode hg negated span⟩
  | .union _ members => exact ClassBody.checkAll_unicode hg members h
  | .operation _ _ left right =>
    obtain ⟨⟨⟩, hleft, hright⟩ := Except.bind_eq_ok.1 h
    exact Except.bind_eq_ok.2
      ⟨(), ClassBody.check_unicode hg left hleft, ClassBody.check_unicode hg right hright⟩

theorem ClassBody.checkAll_unicode {f g : Flags} (hg : g.unicode = true) (members : List ClassBody)
    (h : ClassBody.checkAll f members = .ok ()) : ClassBody.checkAll g members = .ok () := by
  match members with
  | [] => rfl
  | b :: rest =>
    obtain ⟨⟨⟩, hb, hrest⟩ := Except.bind_eq_ok.1 h
    exact Except.bind_eq_ok.2
      ⟨(), ClassBody.check_unicode hg b hb, ClassBody.checkAll_unicode hg rest hrest⟩

end

theorem fromUTF8?_toUTF8 (s : String) : String.fromUTF8? s.toUTF8 = some s := by
  unfold String.fromUTF8?
  rw [String.toUTF8_eq_toByteArray, dif_pos s.isValidUTF8]
  rfl

/-- Where the whole pattern means something, a class by itself is always resolved. -/
theorem resolveClass_eq_ok {f : Flags} {body : ClassBody} (h : body.check f = .ok ())
    (shown : Regex → String) (ignoreCase : Bool) (span : Span) (negated : Bool) :
    resolveClass shown ignoreCase span negated body =
      .ok (rangesClass ignoreCase negated body).print := by
  have hcheck : (Regex.bracket span negated body).check { ignoreCase } = .ok () :=
    Except.bind_eq_ok.2
      ⟨(), ClassBody.check_unicode rfl body h, checkBytes_unicode rfl negated span⟩
  have hset : ∀ s : CodeSet, translateClass ignoreCase span negated body = .ok (.characters s) →
      resolveClass shown ignoreCase span negated body = .ok (ecmaOfSet s).print := by
    intro s hs
    unfold resolveClass
    rw [hs]
    rfl
  generalize hs : finishSet ignoreCase negated (body.codeSet ignoreCase) = s
  have htranslate : translateClass ignoreCase span negated body = .ok (match s.ranges with
      | [] => .bytes s
      | [⟨lo, hi⟩] =>
        if lo = hi then .literal (String.singleton (Char.ofNat lo)).toUTF8 else .characters s
      | _ => .characters s) := by
    unfold translateClass
    rw [hcheck, hs]
    rfl
  unfold rangesClass
  rw [hs]
  dsimp only
  obtain ⟨ranges⟩ := s
  match ranges with
  | [] =>
    unfold resolveClass
    rw [htranslate]
    rfl
  | [⟨lo, hi⟩] =>
    dsimp only at htranslate ⊢
    split at htranslate
    · rename_i heq
      rw [if_pos heq]
      unfold resolveClass
      rw [htranslate]
      change (match String.fromUTF8? (String.singleton (Char.ofNat lo)).toUTF8 with
        | some text => _
        | none => _) = _
      rw [fromUTF8?_toUTF8]
      change Except.ok (escapeText (String.singleton (Char.ofNat lo))).toList = _
      rw [escapeText, String.toList_ofList, String.toList_singleton, List.flatMap_singleton,
        Ecma.print]
    · rename_i hne
      rw [if_neg hne]
      exact hset _ htranslate
  | r :: t :: rest => exact hset _ htranslate

/-! ## 2. The text of a pattern -/

/-- A text in a group that captures nothing, if it needs one. -/
def groupedText (needed : Bool) (text : List Char) : List Char :=
  if needed then ['(', '?', ':'] ++ text ++ [')'] else text

mutual

/-- The text of the counterpart of a pattern under the flags that hold where it starts. -/
def Regex.write (shown : Regex → String) (f : Flags) : Regex → Except ConversionFault (List Char)
  | .empty _ | .flags .. => .ok []
  | .literal l => .ok (ecmaLiteral f.ignoreCase l.char).print
  | .dot _ => .ok (if f.dotMatchesNewline then ['[', '\\', 's', '\\', 'S', ']'] else ['.'])
  | .assertion _ a =>
    match a.toEcma? with
    | some a => .ok a.print
    | none => .error (.inexpressible a.text)
  | .property p => .ok (printProperty p.excludes p.name.text)
  | .shorthand s => .ok s.toEcma.print
  | .bracket span negated body =>
    match body.members? f.ignoreCase with
    | some members => .ok (Ecma.set negated members).print
    | none => resolveClass shown f.ignoreCase span negated body
  | .repetition _ count greedy body => do
    let text ← body.write shown f
    let lazy := greedy == (body.flagsAfter f).swapGreed
    return groupedText body.needsGroup text ++ count.toEcma.print ++ (if lazy then ['?'] else [])
  | .group _ kind body => do
    let text ← body.write shown (kind.inside f)
    return (if kind matches .capturing then ['('] else ['(', '?', ':']) ++ text ++ [')']
  | .alternation _ branches => Regex.writeBranches shown f branches
  | .concat _ parts => Regex.writeParts shown f parts

def Regex.writeBranches (shown : Regex → String) (f : Flags) :
    List Regex → Except ConversionFault (List Char)
  | [] => .ok []
  | [r] => r.write shown f
  | r :: rest => do
    let text ← r.write shown f
    return text ++ '|' :: (← Regex.writeBranches shown (r.flagsAfter f) rest)

def Regex.writeParts (shown : Regex → String) (f : Flags) :
    List Regex → Except ConversionFault (List Char)
  | [] => .ok []
  | r :: rest => do
    let text ← r.write shown f
    return groupedText r.isAlternation text ++ (← Regex.writeParts shown (r.flagsAfter f) rest)

end

/-- The text of the counterpart of a pattern, if the pattern can be read, means something and can be
written. -/
def writeText (shown : Regex → String) (pattern : String) : Except ConversionFault String := do
  let r ← (parse pattern).mapError .refused
  (r.check {}).mapError .refused
  return .ofList (← r.write shown {})

theorem print_group (capturing : Bool) (e : Ecma) :
    (Ecma.group capturing e).print =
      (if capturing then ['('] else ['(', '?', ':']) ++ e.print ++ [')'] := by
  rw [Ecma.print]

theorem print_grouped (needed : Bool) (e : Ecma) :
    (grouped needed e).print = groupedText needed e.print := by
  cases needed with
  | true => exact print_group false e
  | false => rfl

/-- The text of what is computed from a part, from the text of the part. -/
theorem Except.map_print {x : Except ConversionFault Ecma} {g : Ecma → Ecma}
    {t : List Char → List Char} (h : ∀ e, (g e).print = t e.print) :
    (do return t (← x.map Ecma.print)) = (do return g (← x) : Except _ Ecma).map Ecma.print := by
  cases x with
  | error e => rfl
  | ok e => exact congrArg Except.ok (h e).symm

mutual

/-- What is written is the text of the counterpart. -/
theorem Regex.write_eq (shown : Regex → String) {f : Flags} (r : Regex) (h : r.check f = .ok ()) :
    r.write shown f = (r.toEcma f).map Ecma.print := by
  match r with
  | .empty _ | .flags .. | .literal _ | .property _ | .shorthand _ => rfl
  | .dot _ =>
    rw [Regex.write, Regex.toEcma]
    cases f.dotMatchesNewline <;> rfl
  | .assertion span a =>
    rw [Regex.write, Regex.toEcma]
    cases a.toEcma? <;> rfl
  | .bracket span negated body =>
    obtain ⟨⟨⟩, hbody, -⟩ := Except.bind_eq_ok.1 h
    rw [Regex.write, Regex.toEcma, ecmaClass]
    cases body.members? f.ignoreCase with
    | some members => rfl
    | none => exact resolveClass_eq_ok hbody shown f.ignoreCase span negated
  | .repetition span count greedy body =>
    rw [Regex.write, Regex.toEcma, Regex.write_eq shown body h]
    exact Except.map_print fun e => by rw [Ecma.print, print_grouped]
  | .group span kind body =>
    unfold Regex.write Regex.toEcma
    rw [Regex.write_eq shown body h]
    exact Except.map_print fun e => (print_group _ e).trans (by cases kind <;> rfl)
  | .alternation span rs =>
    rw [Regex.write, Regex.toEcma, Regex.writeBranches_eq shown rs h]
    cases Regex.branchesToEcma f rs <;> rfl
  | .concat span rs =>
    rw [Regex.write, Regex.toEcma, Regex.writeParts_eq shown rs h]
    cases Regex.partsToEcma f rs <;> rfl

theorem Regex.writeBranches_eq (shown : Regex → String) {f : Flags} (rs : List Regex)
    (h : Regex.checkAll f rs = .ok ()) :
    Regex.writeBranches shown f rs = (Regex.branchesToEcma f rs).map Ecma.printBranches := by
  match rs with
  | [] => rfl
  | [r] =>
    obtain ⟨⟨⟩, hr, -⟩ := Except.bind_eq_ok.1 h
    rw [Regex.writeBranches, Regex.branchesToEcma, Regex.write_eq shown r hr]
    cases r.toEcma f <;> rfl
  | r :: r' :: rest =>
    obtain ⟨⟨⟩, hr, hrest⟩ := Except.bind_eq_ok.1 h
    rw [Regex.writeBranches, Regex.branchesToEcma, Regex.write_eq shown r hr,
      Regex.writeBranches_eq shown (r' :: rest) hrest]
    · cases r.toEcma f with
      | error e => rfl
      | ok e =>
        cases hes : Regex.branchesToEcma (r.flagsAfter f) (r' :: rest) with
        | error e => rfl
        | ok es =>
          -- There is another branch, so there is a bar after this one.
          obtain ⟨e', es, -, -, rfl⟩ :=
            List.forall₂_cons_left_iff.1 (Regex.branchesToEcma_eq_ok.1 hes)
          rfl
    · rintro ⟨⟩

theorem Regex.writeParts_eq (shown : Regex → String) {f : Flags} (rs : List Regex)
    (h : Regex.checkAll f rs = .ok ()) :
    Regex.writeParts shown f rs = (Regex.partsToEcma f rs).map Ecma.printParts := by
  match rs with
  | [] => rfl
  | r :: rest =>
    obtain ⟨⟨⟩, hr, hrest⟩ := Except.bind_eq_ok.1 h
    rw [Regex.writeParts, Regex.partsToEcma, Regex.write_eq shown r hr,
      Regex.writeParts_eq shown rest hrest]
    cases r.toEcma f with
    | error e => rfl
    | ok e =>
      cases Regex.partsToEcma (r.flagsAfter f) rest with
      | error e => rfl
      | ok es =>
        change Except.ok (groupedText r.isAlternation e.print ++ Ecma.printParts es) = _
        rw [← print_grouped]
        rfl

end

/-! ## 3. Assertions -/

/-- The assertions that the target dialect has. -/
def Assertion.shared : List Assertion :=
  [.startLine, .endLine, .startText, .endText, .boundary, .notBoundary]

mutual

/-- The assertions anywhere in a pattern, in the order of its text. -/
def Regex.assertions : Regex → List Assertion
  | .assertion _ a => [a]
  | .repetition _ _ _ body | .group _ _ body => body.assertions
  | .alternation _ rs | .concat _ rs => Regex.assertionsIn rs
  | _ => []

def Regex.assertionsIn : List Regex → List Assertion
  | [] => []
  | r :: rest => r.assertions ++ Regex.assertionsIn rest

end

mutual

theorem Regex.exists_place_of_mem_assertions {a : Assertion} (r : Regex) (h : a ∈ r.assertions) :
    ∃ p span, r.at? p = some (.assertion span a) := by
  match r with
  | .assertion span b =>
    obtain rfl := List.mem_singleton.1 h
    exact ⟨[], span, rfl⟩
  | .repetition span count greedy body =>
    obtain ⟨p, span, hp⟩ := Regex.exists_place_of_mem_assertions body h
    exact ⟨0 :: p, span, hp⟩
  | .group span kind body =>
    obtain ⟨p, span, hp⟩ := Regex.exists_place_of_mem_assertions body h
    exact ⟨0 :: p, span, hp⟩
  | .alternation _ rs | .concat _ rs =>
    obtain ⟨i, part, p, span, hi, hp⟩ := Regex.exists_place_of_mem_assertionsIn rs h
    exact ⟨i :: p, span, Regex.at?_cons_eq_some.2 ⟨part, hi, hp⟩⟩
  | .empty _ | .flags .. | .literal _ | .dot _ | .property _ | .shorthand _ | .bracket .. =>
    exact absurd h List.not_mem_nil

theorem Regex.exists_place_of_mem_assertionsIn {a : Assertion} (rs : List Regex)
    (h : a ∈ Regex.assertionsIn rs) :
    ∃ (i : Nat) (part : Regex) (p : Place) (span : Span), rs[i]? = some part ∧
      part.at? p = some (.assertion span a) := by
  match rs with
  | [] => exact absurd h List.not_mem_nil
  | r :: rest =>
    rcases List.mem_append.1 h with h | h
    · obtain ⟨p, span, hp⟩ := Regex.exists_place_of_mem_assertions r h
      exact ⟨0, r, p, span, rfl, hp⟩
    · obtain ⟨i, part, p, span, hi, hp⟩ := Regex.exists_place_of_mem_assertionsIn rest h
      exact ⟨i + 1, part, p, span, hi, hp⟩

end

theorem Regex.mem_assertionsIn {a : Assertion} {rs : List Regex} :
    a ∈ Regex.assertionsIn rs ↔ ∃ r ∈ rs, a ∈ r.assertions := by
  induction rs with
  | nil => exact iff_of_false List.not_mem_nil fun ⟨_, hr, _⟩ => absurd hr List.not_mem_nil
  | cons r rest ih => rw [assertionsIn, List.mem_append, ih, List.exists_mem_cons_iff]

theorem Regex.mem_assertions_of_part {a : Assertion} {r part : Regex} (hpart : part ∈ r.parts)
    (h : a ∈ part.assertions) : a ∈ r.assertions := by
  cases r with
  | repetition | group =>
    obtain rfl := List.mem_singleton.1 hpart
    exact h
  | alternation | concat => exact Regex.mem_assertionsIn.2 ⟨part, hpart, h⟩
  | _ => exact absurd hpart List.not_mem_nil

/-- The assertions of a pattern are those that stand at its places. -/
theorem Regex.mem_assertions_iff {a : Assertion} {r : Regex} :
    a ∈ r.assertions ↔ ∃ p span, r.at? p = some (.assertion span a) := by
  refine ⟨Regex.exists_place_of_mem_assertions r, ?_⟩
  rintro ⟨p, span, hp⟩
  induction p generalizing r with
  | nil =>
    obtain rfl := Option.some.inj hp
    exact List.mem_singleton_self a
  | cons i p ih =>
    obtain ⟨next, hi, hp⟩ := Regex.at?_cons_eq_some.1 hp
    exact Regex.mem_assertions_of_part (List.mem_of_getElem? hi) (ih hp)

/-- What the assertions of a pattern make of its conversion: the first one that the target dialect
lacks is named. -/
def verdict (as : List Assertion) : Except ConversionFault Unit :=
  match as.find? (· ∉ Assertion.shared) with
  | some a => .error (.inexpressible a.text)
  | none => .ok ()

theorem verdict_append (as bs : List Assertion) :
    verdict (as ++ bs) = verdict as >>= fun _ => verdict bs := by
  unfold verdict
  rw [List.find?_append]
  cases as.find? (· ∉ Assertion.shared) <;> rfl

theorem verdict_eq_error {as : List Assertion} {e : ConversionFault} :
    verdict as = .error e ↔
      ∃ a, as.find? (· ∉ Assertion.shared) = some a ∧ e = .inexpressible a.text := by
  unfold verdict
  cases as.find? (· ∉ Assertion.shared) with
  | none => exact ⟨nofun, nofun⟩
  | some a => simp only [Except.error.injEq, Option.some.injEq, exists_eq_left', eq_comm]

theorem verdict_eq_ok {as : List Assertion} :
    verdict as = .ok () ↔ ∀ a ∈ as, a ∈ Assertion.shared := by
  have hnone : as.find? (· ∉ Assertion.shared) = none ↔ ∀ a ∈ as, a ∈ Assertion.shared := by
    simp only [List.find?_eq_none, decide_eq_true_eq, not_not]
  rw [← hnone, verdict]
  cases as.find? (· ∉ Assertion.shared) with
  | none => exact iff_of_true rfl rfl
  | some a => exact iff_of_false nofun nofun

theorem Assertion.toEcma?_verdict (a : Assertion) :
    verdict [a] = match a.toEcma? with
      | some _ => .ok ()
      | none => .error (.inexpressible a.text) := by
  cases a <;> rfl

/-- Whether a computation succeeds, and what it fails with. -/
abbrev Except.verdict {α : Type} (x : Except ConversionFault α) : Except ConversionFault Unit :=
  x.map fun _ => ()

theorem Except.verdict_eq_error {α : Type} {x : Except ConversionFault α} {e : ConversionFault} :
    Except.verdict x = .error e ↔ x = .error e := by
  cases x with
  | error e' =>
    change Except.error e' = Except.error e ↔ _
    rw [Except.error.injEq, Except.error.injEq]
  | ok a => exact iff_of_false nofun nofun

theorem Except.verdict_eq_ok {α : Type} {x : Except ConversionFault α} :
    Except.verdict x = .ok () ↔ ∃ a, x = .ok a := by
  cases x with
  | error e => exact iff_of_false nofun nofun
  | ok a => exact iff_of_true rfl ⟨a, rfl⟩

theorem Except.verdict_map {α β : Type} {x : Except ConversionFault α} (g : α → β) :
    Except.verdict (do return g (← x)) = Except.verdict x := by
  cases x <;> rfl

theorem Except.verdict_bind {α β : Type} {x : Except ConversionFault α}
    {y : Except ConversionFault β} {γ : Type} (g : α → β → γ) :
    Except.verdict (do return g (← x) (← y)) = Except.verdict x >>= fun _ => Except.verdict y := by
  cases x with
  | error e => rfl
  | ok a => cases y <;> rfl

mutual

/-- Nothing but an assertion makes the conversion fail. -/
theorem Regex.toEcma_verdict (f : Flags) (r : Regex) :
    Except.verdict (r.toEcma f) = verdict r.assertions := by
  match r with
  | .empty _ | .flags .. | .literal _ | .dot _ | .property _ | .shorthand _ | .bracket .. => rfl
  | .assertion span a =>
    rw [Regex.assertions, Assertion.toEcma?_verdict, Regex.toEcma]
    cases a.toEcma? <;> rfl
  | .repetition span count greedy body =>
    exact (Except.verdict_map _).trans (Regex.toEcma_verdict f body)
  | .group span kind body =>
    exact (Except.verdict_map _).trans (Regex.toEcma_verdict (kind.inside f) body)
  | .alternation span rs =>
    exact (Except.verdict_map _).trans (Regex.branchesToEcma_verdict f rs)
  | .concat span rs =>
    exact (Except.verdict_map _).trans (Regex.partsToEcma_verdict f rs)

theorem Regex.branchesToEcma_verdict (f : Flags) (rs : List Regex) :
    Except.verdict (Regex.branchesToEcma f rs) = verdict (Regex.assertionsIn rs) := by
  match rs with
  | [] => rfl
  | r :: rest =>
    rw [Regex.assertionsIn, verdict_append, ← Regex.toEcma_verdict f r,
      ← Regex.branchesToEcma_verdict (r.flagsAfter f) rest, Regex.branchesToEcma]
    exact Except.verdict_bind _

theorem Regex.partsToEcma_verdict (f : Flags) (rs : List Regex) :
    Except.verdict (Regex.partsToEcma f rs) = verdict (Regex.assertionsIn rs) := by
  match rs with
  | [] => rfl
  | r :: rest =>
    rw [Regex.assertionsIn, verdict_append, ← Regex.toEcma_verdict f r,
      ← Regex.partsToEcma_verdict (r.flagsAfter f) rest, Regex.partsToEcma]
    exact Except.verdict_bind fun e es => grouped r.isAlternation e :: es

end

theorem Regex.check_of_checkAll {f : Flags} {rs : List Regex} {part : Regex}
    (h : Regex.checkAll f rs = .ok ()) (hpart : part ∈ rs) : ∃ g, part.check g = .ok () := by
  induction rs generalizing f with
  | nil => exact absurd hpart List.not_mem_nil
  | cons r rest ih =>
    obtain ⟨⟨⟩, hr, hrest⟩ := Except.bind_eq_ok.1 h
    rcases List.mem_cons.1 hpart with rfl | hpart
    · exact ⟨f, hr⟩
    · exact ih hrest hpart

/-- The parts of a pattern that means something do so under the flags that they get. -/
theorem Regex.check_part {f : Flags} {r part : Regex} (h : r.check f = .ok ())
    (hpart : part ∈ r.parts) : ∃ g, part.check g = .ok () := by
  cases r with
  | repetition =>
    obtain rfl := List.mem_singleton.1 hpart
    exact ⟨f, h⟩
  | group span kind =>
    obtain rfl := List.mem_singleton.1 hpart
    exact ⟨kind.inside f, h⟩
  | alternation | concat => exact Regex.check_of_checkAll h hpart
  | _ => exact absurd hpart List.not_mem_nil

theorem Regex.check_at {f : Flags} {r part : Regex} {p : Place} (h : r.check f = .ok ())
    (hp : r.at? p = some part) : ∃ g, part.check g = .ok () := by
  induction p generalizing f r with
  | nil =>
    obtain rfl := Option.some.inj hp
    exact ⟨f, h⟩
  | cons i p ih =>
    obtain ⟨next, hi, hp⟩ := Regex.at?_cons_eq_some.1 hp
    obtain ⟨g, hg⟩ := Regex.check_part h (List.mem_of_getElem? hi)
    exact ih hg hp

/-! ## 4. Outcomes -/

section

variable {pattern : String} {fault : Fault} {r : Regex}

theorem convertText_of_parse_error (h : parse pattern = .error fault) :
    convertText pattern = .error (.refused fault) := by
  unfold convertText convert
  rw [h]
  rfl

theorem convertText_of_check_error (hr : parse pattern = .ok r) (h : r.check {} = .error fault) :
    convertText pattern = .error (.refused fault) := by
  unfold convertText convert
  rw [hr]
  change ((r.check {}).mapError _ >>= _ : Except _ _).map _ = _
  rw [h]
  rfl

theorem convertText_verdict (hr : parse pattern = .ok r) (h : r.check {} = .ok ()) :
    Except.verdict (convertText pattern) = verdict r.assertions := by
  rw [convertText_of_check hr h, ← Regex.toEcma_verdict {} r]
  cases r.toEcma {} <;> rfl

theorem convertText_eq_error (hr : parse pattern = .ok r) (h : r.check {} = .ok ())
    {e : ConversionFault} : convertText pattern = .error e ↔
      ∃ a, r.assertions.find? (· ∉ Assertion.shared) = some a ∧ e = .inexpressible a.text := by
  rw [← Except.verdict_eq_error, convertText_verdict hr h, verdict_eq_error]

theorem exists_convertText_iff (hr : parse pattern = .ok r) (h : r.check {} = .ok ()) :
    (∃ text, convertText pattern = .ok text) ↔
      ∀ p span a, r.at? p = some (.assertion span a) → a ∈ Assertion.shared := by
  rw [← Except.verdict_eq_ok, convertText_verdict hr h, verdict_eq_ok]
  constructor
  · exact fun hall p span a hp => hall a (Regex.mem_assertions_iff.2 ⟨p, span, hp⟩)
  · intro hall a ha
    obtain ⟨p, span, hp⟩ := Regex.mem_assertions_iff.1 ha
    exact hall p span a hp

/-- A pattern is refused for its grammar or its meaning, and for nothing else. -/
theorem convertText_refused_iff : convertText pattern = .error (.refused fault) ↔
    parse pattern = .error fault ∨ ∃ r, parse pattern = .ok r ∧ r.check {} = .error fault := by
  cases hr : parse pattern with
  | error fault' =>
    rw [convertText_of_parse_error hr]
    simp only [Except.error.injEq, ConversionFault.refused.injEq, reduceCtorEq, false_and,
      exists_false, or_false]
  | ok r =>
    simp only [Except.ok.injEq, exists_eq_left', reduceCtorEq, false_or]
    cases hc : r.check {} with
    | error fault' =>
      rw [convertText_of_check_error hr hc, Except.error.injEq, Except.error.injEq,
        ConversionFault.refused.injEq]
    | ok =>
      rw [convertText_eq_error hr hc]
      exact iff_of_false (by rintro ⟨a, -, ⟨⟩⟩) nofun

end

/-- Resolving the classes one by one makes no difference. -/
theorem writeText_eq (shown : Regex → String) (pattern : String) :
    writeText shown pattern = convertText pattern := by
  unfold writeText
  cases hr : parse pattern with
  | error fault => rw [convertText_of_parse_error hr]; rfl
  | ok r =>
    change ((r.check {}).mapError _ >>= _ : Except _ _) = _
    cases hc : r.check {} with
    | error fault => rw [convertText_of_check_error hr hc]; rfl
    | ok =>
      rw [convertText_of_check hr hc]
      change (r.write shown {} >>= _ : Except _ _) = _
      rw [Regex.write_eq shown r hc]
      cases r.toEcma {} <;> rfl

/-- The outcomes of a pattern that is written with its classes resolved one by one.  It is refused
just if its grammar or its meaning is; otherwise it cannot be written just if some place of it has
an assertion that the target dialect lacks, and the first of these is named; and no class is refused
by itself. -/
theorem writeText_outcome (shown : Regex → String) (pattern : String) :
    writeText shown pattern = convertText pattern ∧
      (∀ fault, writeText shown pattern = .error (.refused fault) ↔
        parse pattern = .error fault ∨ ∃ r, parse pattern = .ok r ∧ r.check {} = .error fault) ∧
      ∀ r, parse pattern = .ok r → r.check {} = .ok () →
        ((∃ part, writeText shown pattern = .error (.inexpressible part)) ↔
          ∃ p span a, r.at? p = some (.assertion span a) ∧ a ∉ Assertion.shared) ∧
        ((∃ text, writeText shown pattern = .ok text) ↔
          ∀ p span a, r.at? p = some (.assertion span a) → a ∈ Assertion.shared) ∧
        (∀ part, writeText shown pattern = .error (.inexpressible part) ↔
          ∃ a, r.assertions.find? (· ∉ Assertion.shared) = some a ∧ part = a.text) ∧
        ∀ p span negated body, r.at? p = some (.bracket span negated body) → ∀ ignoreCase,
          resolveClass shown ignoreCase span negated body =
            .ok (rangesClass ignoreCase negated body).print := by
  rw [writeText_eq]
  refine ⟨rfl, fun fault => convertText_refused_iff, fun r hr hc => ?_⟩
  refine ⟨?_, exists_convertText_iff hr hc, fun part => ?_,
    fun p span negated body hp ignoreCase => ?_⟩
  · -- Where no assertion is named there is a text.
    simp only [convertText_eq_error hr hc]
    constructor
    · rintro ⟨_, a, ha, -⟩
      obtain ⟨p, span, hp⟩ := Regex.mem_assertions_iff.1 (List.mem_of_find?_eq_some ha)
      have hnot := List.find?_some ha
      exact ⟨p, span, a, hp, of_decide_eq_true hnot⟩
    · rintro ⟨p, span, a, hp, hnot⟩
      have hsome : (r.assertions.find? (· ∉ Assertion.shared)).isSome = true :=
        List.find?_isSome.2 ⟨a, Regex.mem_assertions_iff.2 ⟨p, span, hp⟩, decide_eq_true hnot⟩
      obtain ⟨b, hb⟩ := Option.isSome_iff_exists.1 hsome
      exact ⟨_, b, hb, rfl⟩
  · rw [convertText_eq_error hr hc]
    simp only [ConversionFault.inexpressible.injEq]
  · obtain ⟨g, hg⟩ := Regex.check_at hc hp
    obtain ⟨⟨⟩, hbody, -⟩ := Except.bind_eq_ok.1 hg
    exact resolveClass_eq_ok hbody shown ignoreCase span negated

/-- What two letters have in common, without the Unicode flag. -/
def nothingInCommon : Regex :=
  .group ⟨⟨0, 1, 1⟩, ⟨12, 1, 13⟩⟩ (.flags [.minus, .flag .unicode])
    (.bracket ⟨⟨5, 1, 6⟩, ⟨11, 1, 12⟩⟩ false (.operation ⟨⟨6, 1, 7⟩, ⟨10, 1, 11⟩⟩ .intersection
      (.literal ⟨⟨⟨6, 1, 7⟩, ⟨7, 1, 8⟩⟩, .plain, 'a'⟩)
      (.literal ⟨⟨⟨9, 1, 10⟩, ⟨10, 1, 11⟩⟩, .plain, 'b'⟩)))

theorem parse_nothingInCommon : parse "(?-u:[a&&b])" = .ok nothingInCommon := by
  have hchars : "(?-u:[a&&b])".toList =
      ['(', '?', '-', 'u', ':', '[', 'a', '&', '&', 'b', ']', ')'] := by decide
  unfold parse Cursor.ofPattern
  rw [hchars]
  cbv

theorem nothingInCommon_outcome :
    parse "(?-u:[a&&b])" = .ok nothingInCommon ∧ nothingInCommon.check {} = .ok () ∧
      (∃ text, writeText (fun _ => "the class") "(?-u:[a&&b])" = .ok text) ∧
      ∀ span negated body, nothingInCommon.at? [0] = some (.bracket span negated body) →
        resolveClass (fun _ => "the class") true span negated body =
          .ok (rangesClass true negated body).print := by
  obtain ⟨-, -, hall⟩ := writeText_outcome (fun _ => "the class") "(?-u:[a&&b])"
  obtain ⟨-, hok, -, hclass⟩ := hall _ parse_nothingInCommon rfl
  refine ⟨parse_nothingInCommon, rfl, hok.2 fun p span a hp => ?_, fun span negated body hp => ?_⟩
  · exact absurd (Regex.mem_assertions_iff.2 ⟨p, span, hp⟩) List.not_mem_nil
  · exact hclass [0] span negated body hp true

end ProtoSchema.Pattern
