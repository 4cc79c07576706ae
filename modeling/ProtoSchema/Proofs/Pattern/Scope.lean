import ProtoSchema.Proofs.Pattern.Converted

/-!
# The scope of flags, by place

Where a flag is on is told by places alone: which directives have a place in their scope, and what
the last mention of the flag among these is.  The flags that the conversion hands from part to part
are those, in every pattern and at every place of it.
-/

namespace ProtoSchema.Pattern

/-! ## 1. Places -/

/-- The parts of a pattern, in the order of its text. -/
def Regex.parts : Regex → List Regex
  | .repetition _ _ _ body | .group _ _ body => [body]
  | .alternation _ parts | .concat _ parts => parts
  | _ => []

/-- A place tells which part is taken at each step down from the whole pattern.  The sign of a
repetition stands after its operand, at the step 1. -/
abbrev Place := List Nat

def Regex.at? : Regex → Place → Option Regex
  | r, [] => some r
  | r, i :: p =>
    match r.parts[i]? with
    | some part => part.at? p
    | none => none

theorem Regex.at?_cons_eq_some {r part : Regex} {i : Nat} {p : Place} :
    r.at? (i :: p) = some part ↔ ∃ next, r.parts[i]? = some next ∧ next.at? p = some part := by
  rw [at?]
  cases r.parts[i]? with
  | none => exact ⟨nofun, nofun⟩
  | some next => exact ⟨fun h => ⟨next, rfl, h⟩, fun ⟨_, hnext, h⟩ => Option.some.inj hnext ▸ h⟩

mutual

/-- All places, in the order of the text. -/
def Regex.places : Regex → List Place
  | .repetition _ _ _ body | .group _ _ body => [] :: body.places.map (0 :: ·)
  | .alternation _ parts | .concat _ parts => [] :: Regex.placesFrom 0 parts
  | _ => [[]]

def Regex.placesFrom (i : Nat) : List Regex → List Place
  | [] => []
  | r :: rest => r.places.map (i :: ·) ++ Regex.placesFrom (i + 1) rest

end

/-- Whether `p` is a place inside of what stands at `q`. -/
def isAround : Place → Place → Bool
  | [], p => !p.isEmpty
  | _ :: _, [] => false
  | i :: q, j :: p => i == j && isAround q p

/-- Whether what stands at `q` ends before what stands at `p` starts. -/
def isBefore : Place → Place → Bool
  | i :: q, j :: p => decide (i < j) || (i == j && isBefore q p)
  | _, _ => false

/-! ## 2. Directives and their scope -/

/-- The flags that a directive mentions, with whether they are set or cleared: those after the minus
sign are cleared. -/
def mentions (sets : Bool) : List FlagItem → List (Flag × Bool)
  | [] => []
  | .minus :: rest => mentions false rest
  | .flag f :: rest => (f, sets) :: mentions sets rest

def Regex.isGroup : Regex → Bool
  | .group .. => true
  | _ => false

/-- The items of a directive, which stands by itself or opens a group. -/
def Regex.items : Regex → List FlagItem
  | .flags _ items | .group _ (.flags items) _ => items
  | _ => []

def Regex.isGroupAt (r : Regex) (q : Place) : Bool := (r.at? q).any Regex.isGroup

def Regex.mentionsAt (r : Regex) (q : Place) : List (Flag × Bool) :=
  match r.at? q with
  | some part => mentions true part.items
  | none => []

/-- Whether a directive at `q` has `p` in its scope.  The directive of a group has the inside of the
group.  One by itself has what comes after it, up to the end of the innermost group around it: every
group that is around it is around `p` as well. -/
def Regex.reaches (r : Regex) (q p : Place) : Bool :=
  if r.isGroupAt q then isAround q p
  else isBefore q p && q.inits.all fun g => !r.isGroupAt g || isAround g p

/-- The mentions in the directives that have a place in their scope, in the order of the text. -/
def Regex.mentionsFor (r : Regex) (p : Place) : List (Flag × Bool) :=
  (r.places.filter (r.reaches · p)).flatMap r.mentionsAt

/-- What the last mention of a flag makes of it. -/
def lastMention (start : Bool) (f : Flag) (ms : List (Flag × Bool)) : Bool :=
  ((ms.filter (·.1 = f)).getLast?.map (·.2)).getD start

/-- Whether a flag is on at a place.  All flags are off at the start, except for the one that is on
in every pattern. -/
def Regex.isOn (r : Regex) (f : Flag) (p : Place) : Bool :=
  lastMention (f == .unicode) f (r.mentionsFor p)

/-- The flags that are on at a place. -/
def Regex.flagsIn (r : Regex) (p : Place) : Flags where
  ignoreCase := r.isOn .ignoreCase p
  dotMatchesNewline := r.isOn .dotMatchesNewline p
  swapGreed := r.isOn .swapGreed p
  unicode := r.isOn .unicode p

/-! ## 3. Mentions and flags -/

/-- The flags after some mentions. -/
def Flags.after (f : Flags) (ms : List (Flag × Bool)) : Flags where
  ignoreCase := lastMention f.ignoreCase .ignoreCase ms
  dotMatchesNewline := lastMention f.dotMatchesNewline .dotMatchesNewline ms
  swapGreed := lastMention f.swapGreed .swapGreed ms
  unicode := lastMention f.unicode .unicode ms

theorem lastMention_append (start : Bool) (f : Flag) (ms ns : List (Flag × Bool)) :
    lastMention start f (ms ++ ns) = lastMention (lastMention start f ms) f ns := by
  unfold lastMention
  rw [List.filter_append, List.getLast?_append]
  cases (ns.filter (·.1 = f)).getLast? with
  | none => rfl
  | some m => rfl

theorem Flags.after_append (f : Flags) (ms ns : List (Flag × Bool)) :
    f.after (ms ++ ns) = (f.after ms).after ns := by
  unfold Flags.after
  simp only [lastMention_append]

theorem flagSetting_getD (start : Bool) (f : Flag) (items : List FlagItem) :
    (flagSetting f items).getD start = lastMention start f (mentions true items) := by
  -- What was found before is kept if there is no other mention.
  have step : ∀ on found, flagSetting.go f on found items =
      (((mentions on items).filter (·.1 = f)).getLast?.map (·.2)).or found := by
    induction items with
    | nil => intro on found; rfl
    | cons item items ih =>
      intro on found
      cases item with
      | minus => exact ih false found
      | flag g =>
        rw [flagSetting.go, ih, mentions]
        by_cases hg : g = f
        · rw [if_pos hg, List.filter_cons_of_pos (by simpa using hg), List.getLast?_cons]
          cases ((mentions on items).filter (·.1 = f)).getLast? with
          | none => rfl
          | some m => rfl
        · rw [if_neg hg, List.filter_cons_of_neg (by simpa using hg)]
  rw [flagSetting, step true none, Option.or_none, lastMention]

theorem Flags.apply_eq (f : Flags) (items : List FlagItem) :
    f.apply items = f.after (mentions true items) := by
  unfold Flags.apply Flags.after
  simp only [flagSetting_getD]

/-! ## 4. Scope in a pattern and in its parts -/

/-- Whether a place has no group around it and is none. -/
def Regex.isOpen (r : Regex) (q : Place) : Bool := q.inits.all fun g => !r.isGroupAt g

/-- The mentions that reach past the end of a pattern. -/
def Regex.openMentions (r : Regex) : List (Flag × Bool) :=
  (r.places.filter r.isOpen).flatMap r.mentionsAt

theorem Regex.places_eq (r : Regex) : r.places = [] :: Regex.placesFrom 0 r.parts := by
  cases r with
  | repetition | group => rw [places, parts, placesFrom, placesFrom, List.append_nil]
  | alternation | concat => rfl
  | _ => rfl

theorem all_inits_cons (i : Nat) (q : Place) (f : Place → Bool) :
    (i :: q).inits.all f = (f [] && q.inits.all fun g => f (i :: g)) := by
  rw [List.inits_cons, List.all_cons, List.all_map]
  rfl

theorem isGroupAt_nil (r : Regex) : r.isGroupAt [] = r.isGroup := by
  rw [Regex.isGroupAt, Regex.at?, Option.any_some]

section Part

variable {r part : Regex} {i : Nat}

theorem at?_part (h : r.parts[i]? = some part) (q : Place) : r.at? (i :: q) = part.at? q := by
  rw [Regex.at?, h]

theorem isGroupAt_part (h : r.parts[i]? = some part) (q : Place) :
    r.isGroupAt (i :: q) = part.isGroupAt q := by
  rw [Regex.isGroupAt, at?_part h, Regex.isGroupAt]

theorem mentionsAt_part (h : r.parts[i]? = some part) (q : Place) :
    r.mentionsAt (i :: q) = part.mentionsAt q := by
  rw [Regex.mentionsAt, at?_part h, Regex.mentionsAt]

theorem isOpen_part (h : r.parts[i]? = some part) (hr : r.isGroup = false) (q : Place) :
    r.isOpen (i :: q) = part.isOpen q := by
  rw [Regex.isOpen, all_inits_cons, isGroupAt_nil, hr]
  simp only [isGroupAt_part h]
  rfl

/-- A directive in a part has another place of the part in its scope just as it does in the part by
itself. -/
theorem reaches_part (h : r.parts[i]? = some part) (q p : Place) :
    r.reaches (i :: q) (i :: p) = part.reaches q p := by
  have haround : ∀ q, isAround (i :: q) (i :: p) = isAround q p := by
    intro q
    rw [isAround, beq_self_eq_true, Bool.true_and]
  have hbefore : isBefore (i :: q) (i :: p) = isBefore q p := by
    rw [isBefore, beq_self_eq_true, Bool.true_and, decide_eq_false (Nat.lt_irrefl i), Bool.false_or]
  unfold Regex.reaches
  rw [isGroupAt_part h, haround, hbefore, all_inits_cons]
  -- A group around the whole is around every place in it.
  have hwhole : isAround [] (i :: p) = true := rfl
  simp only [isGroupAt_part h, haround, hwhole, Bool.or_true, Bool.true_and]

/-- A directive in a part reaches later parts if no group ends its scope before. -/
theorem reaches_later (h : r.parts[i]? = some part) {j : Nat} (hij : i ≠ j) (q p : Place) :
    r.reaches (i :: q) (j :: p) = (decide (i < j) && part.isOpen q) := by
  have haround : ∀ q, isAround (i :: q) (j :: p) = false := by
    intro q
    rw [isAround, beq_eq_false_iff_ne.2 hij, Bool.false_and]
  have hbefore : isBefore (i :: q) (j :: p) = decide (i < j) := by
    rw [isBefore, beq_eq_false_iff_ne.2 hij, Bool.false_and, Bool.or_false]
  have hwhole : isAround [] (j :: p) = true := rfl
  unfold Regex.reaches Regex.isOpen
  rw [isGroupAt_part h, haround, hbefore, all_inits_cons]
  simp only [isGroupAt_part h, haround, hwhole, Bool.or_true, Bool.true_and, Bool.or_false]
  by_cases hgroup : part.isGroupAt q = true
  · -- The place itself is among those that are looked at.
    have hclosed : (q.inits.all fun g => !part.isGroupAt g) = false := by
      rw [List.all_eq_false]
      exact ⟨q, (List.mem_inits _ _).2 List.prefix_rfl, by simp [hgroup]⟩
    rw [if_pos hgroup, hclosed, Bool.and_false]
  · rw [if_neg hgroup]

theorem flatMap_mentions_part (h : r.parts[i]? = some part) (P : Place → Bool) :
    ((part.places.map (i :: ·)).filter P).flatMap r.mentionsAt =
      (part.places.filter fun q => P (i :: q)).flatMap part.mentionsAt := by
  rw [List.filter_map, List.flatMap_map]
  simp only [mentionsAt_part h]
  rfl

end Part

theorem reaches_nil (r : Regex) (q : Place) : r.reaches q [] = false := by
  have haround : isAround q [] = false := by cases q <;> rfl
  have hbefore : isBefore q [] = false := by cases q <;> rfl
  rw [Regex.reaches, haround, hbefore, Bool.false_and, ite_self]

theorem reaches_whole (r : Regex) (j : Nat) (p : Place) : r.reaches [] (j :: p) = r.isGroup := by
  rw [Regex.reaches, isGroupAt_nil]
  cases r.isGroup <;> rfl

theorem row_tail {r part : Regex} {rest : List Regex} {k : Nat}
    (hrs : ∀ i, (part :: rest)[i]? = r.parts[k + i]?) :
    r.parts[k]? = some part ∧ ∀ i, rest[i]? = r.parts[k + 1 + i]? := by
  refine ⟨(hrs 0).symm, fun i => ?_⟩
  rw [Nat.add_right_comm]
  exact hrs (i + 1)

/-- What reaches past a row is what reaches past its parts. -/
theorem openMentions_row {r : Regex} (hr : r.isGroup = false) {rs : List Regex} {k : Nat}
    (hrs : ∀ i, rs[i]? = r.parts[k + i]?) :
    ((Regex.placesFrom k rs).filter r.isOpen).flatMap r.mentionsAt =
      rs.flatMap Regex.openMentions := by
  induction rs generalizing k with
  | nil => rfl
  | cons part rest ih =>
    obtain ⟨hpart, hrest⟩ := row_tail hrs
    rw [Regex.placesFrom, List.filter_append, List.flatMap_append, List.flatMap_cons, ih hrest,
      flatMap_mentions_part hpart]
    simp only [isOpen_part hpart hr]
    rfl

/-- Nothing in a row reaches what stands before it. -/
theorem mentionsFor_row_of_lt {r : Regex} {rs : List Regex} {k : Nat}
    (hrs : ∀ i, rs[i]? = r.parts[k + i]?) {j : Nat} (hj : j < k) (p : Place) :
    ((Regex.placesFrom k rs).filter (r.reaches · (j :: p))).flatMap r.mentionsAt = [] := by
  induction rs generalizing k with
  | nil => rfl
  | cons part rest ih =>
    obtain ⟨hpart, hrest⟩ := row_tail hrs
    have hnone : (part.places.filter fun q => r.reaches (k :: q) (j :: p)) = [] := by
      apply List.filter_eq_nil_iff.2
      intro q _
      rw [reaches_later hpart (by omega), decide_eq_false (by omega), Bool.false_and]
      decide
    rw [Regex.placesFrom, List.filter_append, List.flatMap_append, flatMap_mentions_part hpart,
      ih hrest (by omega), List.append_nil, hnone]
    rfl

/-- What a place in a row is in the scope of: what reaches past the parts before it, and what it is
in the scope of within its own part. -/
theorem mentionsFor_row {r : Regex} {rs : List Regex} {k : Nat}
    (hrs : ∀ i, rs[i]? = r.parts[k + i]?) (j : Nat) (p : Place) :
    ((Regex.placesFrom k rs).filter (r.reaches · ((k + j) :: p))).flatMap r.mentionsAt =
      (rs.take j).flatMap Regex.openMentions ++
        (match rs[j]? with | some part => part.mentionsFor p | none => []) := by
  induction rs generalizing k j with
  | nil =>
    rw [List.take_nil]
    rfl
  | cons part rest ih =>
    obtain ⟨hpart, hrest⟩ := row_tail hrs
    rw [Regex.placesFrom, List.filter_append, List.flatMap_append, flatMap_mentions_part hpart]
    cases j with
    | zero =>
      -- The place is in this part, and no later one reaches it.
      rw [Nat.add_zero, mentionsFor_row_of_lt hrest (by omega), List.append_nil]
      simp only [reaches_part hpart]
      rfl
    | succ j =>
      -- The place is in a later part, so all that is open in this one reaches it.
      have hbefore : ∀ q, r.reaches (k :: q) ((k + (j + 1)) :: p) = part.isOpen q := by
        intro q
        rw [reaches_later hpart (by omega), decide_eq_true (by omega), Bool.true_and]
      have hplace : k + (j + 1) = k + 1 + j := by omega
      simp only [hbefore]
      rw [hplace, ih hrest, List.take_succ_cons, List.flatMap_cons, List.append_assoc]
      rfl

/-- What reaches past a pattern.  A group lets nothing out. -/
theorem Regex.openMentions_eq (r : Regex) : r.openMentions =
    if r.isGroup then [] else mentions true r.items ++ r.parts.flatMap Regex.openMentions := by
  rw [openMentions, places_eq]
  by_cases hr : r.isGroup = true
  · have hclosed : ∀ q, r.isOpen q = false := by
      intro q
      rw [isOpen, List.all_eq_false]
      exact ⟨[], (List.mem_inits _ _).2 List.nil_prefix, by rw [isGroupAt_nil, hr]; decide⟩
    rw [if_pos hr, List.filter_eq_nil_iff.2 fun q _ => by rw [hclosed q]; decide]
    rfl
  · rw [Bool.not_eq_true] at hr
    have hopen : r.isOpen [] = true := by
      show (!r.isGroupAt [] && true) = true
      rw [isGroupAt_nil, hr]
      rfl
    have hparts : ∀ i, r.parts[i]? = r.parts[0 + i]? := fun i => by rw [Nat.zero_add]
    have hrow := openMentions_row hr hparts
    rw [if_neg (by rw [hr]; decide), List.filter_cons_of_pos hopen, List.flatMap_cons, hrow]
    rfl

/-- A place in a part is in the scope of the directive of its group, and of what the row of the
parts has for it. -/
theorem Regex.mentionsFor_cons (r : Regex) (j : Nat) (p : Place) : r.mentionsFor (j :: p) =
    (if r.isGroup then mentions true r.items else []) ++
      ((r.parts.take j).flatMap Regex.openMentions ++
        (match r.parts[j]? with | some part => part.mentionsFor p | none => [])) := by
  have hparts : ∀ i, r.parts[i]? = r.parts[0 + i]? := fun i => by rw [Nat.zero_add]
  have hrow := mentionsFor_row hparts j p
  rw [Nat.zero_add] at hrow
  rw [mentionsFor, places_eq, ← hrow]
  by_cases hr : r.isGroup = true
  · rw [if_pos hr, List.filter_cons_of_pos (by rw [reaches_whole, hr]), List.flatMap_cons]
    rfl
  · rw [if_neg hr, List.filter_cons_of_neg (by rw [reaches_whole]; exact hr), List.nil_append]

theorem Regex.mentionsFor_nil (r : Regex) : r.mentionsFor [] = [] := by
  rw [mentionsFor, List.filter_eq_nil_iff.2 fun q _ => by rw [reaches_nil]; decide]
  rfl

/-! ## 5. Flags that are handed on -/

theorem Flags.after_nil (f : Flags) : f.after [] = f := rfl

mutual

/-- The flags after a part are those that its open mentions make. -/
theorem Regex.flagsAfter_eq (f : Flags) (r : Regex) : r.flagsAfter f = f.after r.openMentions := by
  rw [openMentions_eq]
  match r with
  | .flags span items =>
    exact (Flags.apply_eq f items).trans (congrArg f.after (List.append_nil _).symm)
  | .repetition span count greedy body =>
    exact (flagsAfter_eq f body).trans (congrArg f.after (List.append_nil _).symm)
  | .group .. => rfl
  | .alternation span rs => exact flagsAfterAll_eq f rs
  | .concat span rs => exact flagsAfterAll_eq f rs
  | .empty _ | .literal _ | .dot _ | .assertion .. | .property _ | .shorthand _ | .bracket .. => rfl

theorem Regex.flagsAfterAll_eq (f : Flags) (rs : List Regex) :
    Regex.flagsAfterAll f rs = f.after (rs.flatMap openMentions) := by
  match rs with
  | [] => rfl
  | r :: rest =>
    rw [flagsAfterAll, flagsAfter_eq f r, flagsAfterAll_eq _ rest, ← Flags.after_append]
    rfl

end

/-- The flags in front of the first part. -/
def Regex.entry (f : Flags) : Regex → Flags
  | .group _ kind _ => kind.inside f
  | _ => f

/-- The flags at a place, as they are handed on from part to part. -/
def Regex.flagsAt (f : Flags) : Regex → Place → Flags
  | _, [] => f
  | r, i :: p =>
    let before := Regex.flagsAfterAll (r.entry f) (r.parts.take i)
    match r.parts[i]? with
    | some part => part.flagsAt before p
    | none => before

theorem Regex.entry_eq (f : Flags) (r : Regex) :
    r.entry f = f.after (if r.isGroup then mentions true r.items else []) := by
  cases r with
  | group span kind body =>
    cases kind with
    | capturing => rfl
    | flags items => exact Flags.apply_eq f items
  | _ => rfl

/-- The flags that are handed on are those of the scope. -/
theorem Regex.flagsAt_eq (f : Flags) (r : Regex) (p : Place) :
    r.flagsAt f p = f.after (r.mentionsFor p) := by
  induction p generalizing f r with
  | nil => rw [flagsAt, mentionsFor_nil, Flags.after_nil]
  | cons i p ih =>
    -- In front of the part there are the directive of the group and the parts before.
    rw [mentionsFor_cons, Flags.after_append, Flags.after_append, ← entry_eq, ← flagsAfterAll_eq,
      flagsAt]
    cases r.parts[i]? with
    | none => rfl
    | some part => exact ih _ part

theorem Regex.flagsAt_start (r : Regex) (p : Place) : r.flagsAt {} p = r.flagsIn p := by
  rw [flagsAt_eq]
  rfl

/-- The flags in a part of a part are handed on from those in front of it. -/
theorem Regex.flagsAt_append {f : Flags} {r part : Regex} {p : Place} (h : r.at? p = some part)
    (q : Place) : r.flagsAt f (p ++ q) = part.flagsAt (r.flagsAt f p) q := by
  induction p generalizing f r with
  | nil =>
    obtain rfl := Option.some.inj h
    rfl
  | cons i p ih =>
    obtain ⟨next, hi, hnext⟩ := at?_cons_eq_some.1 h
    rw [List.cons_append, flagsAt, flagsAt, hi]
    exact ih hnext

/-! ## 6. Writing by place -/

mutual

/-- The counterpart of a pattern, each flag looked up at the place where it makes a difference: that
of a letter, a dot or a class, and that of the sign of a repetition. -/
def Regex.spelled (on : Place → Flags) : Regex → Except ConversionFault Ecma
  | .empty _ | .flags .. => .ok .empty
  | .literal l => .ok (ecmaLiteral (on []).ignoreCase l.char)
  | .dot _ => .ok (if (on []).dotMatchesNewline then .anyChar else .dot)
  | .assertion _ a =>
    match a.toEcma? with
    | some a => .ok (.assertion a)
    | none => .error (.inexpressible a.text)
  | .property p => .ok (.property p.excludes p.name.text)
  | .shorthand s => .ok (.escape s.toEcma)
  | .bracket _ negated body => .ok (ecmaClass (on []).ignoreCase negated body)
  | .repetition _ count greedy body => do
    let r ← body.spelled fun p => on (0 :: p)
    return .repetition count.toEcma (greedy == (on [1]).swapGreed) (grouped body.needsGroup r)
  | .group _ kind body => do
    return .group (kind matches .capturing) (← body.spelled fun p => on (0 :: p))
  | .alternation _ branches => do
    return .alternation (← Regex.branchesSpelled (fun i p => on (i :: p)) branches)
  | .concat _ parts => do
    return .concat (← Regex.partsSpelled (fun i p => on (i :: p)) parts)

def Regex.branchesSpelled (on : Nat → Place → Flags) :
    List Regex → Except ConversionFault (List Ecma)
  | [] => .ok []
  | r :: rest => do
    return (← r.spelled (on 0)) :: (← Regex.branchesSpelled (fun i => on (i + 1)) rest)

def Regex.partsSpelled (on : Nat → Place → Flags) : List Regex → Except ConversionFault (List Ecma)
  | [] => .ok []
  | r :: rest => do
    return grouped r.isAlternation (← r.spelled (on 0)) ::
      (← Regex.partsSpelled (fun i => on (i + 1)) rest)

end

/-- The flags at the places of a row. -/
def rowFlags (f : Flags) (rs : List Regex) (i : Nat) (p : Place) : Flags :=
  match rs[i]? with
  | some part => part.flagsAt (Regex.flagsAfterAll f (rs.take i)) p
  | none => Regex.flagsAfterAll f (rs.take i)

mutual

theorem Regex.toEcma_eq (f : Flags) (r : Regex) : r.toEcma f = r.spelled (r.flagsAt f) := by
  -- The flags that a part gets are those at the places that start with the step to it.
  match r with
  | .repetition span count greedy body =>
    rw [toEcma, toEcma_eq f body]
    rfl
  | .group span kind body =>
    unfold toEcma spelled
    rw [toEcma_eq (kind.inside f) body]
    rfl
  | .alternation span rs =>
    rw [toEcma, branchesToEcma_eq f rs]
    rfl
  | .concat span rs =>
    rw [toEcma, partsToEcma_eq f rs]
    rfl
  | .empty _ | .flags .. | .literal _ | .dot _ | .property _ | .shorthand _ | .bracket .. => rfl
  | .assertion span a => rfl

theorem Regex.branchesToEcma_eq (f : Flags) (rs : List Regex) :
    Regex.branchesToEcma f rs = Regex.branchesSpelled (rowFlags f rs) rs := by
  match rs with
  | [] => rfl
  | r :: rest =>
    rw [branchesToEcma, toEcma_eq f r, branchesToEcma_eq (r.flagsAfter f) rest]
    rfl

theorem Regex.partsToEcma_eq (f : Flags) (rs : List Regex) :
    Regex.partsToEcma f rs = Regex.partsSpelled (rowFlags f rs) rs := by
  match rs with
  | [] => rfl
  | r :: rest =>
    rw [partsToEcma, toEcma_eq f r, partsToEcma_eq (r.flagsAfter f) rest]
    rfl

end

/-! ## 7. What is written for a part -/

/-- The parts of an ECMAScript pattern, in the order of its text. -/
def Ecma.parts : Ecma → List Ecma
  | .repetition _ _ body | .group _ body => [body]
  | .alternation parts | .concat parts => parts
  | _ => []

/-- Whether a part is put into a group that the pattern does not have. -/
def Regex.wraps (r part : Regex) : Bool :=
  match r with
  | .repetition .. => part.needsGroup
  | .concat .. => part.isAlternation
  | _ => false

/-- What stands in a group that was put around it. -/
def Ecma.unwrapped (wrapped : Bool) (e : Ecma) : Ecma :=
  match wrapped, e with
  | true, .group _ e => e
  | _, e => e

theorem Ecma.unwrapped_grouped (wrapped : Bool) (e : Ecma) :
    (grouped wrapped e).unwrapped wrapped = e := by
  cases wrapped <;> rfl

/-- What is written at a place of a pattern. -/
def Regex.written? : Regex → Ecma → Place → Option Ecma
  | _, e, [] => some e
  | r, e, i :: p =>
    match r.parts[i]?, e.parts[i]? with
    | some part, some e => part.written? (e.unwrapped (r.wraps part)) p
    | _, _ => none

theorem placed_getElem? {f : Flags} {rs : List Regex} {i : Nat} {part : Regex}
    (hi : rs[i]? = some part) :
    (Regex.placed f rs)[i]? = some (Regex.flagsAfterAll f (rs.take i), part) := by
  induction rs generalizing f i with
  | nil => cases hi
  | cons r rest ih =>
    cases i with
    | zero =>
      obtain rfl := Option.some.inj hi
      rfl
    | succ i => exact ih hi

/-- What is written at a place of a row is related to the part at the place. -/
theorem exists_of_placed {R : Flags × Regex → Ecma → Prop} {f : Flags} {rs : List Regex}
    {es : List Ecma} (h : List.Forall₂ R (Regex.placed f rs) es) {i : Nat} {part : Regex}
    (hi : rs[i]? = some part) :
    ∃ e, es[i]? = some e ∧ R (Regex.flagsAfterAll f (rs.take i), part) e := by
  obtain ⟨hlt, hget⟩ := List.getElem?_eq_some_iff.1 (placed_getElem? (f := f) hi)
  have hlt' : i < es.length := h.length_eq ▸ hlt
  have hrelated := h.get hlt hlt'
  rw [List.get_eq_getElem, hget] at hrelated
  exact ⟨es[i], List.getElem?_eq_getElem hlt', hrelated⟩

/-- A part is converted under the flags at its place. -/
theorem toEcma_part {f : Flags} {r : Regex} {e : Ecma} (h : r.toEcma f = .ok e) {i : Nat}
    {part : Regex} (hi : r.parts[i]? = some part) :
    ∃ e', e.parts[i]? = some e' ∧
      part.toEcma (Regex.flagsAfterAll (r.entry f) (r.parts.take i)) =
        .ok (e'.unwrapped (r.wraps part)) := by
  cases r with
  | repetition span count greedy body =>
    obtain ⟨e', he', h⟩ := Except.bind_eq_ok.1 h
    obtain rfl := Except.pure_eq_ok.1 h
    cases i with
    | zero =>
      obtain rfl := Option.some.inj hi
      refine ⟨_, rfl, ?_⟩
      show body.toEcma f = .ok ((grouped body.needsGroup e').unwrapped body.needsGroup)
      rw [Ecma.unwrapped_grouped]
      exact he'
    | succ i => cases hi
  | group span kind body =>
    obtain ⟨e', he', h⟩ := Except.bind_eq_ok.1 h
    obtain rfl := Except.pure_eq_ok.1 h
    cases i with
    | zero =>
      obtain rfl := Option.some.inj hi
      exact ⟨e', rfl, he'⟩
    | succ i => cases hi
  | alternation span branches =>
    obtain ⟨es, hes, h⟩ := Except.bind_eq_ok.1 h
    obtain rfl := Except.pure_eq_ok.1 h
    exact exists_of_placed (Regex.branchesToEcma_eq_ok.1 hes) hi
  | concat span parts =>
    obtain ⟨es, hes, h⟩ := Except.bind_eq_ok.1 h
    obtain rfl := Except.pure_eq_ok.1 h
    obtain ⟨_, he, e', hpart, rfl⟩ := exists_of_placed (Regex.partsToEcma_eq_ok.1 hes) hi
    refine ⟨_, he, ?_⟩
    show part.toEcma _ = .ok ((grouped part.isAlternation e').unwrapped part.isAlternation)
    rw [Ecma.unwrapped_grouped]
    exact hpart
  | _ => cases hi

/-- Whatever is written at a place is what stands there, converted under the flags at the place. -/
theorem toEcma_written {f : Flags} {r : Regex} {e : Ecma} (h : r.toEcma f = .ok e) {p : Place}
    {part : Regex} (hp : r.at? p = some part) :
    ∃ e', r.written? e p = some e' ∧ part.toEcma (r.flagsAt f p) = .ok e' := by
  induction p generalizing f r e with
  | nil =>
    obtain rfl := Option.some.inj hp
    exact ⟨e, rfl, h⟩
  | cons i p ih =>
    obtain ⟨next, hi, hp⟩ := Regex.at?_cons_eq_some.1 hp
    obtain ⟨e', he', hnext⟩ := toEcma_part h hi
    rw [Regex.written?, Regex.flagsAt, hi, he']
    exact ih hnext hp

/-! ## 8. Signs of repetitions -/

/-- No operand of a repetition lets the mention of a flag out. -/
def Regex.Contained (r : Regex) : Prop :=
  ∀ p span count greedy body, r.at? p = some (.repetition span count greedy body) →
    body.openMentions = []

theorem Regex.contained_of_parts {r : Regex} (hparts : ∀ part ∈ r.parts, part.Contained)
    (hself : ∀ span count greedy body, r = .repetition span count greedy body →
      body.openMentions = []) : r.Contained := by
  intro p span count greedy body hp
  cases p with
  | nil => exact hself _ _ _ _ (Option.some.inj hp)
  | cons i p =>
    obtain ⟨part, hi, hpart⟩ := at?_cons_eq_some.1 hp
    exact hparts part (List.mem_of_getElem? hi) p span count greedy body hpart

theorem Regex.openMentions_eq_nil {r : Regex} (hr : r.isRepeatable = true) (hs : r.isSingle = true)
    (hc : r.Contained) : r.openMentions = [] := by
  rw [openMentions_eq]
  cases r with
  | empty | flags => cases hr
  | alternation | concat => cases hs
  | repetition span count greedy body =>
    -- What could get out of a repetition would have to get out of its operand.
    have hbody : body.openMentions = [] := hc [] span count greedy body rfl
    show [] ++ (body.openMentions ++ []) = []
    rw [hbody]
    rfl
  | _ => rfl

/-- The reader gives a repetition one part for its operand, and no directive. -/
theorem Regex.kept_contained : Kept Regex.Contained where
  leaf {r} _ hleaf := by
    cases r with
    | repetition | group | alternation | concat => cases hleaf
    | _ => exact contained_of_parts (List.forall_mem_nil _) nofun
  repetition _ hr hs h := by
    refine contained_of_parts (List.forall_mem_singleton.2 h) ?_
    intro span count greedy body heq
    cases heq
    exact openMentions_eq_nil hr hs h
  group h := contained_of_parts (List.forall_mem_singleton.2 h) nofun
  alternation _ h := contained_of_parts (fun part hpart => (h part hpart).1) nofun
  concat h := contained_of_parts h nofun

/-- The flags at the sign of a repetition are those in front of the repetition. -/
theorem flagsIn_sign {r : Regex} (hc : r.Contained) {p : Place} {span : Span} {count : Count}
    {greedy : Bool} {body : Regex} (hp : r.at? p = some (.repetition span count greedy body)) :
    r.flagsIn (p ++ [1]) = r.flagsIn p := by
  rw [← Regex.flagsAt_start, ← Regex.flagsAt_start, Regex.flagsAt_append hp]
  show body.flagsAfter (r.flagsAt {} p) = r.flagsAt {} p
  rw [Regex.flagsAfter_eq, hc p span count greedy body hp, Flags.after_nil]

/-! ## 9. Scope and conversion -/

/-- What is written for a part shows the flags that are on at its place. -/
structure Regex.Shows (r : Regex) (p : Place) (part : Regex) (e : Ecma) : Prop where
  converted : part.toEcma (r.flagsIn p) = .ok e
  dot : ∀ span, part = .dot span →
    e.text = if r.isOn .dotMatchesNewline p then "[\\s\\S]" else "."
  sign : ∀ span count greedy body, part = .repetition span count greedy body →
    ∃ operand : Ecma, e.print = operand.print ++ count.toEcma.print ++
      if xor greedy (r.isOn .swapGreed (p ++ [1])) then [] else ['?']

theorem shows_of_converted {r part : Regex} {p : Place} {e : Ecma} (hp : r.at? p = some part)
    (h : part.toEcma (r.flagsIn p) = .ok e) : r.Shows p part e := by
  refine ⟨h, ?_, ?_⟩
  · intro span heq
    rw [heq] at h
    obtain rfl := Except.ok.inj h
    show Ecma.text (if r.isOn .dotMatchesNewline p then .anyChar else .dot) = _
    cases r.isOn .dotMatchesNewline p <;> rfl
  · intro span count greedy body heq
    rw [heq] at h hp
    obtain ⟨operand, -, h⟩ := Except.bind_eq_ok.1 h
    obtain rfl := Except.pure_eq_ok.1 h
    -- The sign stands after the operand.
    have hsign : (body.flagsAfter (r.flagsIn p)).swapGreed = r.isOn .swapGreed (p ++ [1]) := by
      have hflags := Regex.flagsAt_append (f := {}) hp [1]
      rw [Regex.flagsAt_start, Regex.flagsAt_start] at hflags
      exact (congrArg Flags.swapGreed hflags).symm
    refine ⟨grouped body.needsGroup operand, ?_⟩
    rw [hsign, Ecma.print]
    cases greedy <;> cases r.isOn .swapGreed (p ++ [1]) <;> rfl

/-- Flags have the scope of their directives in every conversion.  The conversion is the one that
looks up each flag at the place where it makes a difference; what is written for a part is the part
converted under the flags at its place; and in a pattern that is read, the sign of a repetition is
in the scope of the same directives as the repetition. -/
theorem toEcma_scoped (r : Regex) :
    r.toEcma {} = r.spelled r.flagsIn ∧
    (∀ e, r.toEcma {} = .ok e → ∀ p part, r.at? p = some part →
      ∃ e', r.written? e p = some e' ∧ r.Shows p part e') ∧
    ∀ pattern, parse pattern = .ok r → ∀ p span count greedy body,
      r.at? p = some (.repetition span count greedy body) → r.flagsIn (p ++ [1]) = r.flagsIn p := by
  refine ⟨?_, ?_, ?_⟩
  · have hflags : r.flagsAt {} = r.flagsIn := funext r.flagsAt_start
    rw [r.toEcma_eq, hflags]
  · intro e he p part hp
    obtain ⟨e', he', hpart⟩ := toEcma_written he hp
    rw [r.flagsAt_start] at hpart
    exact ⟨e', he', shows_of_converted hp hpart⟩
  · intro pattern hr p span count greedy body hp
    exact flagsIn_sign (Regex.kept_contained.parse hr) hp

/-- One directive by itself and one of a group, with a branch after both. -/
def branchAfterGroup : Regex :=
  .alternation ⟨⟨0, 1, 1⟩, ⟨17, 1, 18⟩⟩
    [.concat ⟨⟨0, 1, 1⟩, ⟨14, 1, 15⟩⟩
      [.flags ⟨⟨0, 1, 1⟩, ⟨4, 1, 5⟩⟩ [.flag .dotMatchesNewline],
        .group ⟨⟨4, 1, 5⟩, ⟨13, 1, 14⟩⟩
          (.flags [.flag .swapGreed, .minus, .flag .dotMatchesNewline])
          (.repetition ⟨⟨10, 1, 11⟩, ⟨12, 1, 13⟩⟩ .some true (.dot ⟨⟨10, 1, 11⟩, ⟨11, 1, 12⟩⟩)),
        .dot ⟨⟨13, 1, 14⟩, ⟨14, 1, 15⟩⟩],
      .repetition ⟨⟨15, 1, 16⟩, ⟨17, 1, 18⟩⟩ .any true (.dot ⟨⟨15, 1, 16⟩, ⟨16, 1, 17⟩⟩)]

theorem parse_branchAfterGroup : parse "(?s)(?U-s:.+).|.*" = .ok branchAfterGroup := by
  have hchars : "(?s)(?U-s:.+).|.*".toList = ['(', '?', 's', ')', '(', '?', 'U', '-', 's', ':', '.',
    '+', ')', '.', '|', '.', '*'] := by decide
  unfold parse Cursor.ofPattern
  rw [hchars]
  cbv

/-- The flags of the group hold in it and no further, and the directive in front of it holds in the
later branch. -/
theorem branchAfterGroup_scoped :
    parse "(?s)(?U-s:.+).|.*" = .ok branchAfterGroup ∧
      ∃ e, branchAfterGroup.toEcma {} = .ok e ∧ e.text = "(?:.+?)[\\s\\S]|[\\s\\S]*" ∧
        (∃ e', branchAfterGroup.written? e [0, 1, 0, 0] = some e' ∧ e'.text = ".") ∧
        (∃ e', branchAfterGroup.written? e [1, 0] = some e' ∧ e'.text = "[\\s\\S]") ∧
        branchAfterGroup.flagsIn ([0, 1, 0] ++ [1]) = branchAfterGroup.flagsIn [0, 1, 0] := by
  obtain ⟨-, hwritten, hsign⟩ := toEcma_scoped branchAfterGroup
  obtain ⟨inside, hinside, hplain⟩ := hwritten _ rfl [0, 1, 0, 0] _ rfl
  obtain ⟨after, hafter, hany⟩ := hwritten _ rfl [1, 0] _ rfl
  refine ⟨parse_branchAfterGroup, _, rfl, by rfl, ?_, ?_, ?_⟩
  · exact ⟨inside, hinside, hplain.dot _ rfl⟩
  · exact ⟨after, hafter, hany.dot _ rfl⟩
  · exact hsign _ parse_branchAfterGroup [0, 1, 0] _ _ _ _ rfl

end ProtoSchema.Pattern
