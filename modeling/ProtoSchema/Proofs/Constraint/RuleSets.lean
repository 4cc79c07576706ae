import ProtoSchema.Proofs.Constraint.Bounds
import ProtoSchema.Proofs.Constraint.Keys
import ProtoSchema.Proofs.Constraint.Rules

/-!
# Sets of rules

Constraints have a place for each set of rules, and at most one set is ever read.  The sets that are
given stand in a row, in the order of their keys.  Each of them can be read but the numeric ones
that are malformed, the first of which is the fault; if all can be read, there may be one at most.
-/

namespace ProtoSchema

/-! ## 1. The sets that are given -/

/-- The keys of the sets of rules. -/
inductive RuleKey
  | numeric (kind : NumericKind)
  | bool
  | string
  | bytes
  | enumeration
  | repeated
  | map
  | any
  | duration
  | timestamp
deriving DecidableEq, Repr

namespace RuleKey

/-- The kinds of numbers, in the order of their sets. -/
def kinds : List NumericKind :=
  [.float, .double, .int32, .int64, .uint32, .uint64, .sint32, .sint64, .fixed32, .fixed64,
    .sfixed32, .sfixed64]

/-- The keys that are not numeric, in the order of their sets. -/
def others : List RuleKey :=
  [bool, string, bytes, enumeration, repeated, map, any, duration, timestamp]

/-- All keys, in order. -/
def declared : List RuleKey := kinds.map numeric ++ others

theorem mem_declared (key : RuleKey) : key ∈ declared := by
  cases key with
  | numeric kind => cases kind <;> decide
  | _ => decide

def name : RuleKey → String
  | numeric kind => kind.name
  | bool => "bool"
  | string => "string"
  | bytes => "bytes"
  | enumeration => "enum"
  | repeated => "repeated"
  | map => "map"
  | any => "any"
  | duration => "duration"
  | timestamp => "timestamp"

/-- The keys are those of a record of constraints, after the three that are about no set. -/
theorem names_declared :
    RecordKind.constraints.names = ["required", "ignore", "ignore_empty"] ++ declared.map name :=
  rfl

end RuleKey

/-- A number in the format in which it is given. -/
inductive GivenNumber
  | single (x : BinaryFloat)
  | double (x : BinaryFloat)
  | integer (n : Int)
deriving DecidableEq, Repr

namespace GivenNumber

def isFinite : GivenNumber → Bool
  | single x | double x => x.isFinite
  | integer _ => true

/-- The JSON number. -/
def number? : GivenNumber → Option Number
  | single x => Number.ofBinary32? x
  | double x => Number.ofBinary64? x
  | integer n => some (.int n)

/-- The numbers that are finite have a JSON number. -/
theorem isSome_number? : (fun x : GivenNumber => x.number?.isSome) = isFinite := by
  funext x
  cases x with
  | single x | double x => cases x <;> rfl
  | integer n => rfl

end GivenNumber

namespace FieldConstraints

variable (c : FieldConstraints)

/-- The rules on numbers of a kind. -/
def numeric? : NumericKind → Option (NumericRules GivenNumber)
  | .float => c.float.map (·.map .single)
  | .double => c.double.map (·.map .double)
  | .int32 => c.int32.map (·.map .integer)
  | .int64 => c.int64.map (·.map .integer)
  | .uint32 => c.uint32.map (·.map .integer)
  | .uint64 => c.uint64.map (·.map .integer)
  | .sint32 => c.sint32.map (·.map .integer)
  | .sint64 => c.sint64.map (·.map .integer)
  | .fixed32 => c.fixed32.map (·.map .integer)
  | .fixed64 => c.fixed64.map (·.map .integer)
  | .sfixed32 => c.sfixed32.map (·.map .integer)
  | .sfixed64 => c.sfixed64.map (·.map .integer)

/-- The rules at a key that is not numeric. -/
def other? : RuleKey → Option Rules
  | .numeric _ => none
  | .bool => c.bool.map .bool
  | .string => c.string.map .string
  | .bytes => c.bytes.map .bytes
  | .enumeration => c.enumeration.map .enumeration
  | .repeated => c.repeated.map .repeated
  | .map => c.map.map .map
  | .any => c.any.map .any
  | .duration => c.duration.map .duration
  | .timestamp => c.timestamp.map .timestamp

/-- Whether a set of rules is given. -/
def gives : RuleKey → Bool
  | .numeric kind => (c.numeric? kind).isSome
  | key => (c.other? key).isSome

/-- The keys of the sets that are given. -/
def given : List RuleKey := RuleKey.declared.filter c.gives

theorem mem_given {key : RuleKey} : key ∈ c.given ↔ c.gives key = true := by
  rw [given, List.mem_filter, and_iff_right key.mem_declared]

/-! ## 2. How a set is read -/

/-- What the set at a key is read as.  Each number of a numeric one has its JSON number in its
place. -/
inductive ReadsAs : RuleKey → Rules → Prop
  | numeric {kind : NumericKind} {r : NumericRules GivenNumber} {bounds : NumberRules}
      (given : c.numeric? kind = some r) (wellFormed : r.WellFormed GivenNumber.isFinite)
      (numbers : r.Corresponds (fun x y => x.number? = some y) bounds) :
      ReadsAs (.numeric kind) (.numeric kind bounds)
  | other {key : RuleKey} {r : Rules} (given : c.other? key = some r) : ReadsAs key r

/-- The set at a key is numeric and malformed. -/
inductive MalformedAt : RuleKey → Prop
  | numeric {kind : NumericKind} {r : NumericRules GivenNumber} (given : c.numeric? kind = some r)
      (h : ¬ r.WellFormed GivenNumber.isFinite) : MalformedAt (.numeric kind)

/-- What comes of reading the set at a key, if it is given. -/
def reading? : RuleKey → Option (Except RulesFault Rules)
  | .numeric kind => (c.numeric? kind).map fun r =>
    match r.bounds GivenNumber.number? with
    | .ok bounds => .ok (.numeric kind bounds)
    | .error fault => .error (.numeric kind fault)
  | key => (c.other? key).map .ok

variable {c}

theorem isSome_reading? (key : RuleKey) : (c.reading? key).isSome = c.gives key := by
  cases key <;> exact Option.isSome_map

theorem readsAs_other {key : RuleKey} {r : Rules} (hkey : ∀ kind, key ≠ .numeric kind) :
    c.ReadsAs key r ↔ c.other? key = some r := by
  constructor
  · intro h
    cases h with
    | numeric => exact absurd rfl (hkey _)
    | other given => exact given
  · exact .other

theorem readsAs_numeric {kind : NumericKind} {r : Rules} :
    c.ReadsAs (.numeric kind) r ↔ ∃ s bounds, c.numeric? kind = some s ∧
      s.bounds GivenNumber.number? = .ok bounds ∧ r = .numeric kind bounds := by
  simp only [NumericRules.bounds_eq_ok_iff, GivenNumber.isSome_number?]
  constructor
  · intro h
    cases h with
    | numeric given wellFormed numbers => exact ⟨_, _, given, ⟨wellFormed, numbers⟩, rfl⟩
    | other given => cases given
  · rintro ⟨s, bounds, given, ⟨wellFormed, numbers⟩, rfl⟩
    exact .numeric given wellFormed numbers

theorem reading?_eq_ok {key : RuleKey} {r : Rules} :
    c.reading? key = some (.ok r) ↔ c.ReadsAs key r := by
  by_cases hkey : ∀ kind, key ≠ .numeric kind
  · have heq : c.reading? key = (c.other? key).map .ok := by
      cases key with
      | numeric kind => exact absurd rfl (hkey kind)
      | _ => rfl
    rw [readsAs_other hkey, heq]
    simp
  · obtain ⟨kind, rfl⟩ := not_forall_not.1 hkey
    simp only [reading?, Option.map_eq_some_iff, readsAs_numeric]
    refine exists_congr fun s => ?_
    cases hs : s.bounds GivenNumber.number? with
    | ok bounds => simp [eq_comm]
    | error why => simp

theorem reading?_eq_error {key : RuleKey} {fault : RulesFault} :
    c.reading? key = some (.error fault) ↔
      ∃ kind r why, key = .numeric kind ∧ c.numeric? kind = some r ∧
        r.fault? GivenNumber.number? = some why ∧ fault = .numeric kind why := by
  simp only [← NumericRules.bounds_eq_error_iff]
  cases key with
  | numeric kind =>
    simp only [reading?, Option.map_eq_some_iff]
    constructor
    · rintro ⟨r, hr, h⟩
      cases hb : r.bounds GivenNumber.number? with
      | ok bounds => simp [hb] at h
      | error why =>
        rw [hb] at h
        cases h
        exact ⟨kind, r, why, rfl, hr, hb, rfl⟩
    · rintro ⟨_, r, why, ⟨⟩, hr, hb, rfl⟩
      exact ⟨r, hr, by rw [hb]⟩
  | _ => simp [reading?]

/-- A set that is given is read, unless it is malformed. -/
theorem not_malformedAt_iff {key : RuleKey} (hkey : key ∈ c.given) :
    ¬ c.MalformedAt key ↔ ∃ r, c.reading? key = some (.ok r) := by
  rw [mem_given, ← isSome_reading?] at hkey
  obtain ⟨x, hx⟩ := Option.isSome_iff_exists.1 hkey
  rw [hx]
  -- The set has a reading, so it is malformed exactly if that is a fault.
  cases x with
  | ok r =>
    refine iff_of_true (fun hmalformed => ?_) ⟨r, rfl⟩
    cases hmalformed with
    | numeric given h =>
      cases reading?_eq_ok.1 hx with
      | numeric given' wellFormed =>
        rw [given', Option.some.injEq] at given
        rw [given] at wellFormed
        exact h wellFormed
      | other given' => cases given'
  | error fault =>
    refine iff_of_false ?_ fun ⟨r, hr⟩ => nomatch hr
    obtain ⟨kind, r, why, rfl, hr, hwhy, -⟩ := reading?_eq_error.1 hx
    refine not_not.2 (.numeric hr fun hwell => ?_)
    rw [← GivenNumber.isSome_number?, ← NumericRules.fault?_eq_none_iff, hwhy] at hwell
    cases hwell

/-- The readings of the sets that are given. -/
def readings (c : FieldConstraints) : List (Except RulesFault Rules) :=
  RuleKey.declared.filterMap c.reading?

theorem map_some_readings : c.readings.map some = c.given.map c.reading? := by
  have hgiven : c.given = RuleKey.declared.filter fun key => (c.reading? key).isSome := by
    simp only [isSome_reading?]
    rfl
  rw [hgiven, readings]
  -- Both sides leave out the keys without a reading, whatever the row of keys is.
  induction RuleKey.declared with
  | nil => rfl
  | cons key keys ih =>
    rw [List.filterMap_cons]
    cases hkey : c.reading? key with
    | none => simpa [hkey] using ih
    | some x => simpa [hkey] using ih

/-! ## 3. The sets in a row -/

theorem numericRules_eq (c : FieldConstraints) :
    c.numericRules = RuleKey.kinds.filterMap fun kind =>
      (c.numeric? kind).map fun r => (kind, r.bounds GivenNumber.number?) := by
  have hmap : ∀ {α : Type} (kind : NumericKind) (g : α → GivenNumber) (o : Option (NumericRules α)),
      ((o.map (·.map g)).map fun r => (kind, r.bounds GivenNumber.number?)) =
        o.map fun r => (kind, r.bounds fun x => (g x).number?) := by
    intro α kind g o
    simp only [Option.map_map, Function.comp_def, NumericRules.bounds_map]
  rw [← Function.id_comp (fun kind => Option.map _ (c.numeric? kind)), ← List.filterMap_map]
  simp only [RuleKey.kinds, List.map_cons, List.map_nil, numeric?, hmap]
  rfl

/-- At most one set of rules, or the fault that there are several. -/
def atMostOne : List Rules → Except RulesFault (Option Rules)
  | [] => .ok none
  | [r] => .ok (some r)
  | several => .error (.several (several.map Rules.name))

theorem atMostOne_eq_ok {rs : List Rules} {o : Option Rules} :
    atMostOne rs = .ok o ↔ rs = o.toList := by
  match rs, o with
  | [], none => exact iff_of_true rfl rfl
  | [], some r => exact iff_of_false nofun nofun
  | [r], none => exact iff_of_false nofun nofun
  | [r], some s => simp [atMostOne]
  | _ :: _ :: _, none => exact iff_of_false nofun nofun
  | _ :: _ :: _, some r => exact iff_of_false nofun nofun

theorem atMostOne_eq_error {rs : List Rules} {fault : RulesFault} :
    atMostOne rs = .error fault ↔ 2 ≤ rs.length ∧ fault = .several (rs.map Rules.name) := by
  match rs with
  | [] => simp [atMostOne]
  | [r] => simp [atMostOne]
  | r :: s :: rs => simp [atMostOne, eq_comm]

theorem mapM_id_append_ok {ε ρ : Type} (xs : List (Except ε ρ)) (rs : List ρ) :
    (xs ++ rs.map Except.ok).mapM id = xs.mapM id >>= fun ys => .ok (ys ++ rs) := by
  have hrs : (rs.map Except.ok).mapM id = (Except.ok rs : Except ε (List ρ)) := by
    rw [Except.mapM_eq_ok, List.forall₂_map_left_iff]
    exact List.forall₂_same.2 fun _ _ => rfl
  rw [List.mapM_append, hrs]
  rfl

/-- The sets that are given are read in order, and there may be one at most. -/
theorem rules_eq (c : FieldConstraints) : c.rules = c.readings.mapM id >>= atMostOne := by
  have hothers : RuleKey.others.filterMap c.reading? = c.otherRules.map Except.ok := by
    rw [otherRules, List.map_filterMap, ← Function.id_comp c.reading?, ← List.filterMap_map]
    rfl
  have hkinds : (RuleKey.kinds.map .numeric).filterMap c.reading? = c.numericRules.map fun x =>
      match x.2 with
      | .ok bounds => .ok (.numeric x.1 bounds)
      | .error fault => .error (.numeric x.1 fault) := by
    rw [numericRules_eq, List.map_filterMap, List.filterMap_map]
    simp only [Option.map_map]
    rfl
  rw [readings, RuleKey.declared, List.filterMap_append, hothers, hkinds, mapM_id_append_ok,
    List.mapM_map, bind_assoc]
  apply Except.bind_congr
  intro numeric _
  show _ = atMostOne (numeric ++ c.otherRules)
  match numeric ++ c.otherRules with
  | [] => rfl
  | [_] => rfl
  | _ :: _ :: _ => rfl

theorem mapM_readings_eq_ok {rs : List Rules} :
    c.readings.mapM id = .ok rs ↔ List.Forall₂ c.ReadsAs c.given rs := by
  have hreads : c.ReadsAs = fun key r => c.reading? key = some (.ok r) := by
    funext key r
    exact propext reading?_eq_ok.symm
  calc c.readings.mapM id = .ok rs
      ↔ List.Forall₂ (fun x r => x = some (.ok r)) (c.readings.map some) rs := by
        rw [Except.mapM_eq_ok, List.forall₂_map_left_iff]
        simp only [Option.some.injEq, id]
    _ ↔ List.Forall₂ c.ReadsAs c.given rs := by
        rw [map_some_readings, List.forall₂_map_left_iff, hreads]

theorem mapM_readings_eq_error {fault : RulesFault} :
    c.readings.mapM id = .error fault ↔ ∃ before kind after r why,
      c.given = before ++ .numeric kind :: after ∧ (∀ key ∈ before, ¬ c.MalformedAt key) ∧
        c.numeric? kind = some r ∧ r.fault? GivenNumber.number? = some why ∧
          fault = .numeric kind why := by
  -- What is given has a reading, so the default never counts.
  let read := fun key => (c.reading? key).getD (.error fault)
  have hread : ∀ key ∈ c.given, c.reading? key = some (read key) := by
    intro key hkey
    rw [mem_given, ← isSome_reading?] at hkey
    obtain ⟨x, hx⟩ := Option.isSome_iff_exists.1 hkey
    simp only [read, hx, Option.getD_some]
  have hmap : c.readings = c.given.map read := by
    apply List.map_injective_iff.2 (Option.some_injective _)
    rw [map_some_readings, List.map_map]
    exact List.map_congr_left hread
  rw [hmap, List.mapM_map, Except.mapM_eq_error]
  constructor
  · rintro ⟨before, key, after, hgiven, hbefore, hkey⟩
    have hreadKey := hread key (by simp [hgiven])
    rw [show read key = .error fault from hkey] at hreadKey
    obtain ⟨kind, r, why, rfl, hr, hwhy, hfault⟩ := reading?_eq_error.1 hreadKey
    refine ⟨before, kind, after, r, why, hgiven, fun k hk => ?_, hr, hwhy, hfault⟩
    have hk' : k ∈ c.given := by simp [hgiven, hk]
    obtain ⟨r, hr⟩ := hbefore k hk
    exact (not_malformedAt_iff hk').2 ⟨r, (hread k hk').trans (congrArg some hr)⟩
  · rintro ⟨before, kind, after, r, why, hgiven, hbefore, hr, hwhy, hfault⟩
    refine ⟨before, .numeric kind, after, hgiven, fun k hk => ?_, ?_⟩
    · have hk' : k ∈ c.given := by simp [hgiven, hk]
      obtain ⟨r, hr⟩ := (not_malformedAt_iff hk').1 (hbefore k hk)
      exact ⟨r, Option.some.inj ((hread k hk').symm.trans hr)⟩
    · have hreadKey := hread (.numeric kind) (by simp [hgiven])
      rw [reading?_eq_error.2 ⟨kind, r, why, rfl, hr, hwhy, hfault⟩] at hreadKey
      exact (Option.some.inj hreadKey).symm

/-! ## 4. What is read -/

theorem ReadsAs.name_eq {key : RuleKey} {r : Rules} (h : c.ReadsAs key r) : r.name = key.name := by
  cases h with
  | numeric => rfl
  | other given =>
    cases key with
    | numeric kind => cases given
    | _ =>
      obtain ⟨s, -, rfl⟩ := Option.map_eq_some_iff.1 given
      rfl

theorem ReadsAs.mem_given {key : RuleKey} {r : Rules} (h : c.ReadsAs key r) : key ∈ c.given := by
  rw [FieldConstraints.mem_given, ← isSome_reading?, reading?_eq_ok.2 h]
  rfl

theorem ReadsAs.not_malformedAt {key : RuleKey} {r : Rules} (h : c.ReadsAs key r) :
    ¬ c.MalformedAt key :=
  (not_malformedAt_iff h.mem_given).2 ⟨r, reading?_eq_ok.2 h⟩

/-- All that is given is read if nothing of it is malformed. -/
theorem exists_readings (h : ∀ key ∈ c.given, ¬ c.MalformedAt key) :
    ∃ rs, List.Forall₂ c.ReadsAs c.given rs := by
  apply exists_forall₂
  intro key hkey
  obtain ⟨r, hr⟩ := (not_malformedAt_iff hkey).1 (h key hkey)
  exact ⟨r, reading?_eq_ok.1 hr⟩

theorem not_malformedAt_of_readings {rs : List Rules} (h : List.Forall₂ c.ReadsAs c.given rs) :
    ∀ key ∈ c.given, ¬ c.MalformedAt key := by
  intro key hkey
  obtain ⟨r, -, hr⟩ := forall₂_exists_right h hkey
  exact hr.not_malformedAt

theorem names_of_readings {rs : List Rules} (h : List.Forall₂ c.ReadsAs c.given rs) :
    rs.map Rules.name = c.given.map RuleKey.name :=
  map_eq_of_forall₂ (fun _ _ hr => hr.name_eq) h

theorem rules_eq_ok_iff {o : Option Rules} :
    c.rules = .ok o ↔ List.Forall₂ c.ReadsAs c.given o.toList := by
  rw [rules_eq, Except.bind_eq_ok]
  simp only [mapM_readings_eq_ok, atMostOne_eq_ok, exists_eq_right]

theorem rules_eq_malformed {kind : NumericKind} {why : BoundsFault} :
    c.rules = .error (.numeric kind why) ↔ c.readings.mapM id = .error (.numeric kind why) := by
  rw [rules_eq, Except.bind_eq_error]
  -- If every set is read, the fault is that there are several.
  apply or_iff_left
  rintro ⟨rs, -, h⟩
  cases (atMostOne_eq_error.1 h).2

theorem rules_eq_several {names : List String} :
    c.rules = .error (.several names) ↔ ∃ rs, List.Forall₂ c.ReadsAs c.given rs ∧
      2 ≤ rs.length ∧ names = rs.map Rules.name := by
  rw [rules_eq, Except.bind_eq_error]
  simp only [mapM_readings_eq_ok, atMostOne_eq_error, RulesFault.several.injEq]
  apply or_iff_right
  intro h
  obtain ⟨_, _, _, _, _, _, _, _, _, hfault⟩ := mapM_readings_eq_error.1 h
  cases hfault

/-- At most one set of rules is read.  Nothing is read where none is given; a set that is given
alone and is not malformed is read under its key, with each of its numbers in its place.  Everything
else is a fault: the first of the malformed sets, however many are given, and if there is none the
keys of all that are given, in order.  No set is forgotten: the keys are those of the record. -/
theorem rules_outcome (c : FieldConstraints) :
    (c.rules = .ok none ↔ c.given = []) ∧
    (∀ r, c.rules = .ok (some r) ↔ ∃ key, c.given = [key] ∧ c.ReadsAs key r ∧ r.name = key.name) ∧
    (∀ kind why, c.rules = .error (.numeric kind why) ↔ ∃ before after r,
      c.given = before ++ .numeric kind :: after ∧ (∀ key ∈ before, ¬ c.MalformedAt key) ∧
        c.numeric? kind = some r ∧ r.fault? GivenNumber.number? = some why) ∧
    (∀ names, c.rules = .error (.several names) ↔
      (∀ key ∈ c.given, ¬ c.MalformedAt key) ∧ 2 ≤ c.given.length ∧
        names = c.given.map RuleKey.name) ∧
    RecordKind.constraints.names =
      ["required", "ignore", "ignore_empty"] ++ RuleKey.declared.map RuleKey.name := by
  refine ⟨?_, fun r => ?_, fun kind why => ?_, fun names => ?_, RuleKey.names_declared⟩
  · rw [rules_eq_ok_iff, Option.toList_none, List.forall₂_nil_right_iff]
  · rw [rules_eq_ok_iff, Option.toList_some, List.forall₂_cons_right_iff]
    simp only [List.forall₂_nil_right_iff]
    constructor
    · rintro ⟨key, _, hr, rfl, hgiven⟩
      exact ⟨key, hgiven, hr, hr.name_eq⟩
    · rintro ⟨key, hgiven, hr, -⟩
      exact ⟨key, [], hr, rfl, hgiven⟩
  · rw [rules_eq_malformed, mapM_readings_eq_error]
    constructor
    · rintro ⟨before, _, after, r, _, hgiven, hbefore, hr, hwhy, ⟨⟩⟩
      exact ⟨before, after, r, hgiven, hbefore, hr, hwhy⟩
    · rintro ⟨before, after, r, hgiven, hbefore, hr, hwhy⟩
      exact ⟨before, kind, after, r, why, hgiven, hbefore, hr, hwhy, rfl⟩
  · rw [rules_eq_several]
    constructor
    · rintro ⟨rs, hrs, hlength, rfl⟩
      exact ⟨not_malformedAt_of_readings hrs, hrs.length_eq ▸ hlength, names_of_readings hrs⟩
    · rintro ⟨hgiven, hlength, rfl⟩
      obtain ⟨rs, hrs⟩ := exists_readings hgiven
      exact ⟨rs, hrs, hrs.length_eq ▸ hlength, (names_of_readings hrs).symm⟩

/-- A malformed set counts before there being two. -/
example : ({ string := some {}, int32 := some { gt := some 1, gte := some 2 } } :
    FieldConstraints).rules = .error (.numeric .int32 (.exclusive "gt" "gte")) := rfl

end FieldConstraints

end ProtoSchema
