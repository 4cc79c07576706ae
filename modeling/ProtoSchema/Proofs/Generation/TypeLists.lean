import ProtoSchema.Proofs.Generation.Meaning

/-!
# Lists of message types

A dynamically typed message names its type in one of its members, and rules may list the types that
it may name and those that it may not.  A message that names no type passes a list of the types that
it may name.
-/

namespace ProtoSchema

open Generation

/-- The object names none of the types. -/
def NamesNoTypeOf (types : List String) (members : List (String × Json)) : Prop :=
  ∀ text ∈ types, (typeMember, .string text) ∉ members

namespace Generation

open Draft

/-- An object has one member of each name at most, so if it names its type it names one type. -/
theorem not_namesTypeAmong_iff {types : List String} {members : List (String × Json)}
    (hnodup : (members.map (·.1)).Nodup) (hpresent : Present members typeMember) :
    ¬ NamesTypeAmong types members ↔ NamesNoTypeOf types members := by
  obtain ⟨w, hw⟩ := hpresent
  -- Among distinct names this one occurs once.
  have honly : ∀ w', (typeMember, w') ∈ members → w' = w := fun w' hw' =>
    congrArg Prod.snd (List.inj_on_of_nodup_map hnodup hw' hw rfl)
  constructor
  · intro hnot text htext hmem
    apply hnot
    intro w' hw'
    exact ⟨text, htext, (honly w' hw').trans (honly _ hmem).symm⟩
  · intro hnone hamong
    obtain ⟨text, htext, rfl⟩ := hamong w hw
    exact hnone text htext hw

variable {δ : Dialect} {refs : Reference → Json → Prop}

theorem holds_anyUnder {r : AnyRules} {members : List (String × Json)} :
    (anyUnder r).Holds δ refs (.object members) ↔
      refs (.definition (Target.shared .any).key) (.object members) ∧
        (r.allow = [] ∨ NamesTypeAmong r.allow members) ∧
        (r.deny = [] ∨ ¬ NamesTypeAmong r.deny members) := by
  rw [anyUnder, Schema.holds_conjunction, List.forall_mem_cons, holds_anyRules, Schema.Holds]

/-- Among the objects that the shared definition accepts, the schema of dynamically typed messages
picks those whose type, if they name one, is in the list of allowed types, if there is one, and in no
case in the list of denied types.  Nothing is said of objects that name no type where types are
denied. -/
theorem anySchema_exact {o : Option AnyRules} {s : Schema} {ts : List Target}
    (h : (anySchema o).Yields s ts) {members : List (String × Json)}
    (hnodup : (members.map (·.1)).Nodup)
    (hshared : refs (.definition (Target.shared .any).key) (.object members))
    (hnamed : (o.getD {}).deny = [] ∨ Present members typeMember) :
    s.Holds δ refs (.object members) ↔
      ((o.getD {}).allow = [] ∨ NamesTypeAmong (o.getD {}).allow members) ∧
        NamesNoTypeOf (o.getD {}).deny members := by
  obtain ⟨rfl, -⟩ := Yields.any h
  have hdeny : ((o.getD {}).deny = [] ∨ ¬ NamesTypeAmong (o.getD {}).deny members) ↔
      NamesNoTypeOf (o.getD {}).deny members := by
    by_cases hnil : (o.getD {}).deny = []
    · rw [hnil]
      exact iff_of_true (.inl rfl) nofun
    · rw [or_iff_right hnil, not_namesTypeAmong_iff hnodup (hnamed.resolve_left hnil)]
  rw [holds_anyUnder, and_iff_right hshared, hdeny]

/-- A dialect in which every text has every format. -/
def anyFormat : Dialect where
  Matches := fun _ _ => False
  HasFormat := fun _ _ => True

/-- References as the definition of dynamically typed messages reads them. -/
def anyRefs : Reference → Json → Prop := fun _ v => SharedConforms anyFormat .any v

theorem anyRefs_iff {definition : Schema} (h : SharedType.any.schema.Yields definition [])
    (r : Reference) (v : Json) : anyRefs r v ↔ definition.Holds anyFormat anyRefs v :=
  (holds_shared (p := ⟨[], [], []⟩) h.1 nofun).symm

/-- With both lists, a message of an allowed type passes and one of a denied type does not. -/
theorem listed_types_told_apart :
    ∃ s, (anySchema (some { allow := ["a.B"], deny := ["a.C"] })).Yields s [.shared .any] ∧
      s.Holds anyFormat anyRefs (.object [("@type", .string "a.B"), ("x", .bool true)]) ∧
      ¬ s.Holds anyFormat anyRefs (.object [("@type", .string "a.C")]) := by
  have hyields : (anySchema (some { allow := ["a.B"], deny := ["a.C"] })).Yields _
      [.shared .any] := ⟨rfl, rfl⟩
  have hallowed : anyRefs (.definition (Target.shared .any).key)
      (.object [("@type", .string "a.B"), ("x", .bool true)]) := by
    refine ⟨_, rfl, fun w hw => ⟨"a.B", ?_, trivial⟩⟩
    simpa [typeMember] using hw
  have hdenied : anyRefs (.definition (Target.shared .any).key)
      (.object [("@type", .string "a.C")]) := by
    refine ⟨_, rfl, fun w hw => ⟨"a.C", ?_, trivial⟩⟩
    simpa [typeMember] using hw
  refine ⟨_, hyields, ?_, fun h => ?_⟩
  · rw [anySchema_exact hyields (by decide) hallowed (.inr ⟨_, List.mem_cons_self⟩)]
    refine ⟨.inr fun w hw => ⟨"a.B", List.mem_singleton_self _, ?_⟩, ?_⟩
    · simpa [typeMember] using hw
    · simp [NamesNoTypeOf, typeMember]
  · rw [anySchema_exact hyields (by decide) hdenied (.inr ⟨_, List.mem_cons_self⟩)] at h
    exact h.2 "a.C" (List.mem_singleton_self _) List.mem_cons_self

/-- An object without members names no type, and it passes a list of allowed types. -/
theorem untyped_passes_allowed :
    ∃ s definition, (anySchema (some { allow := ["a.B"] })).Yields s [.shared .any] ∧
      SharedType.any.schema.Yields definition [] ∧
      (∀ r v, anyRefs r v ↔ definition.Holds anyFormat anyRefs v) ∧
      definition.Holds anyFormat anyRefs (.object []) ∧
      s.Holds anyFormat anyRefs (.object []) ∧
      ¬ ∃ text ∈ ["a.B"], ("@type", Json.string text) ∈ ([] : List (String × Json)) := by
  have hdefinition : SharedType.any.schema.Yields _ [] := ⟨rfl, rfl⟩
  have hempty : anyRefs (.definition (Target.shared .any).key) (.object []) := ⟨[], rfl, nofun⟩
  exact ⟨anyUnder { allow := ["a.B"] }, _, ⟨rfl, rfl⟩, hdefinition, anyRefs_iff hdefinition,
    (anyRefs_iff hdefinition _ _).1 hempty, holds_anyUnder.2 ⟨hempty, .inr nofun, .inl rfl⟩,
    by simp⟩

end Generation

end ProtoSchema
