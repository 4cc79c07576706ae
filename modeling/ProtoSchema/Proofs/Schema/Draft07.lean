import ProtoSchema.Proofs.Json.Fold
import ProtoSchema.Proofs.Schema.Members
import ProtoSchema.Proofs.Schema.Semantics

/-!
# Documents read as draft-07 schemas

What a JSON value accepts when it is read under draft-07: a boolean accepts everything or nothing,
and an object accepts what each of its keywords asserts, where a keyword for one type asserts
nothing of values of the others, a reference hides what stands beside it, and what is no keyword
asserts nothing.  The keywords are those that schemas are written with
(`Schema.keysAmong_rootMembers`).

A schema accepts what its JSON value accepts, and so does a document, which has the keywords of its
root in their places.
-/

namespace ProtoSchema

namespace Json

/-! ## 1. What keywords assert -/

/-- The value is of a type of the draft. -/
def HasType (name : String) : Json → Prop
  | null => name = "null"
  | bool _ => name = "boolean"
  | number n => name = "number" ∨ name = "integer" ∧ n.Integral
  | string _ => name = "string"
  | array _ => name = "array"
  | object _ => name = "object"

/-- What a value means in the places where schemas stand: what it accepts as a schema, and what the
schemas in it accept, as a list or by name. -/
structure Meaning where
  accepts : Json → Prop := fun _ => False
  operands : List (Json → Prop) := []
  named : List (String × (Json → Prop)) := []

/-- What a member asserts of `v` if it has the key and the value `x`, where `m` is what `x` means
and `siblings` are the names of the properties beside it. -/
def Asserts (δ : Dialect) (siblings : List String) (x : Json) (m : Meaning) (v : Json) :
    String → Prop
  | "type" => ∀ name, x = string name → v.HasType name
  | "const" => v.Same x
  | "enum" => ∀ items, x = array items → ∃ w ∈ items, v.Same w
  | "minimum" => ∀ a n, x = number a → v = number n → a.AtMost n
  | "exclusiveMinimum" => ∀ a n, x = number a → v = number n → a.Less n
  | "maximum" => ∀ a n, x = number a → v = number n → n.AtMost a
  | "exclusiveMaximum" => ∀ a n, x = number a → v = number n → n.Less a
  | "minLength" => ∀ a text, x = number a → v = string text → a.AtMost (.int text.length)
  | "maxLength" => ∀ a text, x = number a → v = string text → (Number.int text.length).AtMost a
  | "pattern" => ∀ p text, x = string p → v = string text → δ.Matches p text
  | "format" => ∀ f text, x = string (StringFormat.name f) → v = string text → δ.HasFormat f text
  | "items" => ∀ items, v = array items → ∀ w ∈ items, m.accepts w
  | "minItems" => ∀ a items, x = number a → v = array items → a.AtMost (.int items.length)
  | "maxItems" => ∀ a items, x = number a → v = array items → (Number.int items.length).AtMost a
  | "uniqueItems" =>
    x = bool true → ∀ items, v = array items → items.Pairwise fun a b => ¬ a.Same b
  | "properties" =>
    ∀ members, v = object members → ∀ p ∈ m.named, ∀ w, (p.1, w) ∈ members → p.2 w
  | "additionalProperties" =>
    ∀ members, v = object members → ∀ y ∈ members, y.1 ∉ siblings → m.accepts y.2
  | "propertyNames" => ∀ members, v = object members → ∀ y ∈ members, m.accepts (string y.1)
  | "required" => ∀ names members, x = array names → v = object members →
    ∀ name, string name ∈ names → ∃ w, (name, w) ∈ members
  | "minProperties" => ∀ a members, x = number a → v = object members →
    a.AtMost (.int members.length)
  | "maxProperties" => ∀ a members, x = number a → v = object members →
    (Number.int members.length).AtMost a
  | "allOf" => ∀ P ∈ m.operands, P v
  | "anyOf" => ∃ P ∈ m.operands, P v
  | "oneOf" => ExactlyOne (m.operands.map fun P => P v)
  | "not" => ¬ m.accepts v
  | _ => True

section

variable (δ : Dialect) (refs : String → Json → Prop)

/-- What values mean, where `refs` says what references accept. -/
def meaning : Algebra Meaning where
  scalar
    | bool b => { accepts := fun _ => b = true }
    | _ => {}
  array items := { operands := items.map (·.2.accepts) }
  object members :=
    { accepts := fun v =>
        match members.lookup "$ref" with
        | some (x, _) => ∀ text, x = string text → refs text v
        | none =>
          let siblings := (members.lookup "properties").elim [] fun x => x.2.named.map (·.1)
          ∀ x ∈ members, Asserts δ siblings x.2.1 x.2.2 v x.1
      named := members.map fun x => (x.1, x.2.2.accepts) }

/-- The value accepts `v` when it is read as a schema. -/
def Accepts (schema v : Json) : Prop := ((meaning δ refs).fold schema).accepts v

/-- The names of the properties that the members of an object mention. -/
def propertiesOf (members : List (String × Json)) : List String :=
  (members.lookup "properties").elim [] fun x => ((meaning δ refs).fold x).named.map (·.1)

/-- What a member of an object asserts. -/
def MemberAsserts (members : List (String × Json)) (v : Json) (x : String × Json) : Prop :=
  Asserts δ (propertiesOf δ refs members) x.2 ((meaning δ refs).fold x.2) v x.1

end

end Json

section

variable {δ : Dialect} {refs : String → Json → Prop} {v : Json}

/-! ## 2. Objects -/

namespace Json

@[simp] theorem same_string {a b : String} : (string a).Same (string b) ↔ a = b := Iff.rfl

@[simp] theorem same_number {a b : Number} : (number a).Same (number b) ↔ a.Same b := Iff.rfl

@[simp] theorem same_bool {a b : Bool} : (bool a).Same (bool b) ↔ a = b := Iff.rfl

theorem accepts_bool {b : Bool} : Accepts δ refs (bool b) v ↔ b = true := Iff.rfl

@[simp] theorem accepts_meaning {x : Json} :
    ((meaning δ refs).fold x).accepts = Accepts δ refs x := rfl

@[simp] theorem operands_meaning {items : List Json} :
    ((meaning δ refs).fold (array items)).operands = items.map (Accepts δ refs) := by
  rw [Algebra.fold_array]
  show (items.map _).map _ = _
  rw [List.map_map]
  rfl

@[simp] theorem named_meaning {members : List (String × Json)} :
    ((meaning δ refs).fold (object members)).named =
      members.map fun x => (x.1, Accepts δ refs x.2) := by
  rw [Algebra.fold_object]
  show (members.map _).map _ = _
  rw [List.map_map]
  rfl

/-- A reference stands for the whole object, and without one every member has to be satisfied. -/
theorem accepts_members {members : List (String × Json)} :
    Accepts δ refs (object members) v ↔
      match members.lookup "$ref" with
      | some x => ∀ text, x = string text → refs text v
      | none => ∀ x ∈ members, MemberAsserts δ refs members v x := by
  rw [Accepts, Algebra.fold_object]
  simp only [meaning, lookup_beside, List.forall_mem_map, Option.elim_map]
  cases members.lookup "$ref" <;> exact Iff.rfl

theorem accepts_object {members : List (String × Json)} (h : members.lookup "$ref" = none) :
    Accepts δ refs (object members) v ↔ ∀ x ∈ members, MemberAsserts δ refs members v x := by
  rw [accepts_members, h]

theorem accepts_ref {text : String} :
    Accepts δ refs (object [("$ref", string text)]) v ↔ refs text v := by
  rw [accepts_members, List.lookup_cons]
  simp

/-- Under one member, which is no reference, what it asserts. -/
theorem accepts_single {key : String} {x : Json} (h : key ≠ "$ref") :
    Accepts δ refs (object [(key, x)]) v ↔ MemberAsserts δ refs [(key, x)] v (key, x) := by
  rw [accepts_object (by simpa using h.symm), List.forall_mem_singleton]

theorem string_injective : Function.Injective Json.string := fun _ _ => Json.string.inj

end Json

/-! ## 3. Schemas -/

namespace Schema

open Json

theorem accepts_typed {type : String} {members : List (String × Json)}
    (h : members.lookup "$ref" = none) :
    Accepts δ refs (typed type members) v ↔
      v.HasType type ∧ ∀ x ∈ members, MemberAsserts δ refs members v x := by
  have hproperties : propertiesOf δ refs (("type", .string type) :: members) =
      propertiesOf δ refs members := by
    simp [propertiesOf]
  rw [typed, accepts_object (by simpa using h), List.forall_mem_cons]
  simp only [MemberAsserts, hproperties]
  apply and_congr_left
  intro
  simp [Asserts]

theorem atMost_size {m n : Nat} : (Number.int m).AtMost (.int n) ↔ m ≤ n := by
  simp [Number.AtMost, Number.value]

theorem format_name_inj {f g : StringFormat} : f.name = g.name ↔ f = g := by
  cases f <;> cases g <;> simp [StringFormat.name]

theorem accepts_string {s : StringKeywords} :
    Accepts δ refs (typed "string" (stringMembers s)) v ↔
      ∃ text, v = .string text ∧ s.Admits δ text := by
  rw [accepts_typed (by simp [stringMembers, annotations, List.lookup_append])]
  -- A value of another type is refused by the type alone.
  cases v with
  | string text =>
    simp only [stringMembers, annotations, List.forall_mem_append, forall_mem_member,
      forall_mem_listMember]
    simp [MemberAsserts, Asserts, HasType, StringKeywords.admits_iff, sizeJson, atMost_size,
      format_name_inj, and_assoc]
  | _ => simp [HasType]

theorem numberMembers_assert {s : NumberKeywords} {n : Number} :
    (∀ x ∈ numberMembers s, MemberAsserts δ refs (numberMembers s) (.number n) x) ↔ s.Admits n := by
  simp only [numberMembers, annotations, List.forall_mem_append, forall_mem_member,
    forall_mem_listMember]
  simp [MemberAsserts, Asserts, NumberKeywords.admits_iff, and_assoc]

theorem accepts_number {s : NumberKeywords} :
    Accepts δ refs (typed "number" (numberMembers s)) v ↔ ∃ n, v = .number n ∧ s.Admits n := by
  rw [accepts_typed (by simp [numberMembers, annotations, List.lookup_append])]
  cases v with
  | number n =>
    rw [numberMembers_assert]
    simp [HasType]
  | _ => simp [HasType]

theorem accepts_integer {s : NumberKeywords} :
    Accepts δ refs (typed "integer" (numberMembers s)) v ↔
      ∃ n, v = .number n ∧ n.Integral ∧ s.Admits n := by
  rw [accepts_typed (by simp [numberMembers, annotations, List.lookup_append])]
  cases v with
  | number n =>
    rw [numberMembers_assert]
    simp [HasType]
  | _ => simp [HasType]

theorem accepts_boolean {s : BooleanKeywords} :
    Accepts δ refs (typed "boolean" (booleanMembers s)) v ↔
      ∃ b, v = .bool b ∧ ∀ x ∈ s.equals, b = x := by
  rw [accepts_typed (by simp [booleanMembers, annotations, List.lookup_append])]
  cases v with
  | bool b =>
    simp only [booleanMembers, annotations, List.forall_mem_append, forall_mem_member]
    simp [MemberAsserts, Asserts, HasType]
  | _ => simp [HasType]

theorem namedJson_eq_map (named : List (String × Schema)) :
    namedJson named = named.map fun x => (x.1, x.2.toJson) := by
  induction named with
  | nil => rfl
  | cons x rest ih => rw [namedJson, ih, List.map_cons]

theorem nil_or_forall_mem {α : Type} {xs : List α} {P : α → Prop} :
    (xs = [] ∨ ∀ x ∈ xs, P x) ↔ ∀ x ∈ xs, P x := by
  apply or_iff_right_of_imp
  rintro rfl
  exact List.forall_mem_nil P

theorem siblings_named {named : List (String × Schema)} :
    ((if namedJson named = [] then none else some (Json.object (namedJson named))).elim []
      fun x => ((meaning δ refs).fold x).named.map (·.1)) = named.map (·.1) := by
  rw [namedJson_eq_map]
  cases named with
  | nil => rfl
  | cons x rest => simp

theorem named_assert {named : List (String × Schema)} {members : List (String × Json)} :
    (namedJson named = [] ∨ ∀ p ∈ (namedJson named).map fun x => (x.1, Accepts δ refs x.2),
      ∀ w, (p.1, w) ∈ members → p.2 w) ↔
    ∀ x ∈ named, ∀ w, (x.1, w) ∈ members → Accepts δ refs x.2.toJson w := by
  rw [namedJson_eq_map, List.map_eq_nil_iff, List.map_map, List.forall_mem_map, nil_or_forall_mem]
  rfl

/-- What is asked of an object. -/
theorem accepts_objectKeywords {title description : Option String}
    {properties : List (String × Schema)} {required : List String}
    {additional names : Option Schema} {least most : Option Nat} :
    Accepts δ refs (toJson (.object ⟨title, description, properties, required, additional, names,
      least, most⟩)) v ↔
    ∃ members, v = .object members ∧
      (∀ x ∈ properties, ∀ w, (x.1, w) ∈ members → Accepts δ refs x.2.toJson w) ∧
      (∀ key ∈ required, ∃ w, (key, w) ∈ members) ∧
      (∀ s ∈ additional, ∀ x ∈ members, x.1 ∉ properties.map (·.1) →
        Accepts δ refs s.toJson x.2) ∧
      (∀ s ∈ names, ∀ x ∈ members, Accepts δ refs s.toJson (.string x.1)) ∧
      (∀ k ∈ least, k ≤ members.length) ∧ ∀ k ∈ most, members.length ≤ k := by
  rw [toJson, accepts_typed (by simp [annotations, List.lookup_append])]
  cases v with
  | object members =>
    simp only [annotations, List.forall_mem_append, forall_mem_member, forall_mem_listMember,
      forall_mem_unless, forall_mem_optionJson, MemberAsserts, propertiesOf, List.lookup_append]
    simp [Asserts, HasType, sizeJson, atMost_size, and_assoc, siblings_named, named_assert,
      nil_or_forall_mem, List.mem_map_of_injective, string_injective, -Prod.forall, -List.mem_map]
  | _ => simp [HasType]

/-- What is asked of an array. -/
theorem accepts_arrayKeywords {title description : Option String} {item : Option Schema}
    {least most : Option Nat} {unique : Bool} :
    Accepts δ refs (toJson (.array ⟨title, description, item, least, most, unique⟩)) v ↔
    ∃ items, v = .array items ∧ (∀ s ∈ item, ∀ w ∈ items, Accepts δ refs s.toJson w) ∧
      (∀ k ∈ least, k ≤ items.length) ∧ (∀ k ∈ most, items.length ≤ k) ∧
      (unique = true → items.Pairwise fun a b => ¬ a.Same b) := by
  rw [toJson, accepts_typed (by simp [annotations, List.lookup_append])]
  cases v with
  | array items =>
    simp only [annotations, List.forall_mem_append, forall_mem_member, forall_mem_when,
      forall_mem_optionJson]
    simp [MemberAsserts, Asserts, HasType, sizeJson, atMost_size, and_assoc]
  | _ => simp [HasType]

mutual

/-- A schema accepts what its value accepts. -/
theorem accepts_toJson (s : Schema) (v : Json) :
    Accepts δ refs s.toJson v ↔ s.Holds δ (fun r => refs r.text) v := by
  cases s with
  | always =>
    rw [toJson, accepts_bool]
    exact iff_of_true rfl holds_always
  | never =>
    rw [toJson, accepts_bool]
    exact iff_of_false Bool.false_ne_true not_holds_never
  | generic s =>
    rw [toJson, accepts_object (by simp [annotations, List.lookup_append])]
    simp only [annotations, List.forall_mem_append, forall_mem_member]
    simp [MemberAsserts, Asserts, Holds]
  | object s =>
    obtain ⟨title, description, properties, required, additional, names, least, most⟩ := s
    rw [accepts_objectKeywords, Holds]
    apply exists_congr
    intro members
    have hadditional : (∀ s ∈ additional, ∀ x ∈ members, x.1 ∉ properties.map (·.1) →
        Accepts δ refs s.toJson x.2) ↔ ∀ x ∈ members, x.1 ∉ properties.map (·.1) →
          HoldsOption δ (fun r => refs r.text) additional x.2 := by
      simp only [← accepts_option additional]
      tauto
    have hnames : (∀ s ∈ names, ∀ x ∈ members, Accepts δ refs s.toJson (.string x.1)) ↔
        ∀ x ∈ members, HoldsOption δ (fun r => refs r.text) names (.string x.1) := by
      simp only [← accepts_option names]
      tauto
    rw [accepts_named properties members, hadditional, hnames]
    tauto
  | array s =>
    obtain ⟨title, description, item, least, most, unique⟩ := s
    rw [accepts_arrayKeywords, Holds]
    apply exists_congr
    intro items
    have hitems : (∀ s ∈ item, ∀ w ∈ items, Accepts δ refs s.toJson w) ↔
        ∀ w ∈ items, HoldsOption δ (fun r => refs r.text) item w := by
      simp only [← accepts_option item]
      tauto
    rw [hitems]
  | string s => exact accepts_string
  | integer s => exact accepts_integer
  | number s => exact accepts_number
  | boolean s => exact accepts_boolean
  | ref target =>
    rw [toJson, accepts_ref, Holds]
  | allOf operands =>
    rw [toJson, accepts_single (by decide), Holds, ← accepts_operands operands v,
      List.forall_mem_map]
    simp only [MemberAsserts, Asserts, operands_meaning, List.forall_mem_map]
  | anyOf operands =>
    rw [toJson, accepts_single (by decide), Holds, ← accepts_operands operands v]
    simp only [MemberAsserts, Asserts, operands_meaning, exists_mem_map]
  | oneOf operands =>
    rw [toJson, accepts_single (by decide), Holds, ← accepts_operands operands v]
    simp only [MemberAsserts, Asserts, operands_meaning, List.map_map]
    rfl
  | not s =>
    rw [toJson, accepts_single (by decide), Holds, ← accepts_toJson s v]
    simp only [MemberAsserts, Asserts, accepts_meaning]

theorem accepts_operands (operands : List Schema) (v : Json) :
    (operandsJson operands).map (Accepts δ refs · v) =
      truths δ (fun r => refs r.text) operands v := by
  cases operands with
  | nil => rfl
  | cons s rest =>
    rw [operandsJson, truths, List.map_cons, accepts_operands rest v, propext (accepts_toJson s v)]

theorem accepts_named (named : List (String × Schema)) (members : List (String × Json)) :
    (∀ x ∈ named, ∀ w, (x.1, w) ∈ members → Accepts δ refs x.2.toJson w) ↔
      HoldsNamed δ (fun r => refs r.text) named members := by
  cases named with
  | nil => exact iff_of_true (List.forall_mem_nil _) trivial
  | cons x rest =>
    obtain ⟨key, s⟩ := x
    rw [HoldsNamed, List.forall_mem_cons, accepts_named rest members]
    simp only [accepts_toJson s]

theorem accepts_option (o : Option Schema) (v : Json) :
    (∀ s ∈ o, Accepts δ refs s.toJson v) ↔ HoldsOption δ (fun r => refs r.text) o v := by
  cases o with
  | none => exact iff_of_true nofun trivial
  | some s =>
    rw [HoldsOption, ← accepts_toJson s v]
    simp

end

theorem rootMembers_of_object {s : Schema} {members : List (String × Json)}
    (h : s.toJson = .object members) : Document.rootMembers s = members := by
  rw [Document.rootMembers, h]

/-- The members that a schema puts into a document say what the schema says. -/
theorem accepts_rootMembers (s : Schema) :
    Accepts δ refs (.object (Document.rootMembers s)) v ↔ s.Holds δ (fun r => refs r.text) v := by
  by_cases hobject : ∃ members, s.toJson = .object members
  · obtain ⟨members, h⟩ := hobject
    rw [rootMembers_of_object h, ← h, accepts_toJson]
  · -- What is not written as an object is written as a boolean.
    have hbool : s = .always ∨ s = .never := by
      cases s with
      | always => exact .inl rfl
      | never => exact .inr rfl
      | _ => exact absurd ⟨_, rfl⟩ hobject
    have hnothing : Accepts δ refs (.object []) v :=
      (accepts_object List.lookup_nil).2 (List.forall_mem_nil _)
    obtain rfl | rfl := hbool
    · exact iff_of_true hnothing holds_always
    · show Accepts δ refs (.object [("not", .object [])]) v ↔ _
      rw [accepts_single (by decide)]
      exact iff_of_false (fun h => h hnothing) not_holds_never

end Schema

/-! ## 4. Documents -/

namespace Json

/-- A member with a keyword of documents asserts nothing. -/
theorem accepts_insert {before after : List (String × Json)} {key : String} {x : Json}
    (hkey : key ∈ ["$schema", "$id", "definitions"]) :
    Accepts δ refs (.object (before ++ (key, x) :: after)) v ↔
      Accepts δ refs (.object (before ++ after)) v := by
  -- Neither a reference nor properties are found there, so the other members mean what they meant.
  have hlookup : ∀ name ∉ ["$schema", "$id", "definitions"],
      (before ++ (key, x) :: after).lookup name = (before ++ after).lookup name := by
    intro name hname
    have hne : name ≠ key := fun h => hname (h ▸ hkey)
    simp [List.lookup_append, hne]
  have hnothing : ∀ siblings m, Asserts δ siblings x m v key := by
    intro siblings m
    simp only [List.mem_cons, List.not_mem_nil, or_false] at hkey
    obtain rfl | rfl | rfl := hkey <;> simp [Asserts]
  have hsiblings : propertiesOf δ refs (before ++ (key, x) :: after) =
      propertiesOf δ refs (before ++ after) := by
    rw [propertiesOf, propertiesOf, hlookup "properties" (by decide)]
  rw [accepts_members, accepts_members, hlookup "$ref" (by decide)]
  split
  next => exact Iff.rfl
  next =>
    simp only [MemberAsserts, hsiblings, List.forall_mem_append, List.forall_mem_cons, hnothing,
      true_and]

theorem accepts_cons {members : List (String × Json)} {key : String} {x : Json}
    (hkey : key ∈ ["$schema", "$id", "definitions"]) :
    Accepts δ refs (.object ((key, x) :: members)) v ↔ Accepts δ refs (.object members) v := by
  rw [← List.nil_append ((key, x) :: members), accepts_insert hkey, List.nil_append]

end Json

namespace Document

open Json

/-- A document accepts what its root accepts. -/
theorem accepts_toJson (d : Document) :
    Accepts δ refs d.toJson v ↔ d.root.Holds δ (fun r => refs r.text) v := by
  have hid : ∀ rest, Accepts δ refs (.object (Schema.member "$id" .string d.id ++ rest)) v ↔
      Accepts δ refs (.object rest) v := by
    intro rest
    cases d.id with
    | none => exact Iff.rfl
    | some id => exact accepts_cons (by decide)
  rw [toJson_eq, members, accepts_cons (by decide), List.append_assoc, hid]
  by_cases hnone : (Schema.namedJson d.definitions).isEmpty
  · rw [if_pos hnone, List.append_nil, Schema.accepts_rootMembers]
  · rw [if_neg hnone, accepts_insert (by decide), List.append_nil, Schema.accepts_rootMembers]

/-- The members that a root has in a document: its own, none if it always holds, and the negation of
everything if it never holds. -/
inductive RootWritten : Schema → List (String × Json) → Prop
  | always : RootWritten .always []
  | never : RootWritten .never [("not", .object [])]
  | keywords {s : Schema} {members : List (String × Json)} (h : s.toJson = .object members) :
      RootWritten s members

theorem rootWritten (s : Schema) : RootWritten s (rootMembers s) := by
  cases s with
  | always => exact .always
  | never => exact .never
  | _ => exact .keywords rfl

theorem members_eq (d : Document) : d.members = ("$schema", .string draft07) ::
    (d.id.toList.map (fun id => ("$id", Json.string id)) ++ rootMembers d.root ++
      if d.definitions = [] then []
      else [("definitions", .object (d.definitions.map fun x => (x.1, x.2.toJson)))]) := by
  have hid : Schema.member "$id" .string d.id = d.id.toList.map fun id => ("$id", .string id) := by
    cases d.id <;> rfl
  rw [members, hid, Schema.namedJson_eq_map]
  by_cases hnone : d.definitions = []
  · rw [if_pos hnone, hnone]
    rfl
  · rw [if_neg hnone, if_neg]
    simpa using hnone

end Document

end

/-- Combinations and documents mean what they are made of.  Whatever patterns, formats and
references stand for, a schema accepts what its JSON value accepts under draft-07; a conjunction
accepts what all operands accept, a disjunction what some operand accepts, and a choice what exactly
one position accepts.  A document accepts what its root accepts: its keys are each there once, those
of the root between the dialect and the address before it and the definitions behind it. -/
theorem combinations_and_documents (δ : Dialect) :
    (∀ (refs : Reference → Json → Prop) (xs : List Schema) (v : Json),
      ((Schema.conjunction xs).Holds δ refs v ↔ ∀ s ∈ xs, s.Holds δ refs v) ∧
      ((Schema.disjunction xs).Holds δ refs v ↔ ∃ s ∈ xs, s.Holds δ refs v) ∧
      ((Schema.choice xs).Holds δ refs v ↔ ∃! i : ℕ, ∃ s, xs[i]? = some s ∧ s.Holds δ refs v)) ∧
    (∀ (refs : String → Json → Prop) (s : Schema) (v : Json),
      Json.Accepts δ refs s.toJson v ↔ s.Holds δ (fun r => refs r.text) v) ∧
    ∀ d : Document,
      (∀ (refs : String → Json → Prop) (v : Json),
        Json.Accepts δ refs d.toJson v ↔ d.root.Holds δ (fun r => refs r.text) v) ∧
      ∃ members root, d.toJson = .object members ∧ (members.map (·.1)).Nodup ∧
        Document.RootWritten d.root root ∧
        members = ("$schema", .string draft07) ::
          (d.id.toList.map (fun id => ("$id", Json.string id)) ++ root ++
            if d.definitions = [] then []
            else [("definitions", .object (d.definitions.map fun x => (x.1, x.2.toJson)))]) := by
  refine ⟨fun refs xs v => ⟨Schema.holds_conjunction, Schema.holds_disjunction, ?_⟩,
    fun refs s v => Schema.accepts_toJson s v, fun d => ⟨fun refs v => d.accepts_toJson, ?_⟩⟩
  · rw [Schema.holds_choice, exactlyOne_iff_position]
  · exact ⟨d.members, Document.rootMembers d.root, d.toJson_eq, d.nodup_keys,
      Document.rootWritten d.root, d.members_eq⟩

end ProtoSchema
