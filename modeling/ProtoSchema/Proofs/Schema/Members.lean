import Mathlib.Data.List.Induction
import Mathlib.Data.List.Nodup
import ProtoSchema.Schema.Document

/-!
# Members of written schemas

A schema is written with keywords of its own shape, in their order and each at most once.  None of
them is a keyword of documents, so nothing is overwritten when the members of a document are put in
one after the other.
-/

namespace ProtoSchema

/-! ## 1. Assignments -/

section Assign

variable {α : Type}

theorem assign_of_not_mem {key : String} {x : α} {xs : List (String × α)}
    (h : key ∉ xs.map Prod.fst) : assign key x xs = xs ++ [(key, x)] := by
  induction xs with
  | nil => rfl
  | cons y rest ih =>
    rw [List.map_cons, List.mem_cons, not_or] at h
    rw [assign, if_neg (Ne.symm h.1), ih h.2]
    rfl

/-- Keys that are given once each are there in their order, with their values. -/
theorem assignAll_eq_self {xs : List (String × α)} (h : (xs.map Prod.fst).Nodup) :
    assignAll xs = xs := by
  induction xs using List.reverseRecOn with
  | nil => rfl
  | append_singleton rest x ih =>
    rw [List.map_append, List.nodup_append] at h
    obtain ⟨hrest, -, hx⟩ := h
    have hkey : x.1 ∉ rest.map Prod.fst := fun hmem => hx _ hmem x.1 (List.mem_singleton_self _) rfl
    have hlast : assignAll (rest ++ [x]) = assign x.1 x.2 (assignAll rest) := by
      rw [assignAll, List.foldl_append]
      rfl
    rw [hlast, ih hrest, assign_of_not_mem hkey]

end Assign

namespace Schema

/-! ## 2. The member of a keyword -/

section Lookup

variable {α : Type} (key name : String)

@[simp] theorem lookup_entry (x : α) (rest : List (String × α)) :
    ((name, x) :: rest).lookup key = if key = name then some x else rest.lookup key := by
  rw [List.lookup_cons]
  by_cases h : key = name
  · rw [if_pos h, h, beq_self_eq_true]
  · rw [if_neg h, beq_false_of_ne h]

@[simp] theorem lookup_member (write : α → Json) (o : Option α) :
    (member name write o).lookup key = if key = name then o.map write else none := by
  cases o <;> simp [member]

@[simp] theorem lookup_listMember (write : α → Json) (xs : List α) :
    (listMember name write xs).lookup key =
      if key = name then if xs = [] then none else some (.array (xs.map write)) else none := by
  unfold listMember
  cases xs <;> simp

@[simp] theorem lookup_optionJson (o : Option Schema) :
    (optionJson name o).lookup key = if key = name then o.map toJson else none := by
  cases o <;> simp [optionJson]

@[simp] theorem lookup_unless (c : Prop) [Decidable c] (x : α) :
    (if c then [] else [(name, x)]).lookup key =
      if key = name then if c then none else some x else none := by
  by_cases h : c <;> simp [h]

@[simp] theorem lookup_when (c : Prop) [Decidable c] (x : α) :
    (if c then [(name, x)] else []).lookup key =
      if key = name then if c then some x else none else none := by
  by_cases h : c <;> simp [h]

end Lookup

section Forall

variable {P : String × Json → Prop} {α : Type}

theorem forall_mem_member {key : String} {write : α → Json} {o : Option α} :
    (∀ x ∈ member key write o, P x) ↔ ∀ a ∈ o, P (key, write a) := by
  cases o with
  | none => exact iff_of_true (List.forall_mem_nil _) nofun
  | some a => simp [member]

theorem forall_mem_listMember {key : String} {write : α → Json} {xs : List α} :
    (∀ x ∈ listMember key write xs, P x) ↔ xs = [] ∨ P (key, .array (xs.map write)) := by
  cases xs with
  | nil => exact iff_of_true (List.forall_mem_nil _) (.inl rfl)
  | cons a rest => simp [listMember]

theorem forall_mem_optionJson {key : String} {o : Option Schema} :
    (∀ x ∈ optionJson key o, P x) ↔ ∀ s ∈ o, P (key, s.toJson) := by
  cases o with
  | none => exact iff_of_true (List.forall_mem_nil _) nofun
  | some s => simp [optionJson]

theorem forall_mem_unless {c : Prop} [Decidable c] {x : String × Json} :
    (∀ y ∈ (if c then [] else [x]), P y) ↔ c ∨ P x := by
  by_cases h : c <;> simp [h]

theorem forall_mem_when {c : Prop} [Decidable c] {x : String × Json} :
    (∀ y ∈ (if c then [x] else []), P y) ↔ (c → P x) := by
  by_cases h : c <;> simp [h]

end Forall

/-! ## 3. Keywords -/

/-- The members have these keys, in this order, or some of them. -/
def KeysAmong (keys : List String) (members : List (String × Json)) : Prop :=
  (members.map Prod.fst).Sublist keys

namespace KeysAmong

variable {keys keys' : List String} {members members' : List (String × Json)}

theorem append (h : KeysAmong keys members) (h' : KeysAmong keys' members') :
    KeysAmong (keys ++ keys') (members ++ members') := by
  rw [KeysAmong, List.map_append]
  exact List.Sublist.append h h'

theorem one (key : String) (x : Json) : KeysAmong [key] [(key, x)] := List.Sublist.refl _

theorem none (keys : List String) : KeysAmong keys [] := List.nil_sublist keys

theorem cons {key : String} {x : Json} (h : KeysAmong keys members) :
    KeysAmong (key :: keys) ((key, x) :: members) := List.Sublist.cons_cons key h

theorem ite {c : Prop} [Decidable c] (h : KeysAmong keys members) (h' : KeysAmong keys members') :
    KeysAmong keys (if c then members else members') := by
  split
  next => exact h
  next => exact h'

theorem member {α : Type} (key : String) (write : α → Json) (o : Option α) :
    KeysAmong [key] (Schema.member key write o) := by
  cases o with
  | none => exact none [key]
  | some x => exact one key (write x)

theorem listMember {α : Type} (key : String) (write : α → Json) (xs : List α) :
    KeysAmong [key] (Schema.listMember key write xs) :=
  ite (none [key]) (one key _)

theorem optionJson (key : String) (o : Option Schema) :
    KeysAmong [key] (Schema.optionJson key o) := by
  cases o with
  | none => exact none [key]
  | some s => exact one key s.toJson

theorem annotations (title description : Option String) :
    KeysAmong ["title", "description"] (Schema.annotations title description) :=
  (member "title" _ title).append (member "description" _ description)

end KeysAmong

/-- The keywords of strings. -/
def stringKeys : List String :=
  ["title", "description", "const", "enum", "pattern", "format", "minLength", "maxLength"]

/-- The keywords of numbers. -/
def numberKeys : List String :=
  ["title", "description", "const", "enum", "minimum", "exclusiveMinimum", "maximum",
    "exclusiveMaximum"]

/-- The keywords of a schema at the root of a document, where negation stands for the schema that
never holds. -/
def keywords : Schema → List String
  | always => []
  | never | not _ => ["not"]
  | generic _ => ["title", "description"]
  | object _ =>
    ["type", "title", "description", "properties", "required", "additionalProperties",
      "propertyNames", "minProperties", "maxProperties"]
  | array _ => ["type", "title", "description", "items", "minItems", "maxItems", "uniqueItems"]
  | string _ => "type" :: stringKeys
  | integer _ | number _ => "type" :: numberKeys
  | boolean _ => ["type", "title", "description", "const"]
  | ref _ => ["$ref"]
  | allOf _ => ["allOf"]
  | anyOf _ => ["anyOf"]
  | oneOf _ => ["oneOf"]

theorem keysAmong_stringMembers (s : StringKeywords) : KeysAmong stringKeys (stringMembers s) :=
  .append (.append (.append (.append (.append (.append (.annotations ..) (.member ..))
    (.listMember ..)) (.member ..)) (.member ..)) (.member ..)) (.member ..)

theorem keysAmong_numberMembers (s : NumberKeywords) : KeysAmong numberKeys (numberMembers s) :=
  .append (.append (.append (.append (.append (.append (.annotations ..) (.member ..))
    (.listMember ..)) (.member ..)) (.member ..)) (.member ..)) (.member ..)

theorem keysAmong_rootMembers (s : Schema) : KeysAmong s.keywords (Document.rootMembers s) := by
  cases s with
  | always => exact .none []
  | never => exact .one "not" _
  | generic s => exact .annotations s.title s.description
  | object s =>
    obtain ⟨title, description, properties, required, additional, names, least, most⟩ := s
    rw [Document.rootMembers, toJson]
    apply KeysAmong.cons
    exact .append (.append (.append (.append (.append (.append (.annotations ..)
      (.ite (.none ["properties"]) (.one ..))) (.listMember ..)) (.optionJson ..))
      (.optionJson ..)) (.member ..)) (.member ..)
  | array s =>
    obtain ⟨title, description, item, least, most, unique⟩ := s
    rw [Document.rootMembers, toJson]
    apply KeysAmong.cons
    exact .append (.append (.append (.append (.annotations ..) (.optionJson ..)) (.member ..))
      (.member ..)) (.ite (.one ..) (.none ["uniqueItems"]))
  | string s => exact .cons (keysAmong_stringMembers s)
  | integer s | number s => exact .cons (keysAmong_numberMembers s)
  | boolean s => exact .cons (.append (.annotations ..) (.member ..))
  | ref | allOf | anyOf | oneOf | not => exact .one ..

/-- No keyword of a schema is one of documents. -/
theorem nodup_keywords (s : Schema) :
    ("$schema" :: ("$id" :: (s.keywords ++ ["definitions"]))).Nodup := by
  cases s <;> simp [keywords, stringKeys, numberKeys]

end Schema

namespace Document

theorem keysAmong_members (d : Document) :
    Schema.KeysAmong ("$schema" :: ("$id" :: (d.root.keywords ++ ["definitions"]))) d.members := by
  apply Schema.KeysAmong.cons
  exact .append (.append (.member "$id" ..) (Schema.keysAmong_rootMembers d.root))
    (.ite (.none ["definitions"]) (.one ..))

/-- Each key of a document is given once. -/
theorem nodup_keys (d : Document) : (d.members.map Prod.fst).Nodup :=
  (Schema.nodup_keywords d.root).sublist d.keysAmong_members

/-- Nothing is overwritten in a document. -/
theorem toJson_eq (d : Document) : d.toJson = .object d.members := by
  rw [toJson, assignAll_eq_self d.nodup_keys]

end Document

end ProtoSchema
