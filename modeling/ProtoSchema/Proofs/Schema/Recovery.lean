import Mathlib.Data.List.Infix
import ProtoSchema.Proofs.Json.Fold
import ProtoSchema.Proofs.Schema.Members

/-!
# Schemas read back

A schema can be read back from its JSON value.  A boolean is one of the two boolean schemas.  An
object is told by its keys: with a type it has the keywords of that type, with a reference or a
combinator it is just that, and otherwise it is annotations alone.  A keyword that is not there has
the value for which it is left out.
-/

namespace ProtoSchema

open Json

/-! ## 1. References -/

namespace Reference

/-- The reference with a text. -/
def ofText (text : String) : Reference :=
  if hroot : text = rootText then root
  else if hdefinition : definitionsText.toList <+: text.toList then
    definition (String.ofList (text.toList.drop definitionsText.length))
  else elsewhere text ⟨hroot, hdefinition⟩

/-- Every text is that of a reference. -/
theorem text_ofText (text : String) : (ofText text).text = text := by
  by_cases hroot : text = rootText
  · rw [ofText, dif_pos hroot, hroot]
    rfl
  by_cases hdefinition : definitionsText.toList <+: text.toList
  · rw [ofText, dif_neg hroot, dif_pos hdefinition, ← String.toList_inj]
    rw [Reference.text, String.toList_append, String.toList_ofList]
    exact (List.prefix_append_drop hdefinition).symm
  · rw [ofText, dif_neg hroot, dif_neg hdefinition]
    rfl

/-- References are told apart by their texts. -/
theorem ofText_text (r : Reference) : ofText r.text = r := by
  cases r with
  | root => rfl
  | definition key =>
    -- The text of the root is shorter than what stands before a key.
    have hroot : definitionsText ++ key ≠ rootText := by
      intro h
      have hlength := congrArg String.length h
      rw [String.length_append] at hlength
      have hdefinitions : definitionsText.length = 14 := rfl
      have hone : rootText.length = 1 := rfl
      omega
    have htext : (definitionsText ++ key).toList = definitionsText.toList ++ key.toList :=
      String.toList_append ..
    have hdefinition : definitionsText.toList <+: (definitionsText ++ key).toList :=
      ⟨key.toList, htext.symm⟩
    show ofText (definitionsText ++ key) = definition key
    rw [ofText, dif_neg hroot, dif_pos hdefinition, htext]
    have hdrop : (definitionsText.toList ++ key.toList).drop definitionsText.length = key.toList :=
      List.drop_left
    rw [hdrop, String.ofList_toList]
  | elsewhere text h =>
    show ofText text = elsewhere text h
    rw [ofText, dif_neg h.1, dif_neg h.2]

end Reference

/-! ## 2. Values of keywords -/

namespace Json

def text? : Json → Option String
  | string s => some s
  | _ => none

def number? : Json → Option Number
  | number n => some n
  | _ => none

def bool? : Json → Option Bool
  | bool b => some b
  | _ => none

def size? : Json → Option Nat
  | number (.int (.ofNat n)) => some n
  | _ => none

/-- The format with a name. -/
def format? : Json → Option StringFormat
  | string "date-time" => some .dateTime
  | string "email" => some .email
  | string "hostname" => some .hostname
  | string "ipv4" => some .ipv4
  | string "ipv6" => some .ipv6
  | string "uri" => some .uri
  | string "uri-reference" => some .uriReference
  | _ => none

def list? (read : Json → Option α) : Json → Option (List α)
  | array items => items.mapM read
  | _ => none

@[simp] theorem text?_string (s : String) : text? (string s) = some s := rfl

end Json

namespace Schema

/-- What a value is read as in the places where schemas stand: as one schema, as a list of them, or
as schemas by name. -/
structure Reading where
  schema? : Option Schema := none
  operands? : Option (List Schema) := none
  named? : Option (List (String × Schema)) := none

/-- The members of an object, each with what it is read as. -/
abbrev Entries := List (String × Json × Reading)

namespace Entries

variable (es : Entries)

/-- The value of a keyword. -/
def value? (read : Json → Option α) (key : String) : Option α :=
  (es.lookup key).bind fun e => read e.1

/-- The schemas of a keyword. -/
def inside? (pick : Reading → Option α) (key : String) : Option α :=
  (es.lookup key).bind fun e => pick e.2

def objectKeywords : ObjectKeywords Schema where
  title := es.value? text? "title"
  description := es.value? text? "description"
  properties := (es.inside? (·.named?) "properties").getD []
  required := (es.value? (list? text?) "required").getD []
  additionalProperties := es.inside? (·.schema?) "additionalProperties"
  propertyNames := es.inside? (·.schema?) "propertyNames"
  minProperties := es.value? size? "minProperties"
  maxProperties := es.value? size? "maxProperties"

def arrayKeywords : ArrayKeywords Schema where
  title := es.value? text? "title"
  description := es.value? text? "description"
  items := es.inside? (·.schema?) "items"
  minItems := es.value? size? "minItems"
  maxItems := es.value? size? "maxItems"
  uniqueItems := (es.value? bool? "uniqueItems").getD false

def stringKeywords : StringKeywords where
  title := es.value? text? "title"
  description := es.value? text? "description"
  equals := es.value? text? "const"
  enumeration := (es.value? (list? text?) "enum").getD []
  pattern := es.value? text? "pattern"
  format := es.value? format? "format"
  minLength := es.value? size? "minLength"
  maxLength := es.value? size? "maxLength"

def numberKeywords : NumberKeywords where
  title := es.value? text? "title"
  description := es.value? text? "description"
  equals := es.value? number? "const"
  enumeration := (es.value? (list? number?) "enum").getD []
  minimum := es.value? number? "minimum"
  exclusiveMinimum := es.value? number? "exclusiveMinimum"
  maximum := es.value? number? "maximum"
  exclusiveMaximum := es.value? number? "exclusiveMaximum"

def booleanKeywords : BooleanKeywords where
  title := es.value? text? "title"
  description := es.value? text? "description"
  equals := es.value? bool? "const"

def annotationKeywords : Annotations where
  title := es.value? text? "title"
  description := es.value? text? "description"

/-- The schema of a type. -/
def ofType? : String → Option Schema
  | "object" => some (object es.objectKeywords)
  | "array" => some (array es.arrayKeywords)
  | "string" => some (string es.stringKeywords)
  | "integer" => some (integer es.numberKeywords)
  | "number" => some (number es.numberKeywords)
  | "boolean" => some (boolean es.booleanKeywords)
  | _ => none

/-- The schema of an object. -/
def schema? : Option Schema :=
  (es.value? text? "type").bind es.ofType? <|>
    (es.value? text? "$ref").map (ref <| .ofText ·) <|>
    (es.inside? (·.operands?) "allOf").map allOf <|>
    (es.inside? (·.operands?) "anyOf").map anyOf <|>
    (es.inside? (·.operands?) "oneOf").map oneOf <|>
    (es.inside? (·.schema?) "not").map not <|>
    some (generic es.annotationKeywords)

end Entries

/-- How values are read. -/
def reader : Algebra Reading where
  scalar
    | .bool b => { schema? := some (if b then always else never) }
    | _ => {}
  array items := { operands? := items.mapM (·.2.schema?) }
  object members :=
    { schema? := Entries.schema? members
      named? := members.mapM fun x => x.2.2.schema?.map (x.1, ·) }

/-- The schema that is written as a value. -/
def ofJson? (v : Json) : Option Schema := (reader.fold v).schema?

/-! ## 3. Keywords -/

/-- The members of an object with what they are read as. -/
def entries (members : List (String × Json)) : Entries :=
  members.map fun x => (x.1, x.2, reader.fold x.2)

@[simp] theorem value?_entries {α : Type} (members : List (String × Json))
    (read : Json → Option α) (key : String) :
    (entries members).value? read key = (members.lookup key).bind read := by
  rw [Entries.value?, entries, lookup_beside, Option.bind_map]
  rfl

@[simp] theorem inside?_entries {α : Type} (members : List (String × Json))
    (pick : Reading → Option α) (key : String) :
    (entries members).inside? pick key =
      (members.lookup key).bind fun v => pick (reader.fold v) := by
  rw [Entries.inside?, entries, lookup_beside, Option.bind_map]
  rfl

section Written

variable {α : Type} {write : α → Json} {read : Json → Option α}

/-- A keyword is read as its value if it is in use, and as none if it is left out. -/
theorem bind_written (h : ∀ x, read (write x) = some x) (o : Option α) :
    (o.map write).bind read = o := by
  cases o with
  | none => rfl
  | some x => exact h x

/-- A keyword with a list is read as the list, which is empty if the keyword is left out. -/
theorem getD_written (h : ∀ x, read (write x) = some x) (xs : List α) :
    ((if xs = [] then none else some (Json.array (xs.map write))).bind (list? read)).getD [] =
      xs := by
  have hread : (xs.map write).mapM read = some xs := by
    induction xs with
    | nil => rfl
    | cons x rest ih =>
      rw [List.map_cons, List.mapM_cons, h x, ih]
      rfl
  by_cases hxs : xs = []
  · rw [if_pos hxs, hxs]
    rfl
  · rw [if_neg hxs]
    show ((xs.map write).mapM read).getD [] = xs
    rw [hread, Option.getD_some]

end Written

@[simp] theorem text_written (o : Option String) : (o.map Json.string).bind text? = o :=
  bind_written text?_string o

@[simp] theorem number_written (o : Option Number) : (o.map Json.number).bind number? = o := by
  apply bind_written
  exact fun _ => rfl

@[simp] theorem bool_written (o : Option Bool) : (o.map Json.bool).bind bool? = o := by
  apply bind_written
  exact fun _ => rfl

@[simp] theorem size_written (o : Option Nat) : (o.map sizeJson).bind size? = o := by
  apply bind_written
  exact fun _ => rfl

@[simp] theorem format_written (o : Option StringFormat) :
    (o.map fun f => Json.string f.name).bind format? = o := by
  apply bind_written
  intro f
  cases f <;> rfl

@[simp] theorem texts_written (xs : List String) :
    ((if xs = [] then none else some (Json.array (xs.map Json.string))).bind
      (list? text?)).getD [] = xs :=
  getD_written text?_string xs

@[simp] theorem numbers_written (xs : List Number) :
    ((if xs = [] then none else some (Json.array (xs.map Json.number))).bind
      (list? number?)).getD [] = xs := by
  apply getD_written
  exact fun _ => rfl

theorem stringKeywords_written (s : StringKeywords) :
    (entries (("type", .string "string") :: stringMembers s)).stringKeywords = s := by
  simp [Entries.stringKeywords, stringMembers, annotations, List.lookup_append]

theorem numberKeywords_written (type : String) (s : NumberKeywords) :
    (entries (("type", .string type) :: numberMembers s)).numberKeywords = s := by
  simp [Entries.numberKeywords, numberMembers, annotations, List.lookup_append]

theorem booleanKeywords_written (s : BooleanKeywords) :
    (entries (("type", .string "boolean") :: booleanMembers s)).booleanKeywords = s := by
  simp [Entries.booleanKeywords, booleanMembers, annotations, List.lookup_append]

/-! ## 4. Schemas -/

@[simp] theorem schema?_fold (v : Json) : (reader.fold v).schema? = ofJson? v := rfl

@[simp] theorem operands?_array (items : List Json) :
    (reader.fold (.array items)).operands? = items.mapM ofJson? := by
  rw [Algebra.fold_array]
  show (items.map _).mapM _ = _
  rw [List.mapM_map]
  rfl

@[simp] theorem named?_object (members : List (String × Json)) :
    (reader.fold (.object members)).named? =
      members.mapM fun x => (ofJson? x.2).map (x.1, ·) := by
  rw [Algebra.fold_object]
  show (members.map _).mapM _ = _
  rw [List.mapM_map]
  rfl

theorem ofJson?_object (members : List (String × Json)) :
    ofJson? (.object members) = (entries members).schema? := by
  rw [ofJson?, Algebra.fold_object]
  rfl

theorem ofJson?_typed (type : String) (members : List (String × Json)) {s : Schema}
    (h : (entries (("type", .string type) :: members)).ofType? type = some s) :
    ofJson? (typed type members) = some s := by
  rw [typed, ofJson?_object]
  simp [Entries.schema?, h]

theorem properties_written {named : List (String × Schema)}
    (h : (namedJson named).mapM (fun x => (ofJson? x.2).map (x.1, ·)) = some named) :
    ((if namedJson named = [] then none else some (Json.object (namedJson named))).bind
      fun v => (reader.fold v).named?).getD [] = named := by
  by_cases hnone : namedJson named = []
  · -- No member is written, and no properties are what its absence stands for.
    rw [hnone] at h
    rw [if_pos hnone, ← Option.some.inj h]
    rfl
  · rw [if_neg hnone, Option.bind_some, named?_object, h, Option.getD_some]

mutual

/-- A schema is read back from its value. -/
theorem ofJson?_toJson (s : Schema) : ofJson? s.toJson = some s := by
  -- Each keyword is looked up among the members, and only its own member can be found.
  cases s with
  | always | never => rfl
  | generic s =>
    rw [toJson, ofJson?_object]
    simp [Entries.schema?, Entries.annotationKeywords, annotations, List.lookup_append]
  | object s =>
    obtain ⟨title, description, properties, required, additional, names, least, most⟩ := s
    rw [toJson]
    apply ofJson?_typed
    simp [Entries.ofType?, Entries.objectKeywords, annotations, List.lookup_append,
      properties_written (ofJson?_named properties), ofJson?_option additional,
      ofJson?_option names]
  | array s =>
    obtain ⟨title, description, item, least, most, unique⟩ := s
    rw [toJson]
    apply ofJson?_typed
    simp [Entries.ofType?, Entries.arrayKeywords, annotations, List.lookup_append,
      ofJson?_option item]
    cases unique <;> rfl
  | string s =>
    rw [toJson]
    apply ofJson?_typed
    rw [Entries.ofType?, stringKeywords_written]
  | integer s | number s =>
    rw [toJson]
    apply ofJson?_typed
    rw [Entries.ofType?, numberKeywords_written]
  | boolean s =>
    rw [toJson]
    apply ofJson?_typed
    rw [Entries.ofType?, booleanKeywords_written]
  | ref target =>
    rw [toJson, ofJson?_object]
    simp [Entries.schema?, Reference.ofText_text]
  | allOf operands | anyOf operands | oneOf operands =>
    rw [toJson, ofJson?_object]
    simp [Entries.schema?, ofJson?_operands operands]
  | not s =>
    rw [toJson, ofJson?_object]
    simp [Entries.schema?, ofJson?_toJson s]

theorem ofJson?_operands (operands : List Schema) :
    (operandsJson operands).mapM ofJson? = some operands := by
  cases operands with
  | nil => rfl
  | cons s rest =>
    rw [operandsJson, List.mapM_cons, ofJson?_toJson s, ofJson?_operands rest]
    rfl

theorem ofJson?_named (named : List (String × Schema)) :
    (namedJson named).mapM (fun x => (ofJson? x.2).map (x.1, ·)) = some named := by
  cases named with
  | nil => rfl
  | cons x rest =>
    obtain ⟨key, s⟩ := x
    rw [namedJson, List.mapM_cons, ofJson?_toJson s, ofJson?_named rest]
    rfl

theorem ofJson?_option (o : Option Schema) : (o.map toJson).bind ofJson? = o := by
  cases o with
  | none => rfl
  | some s => exact ofJson?_toJson s

end

/-- Nothing is lost when a schema is written: it can be read back, so that schemas with one value
are one schema.  This is so of references with any text. -/
theorem toJson_recovered :
    (∀ s : Schema, ofJson? s.toJson = some s) ∧ Function.Injective toJson ∧
      ∀ text : String, ∃ target, (ref target).toJson = .object [("$ref", .string text)] := by
  refine ⟨ofJson?_toJson, fun s t h => ?_, fun text => ⟨.ofText text, ?_⟩⟩
  · rw [← Option.some.injEq, ← ofJson?_toJson s, ← ofJson?_toJson t, h]
  · rw [toJson, Reference.text_ofText]

end Schema

end ProtoSchema
