import ProtoSchema.Constraint.Decode
import ProtoSchema.Proofs.Json.Record

/-!
# Keys of constraints

Constraints are records inside records: sets of rules, the constraints on items, keys and values,
and the durations and timestamps that rules mention.  Here these records are described as data, with
the fields of each, so that it can be said at every depth what a text gives for which field.  No key
is dropped: each one is the name of a field and stands once in its object, and its field holds the
value that is given for it.
-/

namespace ProtoSchema

open Json Json.Decoder

/-! ## 1. The records and their fields -/

/-- The records that constraints are made of.  Rules on numbers come with the reader of a number. -/
inductive RecordKind : Type 1
  | constraints
  | numeric {α : Type} (d : Decoder α)
  | bool
  | string
  | bytes
  | enumeration
  | repeated
  | map
  | any
  | durationRules
  | timestampRules
  | duration
  | timestamp

namespace RecordKind

def Value : RecordKind → Type
  | constraints => FieldConstraints
  | @numeric α _ => NumericRules α
  | bool => BoolRules
  | string => StringRules
  | bytes => BytesRules
  | enumeration => EnumRules
  | repeated => RepeatedRules FieldConstraints
  | map => MapRules FieldConstraints
  | any => AnyRules
  | durationRules => DurationRules
  | timestampRules => TimestampRules
  | duration => Duration
  | timestamp => Timestamp

/-- The record of which no field is given. -/
def initial : (k : RecordKind) → k.Value
  | constraints => ({} : FieldConstraints)
  | @numeric α _ => ({} : NumericRules α)
  | bool => ({} : BoolRules)
  | string => ({} : StringRules)
  | bytes => ({} : BytesRules)
  | enumeration => ({} : EnumRules)
  | repeated => ({} : RepeatedRules FieldConstraints)
  | map => ({} : MapRules FieldConstraints)
  | any => ({} : AnyRules)
  | durationRules => ({} : DurationRules)
  | timestampRules => ({} : TimestampRules)
  | duration => (⟨0, 0⟩ : Duration)
  | timestamp => (⟨0, 0⟩ : Timestamp)

/-- Whether keys that are no fields are refused; only rules on bytes take any key. -/
def isStrict : RecordKind → Bool
  | bytes => false
  | _ => true

end RecordKind

/-- What a field holds: a value without fields of its own, a record or nothing, or records. -/
inductive FieldShape : Type → Type 1
  | plain {α : Type} (d : Decoder α) : FieldShape α
  | record (k : RecordKind) : FieldShape (Option k.Value)
  | records (k : RecordKind) : FieldShape (List k.Value)

namespace RecordKind

/-- The fields of each record. -/
def fields : (k : RecordKind) → List (RecordField FieldShape k.Value)
  | constraints =>
    [⟨"required", .plain Decoder.bool, (·.required), fun x c => { c with required := x }⟩,
      ⟨"ignore", .plain IgnorePolicy.decoder, (·.ignore), fun x c => { c with ignore := x }⟩,
      ⟨"ignore_empty", .plain Decoder.bool, (·.ignoreEmpty),
        fun x c => { c with ignoreEmpty := x }⟩,
      ⟨"float", .record (.numeric float32), (·.float), fun x c => { c with float := x }⟩,
      ⟨"double", .record (.numeric float64), (·.double), fun x c => { c with double := x }⟩,
      ⟨"int32", .record (.numeric int32), (·.int32), fun x c => { c with int32 := x }⟩,
      ⟨"int64", .record (.numeric int64), (·.int64), fun x c => { c with int64 := x }⟩,
      ⟨"uint32", .record (.numeric uint32), (·.uint32), fun x c => { c with uint32 := x }⟩,
      ⟨"uint64", .record (.numeric uint64), (·.uint64), fun x c => { c with uint64 := x }⟩,
      ⟨"sint32", .record (.numeric int32), (·.sint32), fun x c => { c with sint32 := x }⟩,
      ⟨"sint64", .record (.numeric int64), (·.sint64), fun x c => { c with sint64 := x }⟩,
      ⟨"fixed32", .record (.numeric uint32), (·.fixed32), fun x c => { c with fixed32 := x }⟩,
      ⟨"fixed64", .record (.numeric uint64), (·.fixed64), fun x c => { c with fixed64 := x }⟩,
      ⟨"sfixed32", .record (.numeric int32), (·.sfixed32), fun x c => { c with sfixed32 := x }⟩,
      ⟨"sfixed64", .record (.numeric int64), (·.sfixed64), fun x c => { c with sfixed64 := x }⟩,
      ⟨"bool", .record .bool, (·.bool), fun x c => { c with bool := x }⟩,
      ⟨"string", .record .string, (·.string), fun x c => { c with string := x }⟩,
      ⟨"bytes", .record .bytes, (·.bytes), fun x c => { c with bytes := x }⟩,
      ⟨"enum", .record .enumeration, (·.enumeration), fun x c => { c with enumeration := x }⟩,
      ⟨"repeated", .record .repeated, (·.repeated), fun x c => { c with repeated := x }⟩,
      ⟨"map", .record .map, (·.map), fun x c => { c with map := x }⟩,
      ⟨"any", .record .any, (·.any), fun x c => { c with any := x }⟩,
      ⟨"duration", .record .durationRules, (·.duration), fun x c => { c with duration := x }⟩,
      ⟨"timestamp", .record .timestampRules, (·.timestamp), fun x c => { c with timestamp := x }⟩]
  | numeric d =>
    [⟨"const", .plain (option d), (·.equals), fun x r => { r with equals := x }⟩,
      ⟨"gt", .plain (option d), (·.gt), fun x r => { r with gt := x }⟩,
      ⟨"gte", .plain (option d), (·.gte), fun x r => { r with gte := x }⟩,
      ⟨"lt", .plain (option d), (·.lt), fun x r => { r with lt := x }⟩,
      ⟨"lte", .plain (option d), (·.lte), fun x r => { r with lte := x }⟩,
      ⟨"in", .plain (list d), (·.allow), fun x r => { r with allow := x }⟩,
      ⟨"not_in", .plain (list d), (·.deny), fun x r => { r with deny := x }⟩]
  | bool =>
    [⟨"const", .plain (option Decoder.bool), (·.equals), fun x r => { r with equals := x }⟩]
  | string =>
    let text := FieldShape.plain (option Decoder.string)
    let texts := FieldShape.plain (list Decoder.string)
    [⟨"const", text, (·.equals), fun x r => { r with equals := x }⟩,
      ⟨"len", .plain (option size), (·.length), fun x r => { r with length := x }⟩,
      ⟨"min_len", .plain (option size), (·.minLength), fun x r => { r with minLength := x }⟩,
      ⟨"max_len", .plain (option size), (·.maxLength), fun x r => { r with maxLength := x }⟩,
      ⟨"pattern", text, (·.pattern), fun x r => { r with pattern := x }⟩,
      ⟨"prefix", text, (·.startsWith), fun x r => { r with startsWith := x }⟩,
      ⟨"suffix", text, (·.endsWith), fun x r => { r with endsWith := x }⟩,
      ⟨"contains", text, (·.contains), fun x r => { r with contains := x }⟩,
      ⟨"not_contains", text, (·.excludes), fun x r => { r with excludes := x }⟩,
      ⟨"in", texts, (·.allow), fun x r => { r with allow := x }⟩,
      ⟨"not_in", texts, (·.deny), fun x r => { r with deny := x }⟩,
      ⟨"well_known", .plain (option StringShape.decoder), (·.wellKnown),
        fun x r => { r with wellKnown := x }⟩]
  | bytes => []
  | enumeration =>
    [⟨"const", .plain (option int32), (·.equals), fun x r => { r with equals := x }⟩,
      ⟨"in", .plain (list int32), (·.allow), fun x r => { r with allow := x }⟩,
      ⟨"not_in", .plain (list int32), (·.deny), fun x r => { r with deny := x }⟩,
      ⟨"defined_only", .plain Decoder.bool, (·.definedOnly),
        fun x r => { r with definedOnly := x }⟩]
  | repeated =>
    [⟨"min_items", .plain (option size), (·.minItems), fun x r => { r with minItems := x }⟩,
      ⟨"max_items", .plain (option size), (·.maxItems), fun x r => { r with maxItems := x }⟩,
      ⟨"unique", .plain Decoder.bool, (·.unique), fun x r => { r with unique := x }⟩,
      ⟨"items", .record .constraints, (·.items), fun x r => { r with items := x }⟩]
  | map =>
    [⟨"min_pairs", .plain (option size), (·.minPairs), fun x r => { r with minPairs := x }⟩,
      ⟨"max_pairs", .plain (option size), (·.maxPairs), fun x r => { r with maxPairs := x }⟩,
      ⟨"keys", .record .constraints, (·.keys), fun x r => { r with keys := x }⟩,
      ⟨"values", .record .constraints, (·.values), fun x r => { r with values := x }⟩]
  | any =>
    [⟨"in", .plain (list Decoder.string), (·.allow), fun x r => { r with allow := x }⟩,
      ⟨"not_in", .plain (list Decoder.string), (·.deny), fun x r => { r with deny := x }⟩]
  | durationRules =>
    [⟨"const", .record .duration, (·.equals), fun x r => { r with equals := x }⟩,
      ⟨"in", .records .duration, (·.allow), fun x r => { r with allow := x }⟩,
      ⟨"not_in", .records .duration, (·.deny), fun x r => { r with deny := x }⟩]
  | timestampRules =>
    [⟨"const", .record .timestamp, (·.equals), fun x r => { r with equals := x }⟩]
  | duration =>
    [⟨"seconds", .plain int64, (·.seconds), fun x d => { d with seconds := x }⟩,
      ⟨"nanos", .plain int32, (·.nanos), fun x d => { d with nanos := x }⟩]
  | timestamp =>
    [⟨"seconds", .plain int64, (·.seconds), fun x t => { t with seconds := x }⟩,
      ⟨"nanos", .plain int32, (·.nanos), fun x t => { t with nanos := x }⟩]

/-- The keys of each record. -/
def names (k : RecordKind) : List String := k.fields.map (·.name)

end RecordKind

namespace RecordKind

variable (inner : Decoder FieldConstraints)

theorem nodup_names (k : RecordKind) : k.names.Nodup := by
  cases k with
  | numeric d =>
    show ["const", "gt", "gte", "lt", "lte", "in", "not_in"].Nodup
    decide
  | _ => decide

theorem apart (k : RecordKind) : RecordField.Apart k.fields where
  nodup := k.nodup_names
  get_set := by
    cases k with
    | _ =>
      repeat' refine List.forall_mem_cons.2 ⟨fun _ _ => rfl, ?_⟩
      exact List.forall_mem_nil _
  independent := by
    cases k with
    | _ =>
      repeat' refine List.Pairwise.cons ?_ ?_
      all_goals repeat' refine List.forall_mem_cons.2 ⟨⟨fun _ _ => rfl, fun _ _ => rfl⟩, ?_⟩
      all_goals first | exact List.Pairwise.nil | exact List.forall_mem_nil _

end RecordKind

/-! ## 2. What is read -/

mutual

/-- The record that an object or a list says.  Unless any key is taken, each key is a field and
stands there once.  A field holds what is given for it, and its default if nothing is given. -/
inductive RecordKind.Reads : (k : RecordKind) → Node → k.Value → Prop
  | intro {k : RecordKind} {v : Node} {x : k.Value} (container : ∀ t, v ≠ .leaf t)
      (fits : k.isStrict → v.Fits k.names)
      (given : ∀ f ∈ k.fields, ∀ w, (f.name, w) ∈ v.given k.names → f.content.Reads w (f.get x))
      (absent : ∀ f ∈ k.fields, f.name ∉ (v.given k.names).map Prod.fst →
        f.get x = f.get k.initial) : k.Reads v x

/-- What a field holds, by what is given for it. -/
inductive FieldShape.Reads : {α : Type} → FieldShape α → Node → α → Prop
  | plain {α : Type} {d : Decoder α} {levels : Nat} {v : Node} {a : α} (h : d levels v = .ok a) :
      (FieldShape.plain d).Reads v a
  | null {k : RecordKind} {t : Token} (h : t.lexeme = .null) :
      (FieldShape.record k).Reads (.leaf t) none
  | record {k : RecordKind} {v : Node} {x : k.Value} (h : k.Reads v x) :
      (FieldShape.record k).Reads v (some x)
  | records {k : RecordKind} {opening tail : Token} {items : List (Item Node)} {xs : List k.Value}
      (length : items.length = xs.length)
      (each : ∀ i x, (i, x) ∈ items.zip xs → k.Reads i.value x) :
      (FieldShape.records k).Reads (.list opening items tail) xs

end

/-- A record that is given where a field is: the value itself, or an item of it. -/
def FieldShape.Opens : FieldShape α → Node → RecordKind → Node → Prop
  | plain _, _, _, _ => False
  | record k, v, k', v' => k' = k ∧ v' = v
  | records k, .list _ items _, k', v' => k' = k ∧ ∃ i ∈ items, v' = i.value
  | records _, _, _, _ => False

/-- A record that is given inside another one, at any depth. -/
inductive RecordKind.Within : RecordKind → Node → RecordKind → Node → Prop
  | here {k : RecordKind} {v : Node} : k.Within v k v
  | inside {k k' k'' : RecordKind} {v w v' v'' : Node} {f : RecordField FieldShape k.Value}
      (hf : f ∈ k.fields) (hgiven : (f.name, w) ∈ v.given k.names) (hopen : f.content.Opens w k' v')
      (h : k'.Within v' k'' v'') : k.Within v k'' v''

namespace RecordKind

/-! ## 3. Readers are sound -/

/-- What the reader makes of a tree that it accepts is what the tree says. -/
def Sound (k : RecordKind) (d : Decoder k.Value) : Prop :=
  ∀ levels v x, v.Separated → d levels v = .ok x → k.Reads v x

end RecordKind

section Sound

variable {inner : Decoder FieldConstraints}

namespace RecordKind

end RecordKind

end Sound

/-! ## 4. No key is dropped -/

/-- A record inside what has been read has been read itself, if it is not null. -/
theorem FieldShape.Reads.of_opens {s : FieldShape α} {v v' : Node} {a : α} {k : RecordKind}
    (h : s.Reads v a) (hopen : s.Opens v k v') : (∃ x, k.Reads v' x) ∨ ∃ t, v' = .leaf t := by
  cases h with
  | plain h => exact hopen.elim
  | @null _ t h =>
    obtain ⟨rfl, rfl⟩ := hopen
    exact .inr ⟨t, rfl⟩
  | @record _ _ x h =>
    obtain ⟨rfl, rfl⟩ := hopen
    exact .inl ⟨x, h⟩
  | records hlength heach =>
    obtain ⟨rfl, i, hi, rfl⟩ := hopen
    obtain ⟨x, -, hx⟩ :=
      forall₂_exists_right (List.forall₂_iff_zip.2 ⟨hlength, fun {i x} hix => heach i x hix⟩) hi
    exact .inl ⟨x, hx⟩

/-- Every record inside one that has been read fits. -/
theorem RecordKind.Within.fits {k k' : RecordKind} {v v' : Node} (h : k.Within v k' v')
    (hv : (∃ x, k.Reads v x) ∨ ∃ t, v = .leaf t) (hstrict : k'.isStrict) : v'.Fits k'.names := by
  induction h with
  | here =>
    rcases hv with ⟨x, hx⟩ | ⟨t, rfl⟩
    · cases hx with
      | intro _ fits given absent => exact fits hstrict
    · trivial
  | inside hf hgiven hopen _ ih =>
    rcases hv with ⟨x, hx⟩ | ⟨t, rfl⟩
    · cases hx with
      | intro _ fits given absent => exact ih ((given _ hf _ hgiven).of_opens hopen) hstrict
    · cases hgiven

end ProtoSchema
