import ProtoSchema.Json.Node

/-!
# Reading values of given types

A decoder reads a tree as a value of some type and reports the first problem in the order of the
text.  A record is written as an object or as the list of its fields; a variant is written as its
name or as an object with its name as the only key.  Containers that are decoded nest to a limited
depth; values of unknown keys are skipped at any depth.
-/

namespace ProtoSchema.Json

/-- Why a value cannot be read.  A fault that comes up without a place gets one from the innermost
container around it that can tell; until then it carries the token that followed, once that is
known. -/
inductive Failure
  | placed (fault : Fault)
  | pending (cause : DataFault) (next : Option Token)

namespace Failure

def cause : Failure → Cause
  | placed fault => fault.cause
  | pending cause _ => .data cause

/-- The message of a failure in `text`, with its position if it has one. -/
def describe (text : String) : Failure → String
  | placed fault => fault.describe text
  | pending cause _ => cause.message

/-- Supplies the token that followed, if none is known. -/
def followedBy (t : Token) : Failure → Failure
  | pending cause none => pending cause (some t)
  | failure => failure

/-- Supplies a place, given the offset that belongs to the token that followed. -/
def place (offset : Token → Nat) (t : Token) : Failure → Failure
  | placed fault => placed fault
  | pending cause next => placed ⟨.data cause, offset (next.getD t)⟩

end Failure

/-- Reads a tree, inside which `levels` more containers may nest. -/
abbrev Decoder (α : Type) := (levels : Nat) → Node → Except Failure α

def Token.reject (t : Token) (ended other : GrammarFault) : Except Failure α :=
  .error (.placed (t.rejected ended other))

/-- A fault in a token, or a value of the wrong type. -/
def Token.mismatch (t : Token) (expected : String) : Failure :=
  let wrong := fun (found : Found) (offset : Nat) =>
    Failure.placed ⟨.data (.invalidType found expected), offset⟩
  match t.lexeme with
  | .null => wrong .null t.stop
  | .bool b => wrong (.bool b) t.stop
  | .number (.ok n) _ => wrong (.number n) t.stop
  | .text (.ok s) _ => wrong (.string s) t.stop
  | .number (.error fault) _ | .text (.error fault) _ | .brokenWord _ fault => .placed fault
  | .mark .openBracket => wrong .sequence t.start
  | .mark .openBrace => wrong .map t.start
  | .mark _ | .stray | .endOfText => .placed (t.rejected .endInValue .expectedValue)

/-- The first token of a tree. -/
def Node.first : Node → Token
  | leaf t => t
  | list opening .. => opening
  | dict opening .. => opening

def Node.mismatch (v : Node) (expected : String) : Failure := v.first.mismatch expected

/-! ## Skipping -/

def skipToken (t : Token) : Except Fault Unit :=
  match t.lexeme with
  | .null | .bool _ => .ok ()
  | .number _ skipped | .text _ skipped => skipped
  | .brokenWord _ fault => .error fault
  | .mark _ | .stray | .endOfText => .error (t.rejected .endInValue .expectedValue)

mutual

/-- Checks a value that is not used. -/
def skip : Node → Except Fault Unit
  | .leaf t => skipToken t
  | .list _ items tail => skipItems tail items
  | .dict _ entries tail => skipEntries tail entries

def skipItems (tail : Token) : List (Item Node) → Except Fault Unit
  | [] =>
    if tail.is .closeBracket then .ok () else .error (tail.rejected .endInList .expectedValue)
  | ⟨v, after⟩ :: rest => do
    skip v
    if after.is .closeBracket then return
    if !after.is .comma then throw (after.rejected .endInList .expectedCommaOrBracket)
    if rest.isEmpty then throw (tail.rejected .endInValue .expectedValue)
    skipItems tail rest

def skipEntries (tail : Token) : List (Entry Node) → Except Fault Unit
  | [] =>
    if tail.is .closeBrace then .ok () else .error (tail.rejected .endInObject .keyNotString)
  | ⟨key, colon, v, after⟩ :: rest => do
    skipToken key
    if !colon.is .colon then throw (colon.rejected .endInObject .expectedColon)
    skip v
    if after.is .closeBrace then return
    if !after.is .comma then throw (after.rejected .endInObject .expectedCommaOrBrace)
    if rest.isEmpty then throw (tail.rejected .endInObject .keyNotString)
    skipEntries tail rest

end

/-! ## Simple values -/

namespace Decoder

def null : Decoder Unit := fun _ v =>
  match v with
  | .leaf ⟨.null, _, _, _⟩ => .ok ()
  | v => .error (v.mismatch "unit")

def bool : Decoder Bool := fun _ v =>
  match v with
  | .leaf ⟨.bool b, _, _, _⟩ => .ok b
  | v => .error (v.mismatch "a boolean")

/-- The value of a string token. -/
def textOf (t : Token) (expected : String) : Except Failure String :=
  match t.lexeme with
  | .text value _ => value.mapError .placed
  | _ => .error (t.mismatch expected)

def string : Decoder String := fun _ v =>
  match v with
  | .leaf t => textOf t "a string"
  | v => .error (v.mismatch "a string")

/-- An integer within bounds. -/
def integer (name : String) (lo hi : Int) : Decoder Int := fun _ v =>
  match v with
  | .leaf ⟨.number (.ok (.int n)) _, _, stop, _⟩ =>
    if lo ≤ n ∧ n ≤ hi then .ok n
    else .error (.placed ⟨.data (.invalidInteger n name), stop⟩)
  | v => .error (v.mismatch name)

def int32 : Decoder Int := integer "i32" (-0x80000000) 0x7FFFFFFF

def int64 : Decoder Int := integer "i64" (-0x8000000000000000) 0x7FFFFFFFFFFFFFFF

def uint32 : Decoder Int := integer "u32" 0 0xFFFFFFFF

def uint64 : Decoder Int := integer "u64" 0 0xFFFFFFFFFFFFFFFF

/-- A size. -/
def size : Decoder Nat := fun levels v => (uint64 levels v).map Int.toNat

/-- A number of a binary format; an integer is rounded once, from the integer itself. -/
def float (name : String) (f : BinaryFormat) : Decoder BinaryFloat := fun _ v =>
  match v with
  | .leaf ⟨.number (.ok (.int n)) _, _, _, _⟩ => .ok (.ofInt f n)
  | .leaf ⟨.number (.ok (.float x)) _, _, _, _⟩ => .ok (x.convert f)
  | v => .error (v.mismatch name)

def float32 : Decoder BinaryFloat := float "f32" binary32

def float64 : Decoder BinaryFloat := float "f64" binary64

/-- A value or null. -/
def option (d : Decoder α) : Decoder (Option α) := fun levels v =>
  match v with
  | .leaf ⟨.null, _, _, _⟩ => .ok none
  | .leaf ⟨.brokenWord 'n' fault, _, _, _⟩ => .error (.placed fault)
  | v => (d levels v).map some

/-! ## Containers -/

/-- Goes one level down, if there is one. -/
def enter (opening : Token) (levels : Nat) (inside : Nat → Except Failure α) : Except Failure α :=
  match levels with
  | 0 => opening.reject .nestedTooDeep .nestedTooDeep
  | levels + 1 => inside levels

/-- The offset of a fault that precedes a token inside a list: after the token if the list ends
with it or goes on after it. -/
def listOffset (t : Token) : Nat :=
  if t.is .closeBracket then t.stop else if t.is .comma then t.next else t.start

/-- The offset of a fault that precedes a token inside an object: after the token if the object
ends with it. -/
def dictOffset (t : Token) : Nat := if t.is .closeBrace then t.stop else t.start

/-- Reads the value of an item; the list supplies a place. -/
def item (d : Decoder α) (levels : Nat) (i : Item Node) : Except Failure α :=
  (d levels i.value).mapError (Failure.place listOffset i.after)

/-- Whether a list goes on after an item, given what is left of it. -/
def goesOn (after tail : Token) (rest : List (Item Node)) : Except Failure Bool :=
  if after.is .closeBracket then .ok false
  else if !after.is .comma then after.reject .endInList .expectedCommaOrBracket
  else if rest.isEmpty then tail.reject .endInValue .trailingComma
  else .ok true

def items (d : Decoder α) (levels : Nat) (tail : Token) :
    List (Item Node) → Except Failure (List α)
  | [] => if tail.is .closeBracket then .ok [] else tail.reject .endInList .expectedValue
  | i :: rest => do
    let x ← item d levels i
    if ← goesOn i.after tail rest then return x :: (← items d levels tail rest) else return [x]

def list (d : Decoder α) : Decoder (List α) := fun levels v =>
  match v with
  | .list opening is tail => enter opening levels fun levels => items d levels tail is
  | v => .error (v.mismatch "a sequence")

/-! ### Records -/

/-- A field of a record: reading its value gives a change to the record. -/
structure Slot (σ : Type) where
  name : String
  required : Bool
  read : Decoder (σ → σ)

/-- A field that must be given. -/
def required (name : String) (d : Decoder α) (set : α → σ → σ) : Slot σ :=
  ⟨name, true, fun levels v => (d levels v).map set⟩

/-- A field that keeps its default if it is not given. -/
def defaulted (name : String) (d : Decoder α) (set : α → σ → σ) : Slot σ :=
  ⟨name, false, fun levels v => (d levels v).map set⟩

/-- A record type: what messages call it, its fields, and whether other keys are refused. -/
structure Record (σ : Type) where
  what : String
  slots : List (Slot σ)
  strict : Bool
  initial : σ

/-- What messages call a list that holds a whole record. -/
def Record.elements (r : Record σ) : String :=
  r.what ++ " with " ++ toString r.slots.length ++
    (if r.slots.length = 1 then " element" else " elements")

/-- The end of a list form whose fields have all been read, seen by the next token and the one
after it. -/
def endOfFields (t next : Token) (x : σ) : Except Failure σ :=
  if t.is .closeBracket then .ok x
  else if !t.is .comma then t.reject .endInList .trailingCharacters
  else if next.is .closeBracket then next.reject .trailingComma .trailingComma
  else next.reject .trailingCharacters .trailingCharacters

/-- The record in list form when the list has ended before the fields `rest`, the first of which is
the field number `i`. -/
def withoutFields (r : Record σ) (tail : Token) (i : Nat) (rest : List (Slot σ)) (x : σ) :
    Except Failure σ :=
  match rest.findIdx? (·.required) with
  | none => .ok x
  | some k =>
    .error (.placed ⟨.data (.invalidLength (i + k) r.elements), listOffset tail⟩)

/-- Reads the fields of a record in list form. -/
def fieldsOfItems (r : Record σ) (levels : Nat) (tail : Token) :
    (i : Nat) → List (Slot σ) → List (Item Node) → σ → Except Failure σ
  | _, [], [], x => endOfFields tail tail x
  | _, [], j :: _, x => endOfFields j.value.first j.after x
  | i, slots, [], x =>
    if tail.is .closeBracket then withoutFields r tail i slots x
    else tail.reject .endInList .expectedValue
  | i, slot :: slots, j :: rest, x => do
    let x := (← item slot.read levels j) x
    match slots with
    | [] => endOfFields j.after ((rest.head?.map (·.value.first)).getD tail) x
    | slots =>
      if ← goesOn j.after tail rest then fieldsOfItems r levels tail (i + 1) slots rest x
      else withoutFields r tail (i + 1) slots x

/-- The end of a record in object form. -/
def endOfEntries (r : Record σ) (seen : List String) (closing : Token) (x : σ) :
    Except Failure σ :=
  match r.slots.find? fun slot => slot.required && !seen.contains slot.name with
  | none => .ok x
  | some slot => .error (.placed ⟨.data (.missingField slot.name), closing.stop⟩)

def expectColon (t : Token) : Except Failure Unit :=
  if t.is .colon then .ok () else t.reject .endInObject .expectedColon

/-- Reads the fields of a record in object form. -/
def fieldsOfEntries (r : Record σ) (levels : Nat) (tail : Token) :
    (seen : List String) → List (Entry Node) → σ → Except Failure σ
  | seen, [], x =>
    if tail.is .closeBrace then endOfEntries r seen tail x
    else tail.reject .endInObject .keyNotString
  | seen, e :: rest, x => do
    let key ← textOf e.key "a string"
    let misplaced := fun cause => Failure.placed ⟨.data cause, dictOffset e.colon⟩
    let x ← match r.slots.find? (·.name = key) with
      | none =>
        if r.strict then throw (misplaced (.unknownField key (r.slots.map (·.name))))
        expectColon e.colon
        (skip e.value).mapError .placed
        pure x
      | some slot =>
        if seen.contains key then throw (misplaced (.duplicateField key))
        expectColon e.colon
        pure ((← (slot.read levels e.value).mapError (Failure.place dictOffset e.after)) x)
    if e.after.is .closeBrace then endOfEntries r (key :: seen) e.after x
    else if !e.after.is .comma then e.after.reject .endInObject .expectedCommaOrBrace
    else if !rest.isEmpty then fieldsOfEntries r levels tail (key :: seen) rest x
    else if tail.is .closeBrace then tail.reject .trailingComma .trailingComma
    else tail.reject .endInValue .keyNotString

def record (r : Record σ) : Decoder σ := fun levels v =>
  match v with
  | .leaf t => .error (t.mismatch r.what)
  | .list opening is tail => enter opening levels fun levels =>
    fieldsOfItems r levels tail 0 r.slots is r.initial
  | .dict opening entries tail => enter opening levels fun levels =>
    fieldsOfEntries r levels tail [] entries r.initial

/-! ### Variants -/

/-- What follows the name of a variant: nothing, or a value, of which messages say what it is. -/
inductive Content (α : Type)
  | none (x : α)
  | some (what : String) (d : Decoder α)

abbrev Variants (α : Type) := List (String × Content α)

/-- The content of a named variant; `offset` is where the name ends. -/
def contentOf (variants : Variants α) (name : String) (offset : Nat) :
    Except Failure (Content α) :=
  match variants.lookup name with
  | .some content => .ok content
  | .none => .error (.placed ⟨.data (.unknownVariant name (variants.map (·.1))), offset⟩)

/-- A variant whose name stands alone. -/
def ofName (variants : Variants α) (t : Token) : Except Failure α :=
  match t.lexeme with
  | .text value _ => do
    let name ← value.mapError .placed
    match ← contentOf variants name t.stop with
    | .none x => return x
    | .some what _ => throw (.pending (.invalidType .bareVariant what) .none)
  | _ => t.reject .endInValue .expectedValue

/-- A variant that is written as an object. -/
def ofEntries (variants : Variants α) (levels : Nat) (tail : Token) :
    List (Entry Node) → Except Failure α
  | [] => tail.reject .endInObject .keyNotString
  | e :: _ => do
    let name ← textOf e.key "a string"
    let content ← contentOf variants name e.key.stop
    expectColon e.colon
    let x ← match content with
      | .none x => (null levels e.value).map fun () => x
      | .some _ d => (d levels e.value).mapError (Failure.followedBy e.after)
    if e.after.is .closeBrace then return x
    if e.after.isEnd then throw (.placed (faultAt .endInObject e.after.start))
    throw (.placed (faultAt .expectedValue e.after.start))

def variant (variants : Variants α) : Decoder α := fun levels v =>
  match v with
  | .leaf t => ofName variants t
  | .list opening .. => opening.reject .endInValue .expectedValue
  | .dict opening entries tail => enter opening levels fun levels =>
    ofEntries variants levels tail entries

/-- Reads a type that contains itself, given how to read it from a reader of the values inside.
Each value inside is at least one level down. -/
def nested (step : Decoder α → Decoder α) : Decoder α := fun levels v => unroll levels levels v
where
  unroll : Nat → Decoder α
    | 0 => step fun _ v => v.first.reject .nestedTooDeep .nestedTooDeep
    | n + 1 => step fun levels v => unroll n levels v

/-- The depth to which containers nest. -/
def maxLevels : Nat := 127

/-- Reads a whole text. -/
def run (d : Decoder α) (text : String) : Except Failure α := do
  let root := Node.ofText text
  let x ← d maxLevels root.value
  if root.after.isEnd then return x
  else throw (.placed (root.after.rejected .trailingCharacters .trailingCharacters))

end Decoder

end ProtoSchema.Json
