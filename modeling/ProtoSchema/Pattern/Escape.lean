import ProtoSchema.Pattern.Cursor
import ProtoSchema.Text.Digit

/-!
# Escapes

What follows a backslash: a character with a meaning of its own, a code point in hexadecimal digits,
a class, or an assertion.
-/

namespace ProtoSchema.Pattern

open Cursor

/-- A part of a pattern that holds no other parts. -/
inductive Primitive
  | literal (l : Literal)
  | dot (span : Span)
  | assertion (span : Span) (a : Assertion)
  | property (p : PropertyClass)
  | shorthand (s : ShorthandClass)
deriving Repr, Inhabited

namespace Primitive

def span : Primitive → Span
  | literal l => l.span
  | dot span => span
  | assertion span _ => span
  | property p => p.span
  | shorthand s => s.span

def toRegex : Primitive → Regex
  | literal l => .literal l
  | dot span => .dot span
  | assertion span a => .assertion span a
  | property p => .property p
  | shorthand s => .shorthand s

end Primitive

/-- The next character, taken as it is. -/
def plainLiteral (c : Cursor) (x : Char) : Literal := ⟨c.here, .plain, x⟩

/-! ## Hexadecimal digits -/

/-- The scalar value with a number. -/
def scalar? (n : Nat) : Option Char := if h : n.isValidChar then some ⟨.ofNatLT n (by
    rcases h with h | h <;> simp [UInt32.size] <;> omega), by
    simpa [UInt32.isValidChar, Nat.isValidChar] using h⟩ else none

/-- Reads `count` digits. -/
def hexDigits (blank : Bool) : (count : Nat) → (value : Nat) → Cursor → Except Fault (Nat × Cursor)
  | 0, value, c => .ok (value, c)
  | count + 1, value, c =>
    match c.peek with
    | none => fail .escapeUnexpectedEnd c.point
    | some x =>
      match Text.hexValue x with
      | none => c.refuse .escapeHexInvalidDigit
      | some d => hexDigits blank count (value * 16 + d) (c.next blank)

/-- Reads digits up to a closing brace; `none` stands for no digits. -/
def hexInBraces (blank : Bool) (opening : Cursor) :
    (fuel : Nat) → (value : Option Nat) → Cursor → Except Fault (Option Nat × Cursor)
  | fuel, value, c =>
    match fuel, c.peek with
    | _, some '}' => .ok (value, c)
    | fuel + 1, some x =>
      match Text.hexValue x with
      | none => c.refuse .escapeHexInvalidDigit
      | some d => hexInBraces blank opening fuel (some (value.getD 0 * 16 + d)) (c.next blank)
    | _, _ => c.refuseFrom opening.pos .escapeUnexpectedEnd

/-- How many digits follow the letter of a code point that has no braces. -/
def hexCount (letter : Char) : Nat :=
  match letter with
  | 'x' => 2
  | 'u' => 4
  | _ => 8

/-- A code point; the cursor is at its letter. -/
def hexLiteral (blank : Bool) (start : Position) (letter : Char) (c : Cursor) :
    Except Fault (Literal × Cursor) := do
  let c := c.next blank
  match c.peek with
  | none => fail .escapeUnexpectedEnd c.point
  | some '{' =>
    let first := c.bump
    let (value, last) ← hexInBraces blank c c.rest.length none (c.next blank)
    let after := last.next blank
    match value with
    | none => after.refuseFrom c.pos .escapeHexEmpty
    | some n =>
      match scalar? n with
      | none => last.refuseFrom first.pos .escapeHexInvalid
      | some x => return (⟨⟨start, after.pos⟩, .plain, x⟩, after)
  | some _ =>
    let (n, after) ← hexDigits blank (hexCount letter) 0 c
    match scalar? n with
    | none => after.refuseFrom c.pos .escapeHexInvalid
    | some x =>
      return (⟨⟨start, after.pos⟩, if letter = 'x' then .byte else .plain, x⟩, after)

/-! ## Classes -/

/-- The characters up to a closing brace, without blanks where those are ignored. -/
def textInBraces (blank : Bool) :
    (fuel : Nat) → (taken : List Char) → Cursor → Except Fault (List Char × Cursor)
  | fuel, taken, c =>
    match fuel, c.peek with
    | _, some '}' => .ok (taken.reverse, c)
    | fuel + 1, some x => textInBraces blank fuel (x :: taken) (c.next blank)
    | _, _ => fail .escapeUnexpectedEnd c.point

/-- Splits a text at the first place where `separator` stands. -/
def splitAtFirst? (separator : List Char) : List Char → Option (List Char × List Char)
  | [] => none
  | c :: cs =>
    if separator.isPrefixOf (c :: cs) then some ([], (c :: cs).drop separator.length)
    else (splitAtFirst? separator cs).map fun (before, after) => (c :: before, after)

/-- The name of a property, or a name and a value with a separator between them. -/
def PropertyName.ofText (text : List Char) : PropertyName :=
  match splitAtFirst? ['!', '='] text with
  | some (before, after) => .value true (.ofList before) (.ofList after)
  | none =>
    match (splitAtFirst? [':'] text).or (splitAtFirst? ['='] text) with
    | some (before, after) => .value false (.ofList before) (.ofList after)
    | none => .name (.ofList text)

/-- A property class; the cursor is at its letter. -/
def propertyClass (blank : Bool) (start : Position) (negated : Bool) (c : Cursor) :
    Except Fault (PropertyClass × Cursor) := do
  let c := c.next blank
  match c.peek with
  | none => fail .escapeUnexpectedEnd c.point
  | some '{' =>
    let (text, last) ← textInBraces blank c.rest.length [] (c.next blank)
    let after := last.bump
    return (⟨⟨start, after.pos⟩, negated, .ofText text⟩, after)
  | some '\\' => c.refuse .propertyInvalid
  | some x =>
    let after := c.next blank
    return (⟨⟨start, after.pos⟩, negated, .name x.toString⟩, after)

/-- The class of a letter. -/
def shorthand? (letter : Char) : Option (Shorthand × Bool) :=
  match letter with
  | 'd' => some (.digit, false)
  | 'D' => some (.digit, true)
  | 's' => some (.space, false)
  | 'S' => some (.space, true)
  | 'w' => some (.word, false)
  | 'W' => some (.word, true)
  | _ => none

/-! ## Assertions -/

def isBoundaryNameChar (c : Char) : Bool :=
  ('A' ≤ c && c ≤ 'Z') || ('a' ≤ c && c ≤ 'z') || c = '-'

/-- The characters of a boundary's name. -/
def boundaryName (blank : Bool) : (fuel : Nat) → (taken : List Char) → Cursor → List Char × Cursor
  | fuel, taken, c =>
    match fuel, c.peek with
    | fuel + 1, some x =>
      if isBoundaryNameChar x then boundaryName blank fuel (x :: taken) (c.next blank)
      else (taken.reverse, c)
    | _, _ => (taken.reverse, c)

def boundaryOfName? (name : String) : Option Assertion :=
  match name with
  | "start" => some .wordStart
  | "end" => some .wordEnd
  | "start-half" => some .wordStartHalf
  | "end-half" => some .wordEndHalf
  | _ => none

/-- A named boundary, if what is in the braces starts like one; else the braces belong to a
repetition.  The cursor is at the opening brace. -/
def namedBoundary? (blank : Bool) (start : Position) (c : Cursor) :
    Except Fault (Option (Assertion × Cursor)) := do
  let first := c.next blank
  match first.peek with
  | none => first.refuseFrom start .wordBoundaryUnexpectedEnd
  | some x =>
    if !isBoundaryNameChar x then return none
    let (name, last) := boundaryName blank first.rest.length [] first
    if last.peek ≠ some '}' then last.refuseFrom c.pos .wordBoundaryUnclosed
    else
      match boundaryOfName? (.ofList name) with
      | none => last.refuseFrom first.pos .wordBoundaryUnrecognized
      | some a => return some (a, last.bump)

/-! ## All escapes -/

/-- Characters that have a meaning of their own somewhere in a pattern. -/
def metaChars : List Char := "\\.+*?()|[]\x7b\x7d^$#&-~".toList

/-- Characters that may stand after a backslash for themselves. -/
def isEscapable (c : Char) : Bool :=
  metaChars.contains c || (c.toNat < 128 && !c.isAlphanum && c != '<' && c != '>')

/-- The control characters with a letter. -/
def controlOfLetter? (letter : Char) : Option Char :=
  match letter with
  | 'a' => some '\x07'
  | 'f' => some '\x0c'
  | 't' => some '\t'
  | 'n' => some '\n'
  | 'r' => some '\r'
  | 'v' => some '\x0b'
  | _ => none

def assertionOfLetter? (letter : Char) : Option Assertion :=
  match letter with
  | 'A' => some .startText
  | 'z' => some .endText
  | 'B' => some .notBoundary
  | '<' => some .wordStartAngle
  | '>' => some .wordEndAngle
  | _ => none

/-- An escape; the cursor is at the backslash. -/
def escape (blank : Bool) (c : Cursor) : Except Fault (Primitive × Cursor) := do
  let start := c.pos
  let c := c.bump
  match c.peek with
  | none => c.refuseFrom start .escapeUnexpectedEnd
  | some x =>
    let after := c.bump
    let span : Span := ⟨start, after.pos⟩
    if Text.isDigit x then fail .backreference span
    else if x = 'x' ∨ x = 'u' ∨ x = 'U' then
      let (l, after) ← hexLiteral blank start x c
      return (.literal l, after)
    else if x = 'p' ∨ x = 'P' then
      let (p, after) ← propertyClass blank start (x = 'P') c
      return (.property p, after)
    else if let some (kind, negated) := shorthand? x then
      return (.shorthand ⟨span, kind, negated⟩, after)
    else if isEscapable x then return (.literal ⟨span, .plain, x⟩, after)
    else if let some y := controlOfLetter? x then return (.literal ⟨span, .plain, y⟩, after)
    else if let some a := assertionOfLetter? x then return (.assertion span a, after)
    else if x = 'b' then
      if after.peek = some '{' then
        match ← namedBoundary? blank start after with
        | some (a, after) => return (.assertion ⟨start, after.pos⟩ a, after)
        | none => return (.assertion span .boundary, after)
      else return (.assertion span .boundary, after)
    else fail .escapeUnrecognized span

end ProtoSchema.Pattern
