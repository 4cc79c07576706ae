import ProtoSchema.Pattern.Escape

/-!
# Classes in brackets

A class holds members side by side: characters, ranges, named classes and further brackets.  The
operations on sets bind less tightly than standing side by side, and group from the left.
-/

namespace ProtoSchema.Pattern

open Cursor

/-- Members that stand side by side, the last one first, with the place that they take. -/
structure Members where
  span : Span
  taken : List ClassBody
deriving Repr, Inhabited

namespace Members

/-- No members yet. -/
def none (c : Cursor) : Members := ⟨c.point, []⟩

def push (m : Members) (x : ClassBody) : Members :=
  ⟨if m.taken.isEmpty then x.span else ⟨m.span.start, x.span.stop⟩, x :: m.taken⟩

def body (m : Members) : ClassBody :=
  match m.taken with
  | [] => .empty m.span
  | [x] => x
  | several => .union m.span several.reverse

end Members

/-- What is open around the members that are being read. -/
inductive ClassFrame
  | bracket (outer : Members) (opening : Span) (negated : Bool)
  | operation (op : SetOperation) (left : ClassBody)
deriving Repr, Inhabited

/-- Completes the operation that is open on the left of `right`, if one is. -/
def closeOperation (right : ClassBody) : List ClassFrame → ClassBody × List ClassFrame
  | .operation op left :: frames =>
    (.operation ⟨left.span.start, right.span.stop⟩ op left right, frames)
  | frames => (right, frames)

/-- The fault of a class without an end, at the innermost bracket that is open. -/
def unclosed : List ClassFrame → Except Fault α
  | .bracket _ opening _ :: _ => fail .classUnclosed opening
  | .operation .. :: frames => unclosed frames
  | [] => fail .classUnclosed (.at .start)

/-- Hyphens at the start of a class stand for themselves. -/
def leadingHyphens (blank : Bool) (start : Position) :
    (fuel : Nat) → Members → Cursor → Except Fault (Members × Cursor)
  | fuel, m, c =>
    match fuel, c.peek with
    | fuel + 1, some '-' =>
      let after := c.next blank
      if after.atEnd then fail .classUnclosed (.at start)
      else leadingHyphens blank start fuel (m.push (.literal (plainLiteral c '-'))) after
    | _, _ => .ok (m, c)

/-- The start of a class: its opening, whether it is negated, and its first members.  A closing
bracket that comes first is a member.  The cursor is at the bracket. -/
def openBracket (blank : Bool) (c : Cursor) : Except Fault (Span × Bool × Members × Cursor) := do
  let start := c.pos
  let c := c.next blank
  if c.atEnd then c.refuseFrom start .classUnclosed
  let negated := c.peek = some '^'
  let c := if negated then c.next blank else c
  if c.atEnd then c.refuseFrom start .classUnclosed
  let (m, c) ← leadingHyphens blank start c.rest.length (.none c) c
  if m.taken.isEmpty && c.peek = some ']' then
    let after := c.next blank
    if after.atEnd then after.refuseFrom start .classUnclosed
    return (⟨start, after.pos⟩, negated, m.push (.literal (plainLiteral c ']')), after)
  return (⟨start, c.pos⟩, negated, m, c)

/-- A class that is named between colons, if there is one at the cursor. -/
def asciiClass? (c : Cursor) : Option (ClassBody × Cursor) := do
  let inner ← c.accept? "[:"
  let negated := inner.peek = some '^'
  let inner := if negated then inner.bump else inner
  let name := String.ofList (inner.rest.takeWhile (· != ':'))
  let kind ← AsciiClass.names.lookup name
  let after ← inner.accept? (name ++ ":]")
  return (.ascii ⟨c.pos, after.pos⟩ negated kind, after)

/-- A member that is no bracket. -/
def classPrimitive (blank : Bool) (c : Cursor) (x : Char) : Except Fault (Primitive × Cursor) :=
  if x = '\\' then escape blank c else .ok (.literal (plainLiteral c x), c.bump)

def Primitive.toMember : Primitive → Except Fault ClassBody
  | literal l => .ok (.literal l)
  | property p => .ok (.property p)
  | shorthand s => .ok (.shorthand s)
  | dot span | assertion span _ => fail .classEscapeInvalid span

/-- The character at an end of a range. -/
def Primitive.toEnd : Primitive → Except Fault Literal
  | literal l => .ok l
  | p => fail .classRangeLiteral p.span

/-- A single member or a range.  A hyphen before a closing bracket or another hyphen makes no
range. -/
def classRange (blank : Bool) (frames : List ClassFrame) (c : Cursor) (x : Char) :
    Except Fault (ClassBody × Cursor) := do
  let (first, c) ← classPrimitive blank c x
  let c := c.skipBlanks blank
  if c.atEnd then unclosed frames
  let second := c.peekSecond blank
  if c.peek ≠ some '-' ∨ second = some ']' ∨ second = some '-' then
    return (← first.toMember, c)
  let c := c.next blank
  match c.peek with
  | none => unclosed frames
  | some y =>
    let (last, c) ← classPrimitive blank c y
    let span : Span := ⟨first.span.start, last.span.stop⟩
    let lo ← first.toEnd
    let hi ← last.toEnd
    if hi.char < lo.char then fail .classRangeInvalid span
    return (.range span lo hi, c)

/-- The operation at the cursor: a sign that is written twice. -/
def operation? (c : Cursor) : Option SetOperation :=
  match c.rest with
  | '&' :: '&' :: _ => some .intersection
  | '-' :: '-' :: _ => some .difference
  | '~' :: '~' :: _ => some .symmetricDifference
  | _ => none

/-- Reads members up to the bracket that closes the outermost class.  Each round takes at least one
character, so `fuel` is the number of characters at most. -/
def classMembers (blank : Bool) :
    (fuel : Nat) → List ClassFrame → Members → Cursor → Except Fault (Regex × Cursor)
  | fuel, frames, m, c =>
    let c := c.skipBlanks blank
    match fuel, c.peek with
    | fuel + 1, some ']' =>
      match closeOperation m.body frames with
      | (body, .bracket outer opening negated :: rest) =>
        let after := c.bump
        let span : Span := ⟨opening.start, after.pos⟩
        if rest.isEmpty then .ok (.bracket span negated body, after)
        else classMembers blank fuel rest (outer.push (.nested span negated body)) after
      | _ => unclosed frames
    | fuel + 1, some x =>
      match (if x = '[' then asciiClass? c else none), operation? c with
      | some (member, c), _ => classMembers blank fuel frames (m.push member) c
      | none, some op =>
        let (left, frames) := closeOperation m.body frames
        let after := c.bump.bump
        classMembers blank fuel (.operation op left :: frames) (.none after) after
      | none, none =>
        if x = '[' then do
          let (opening, negated, inner, c) ← openBracket blank c
          classMembers blank fuel (.bracket m opening negated :: frames) inner c
        else do
          let (member, c) ← classRange blank frames c x
          classMembers blank fuel frames (m.push member) c
    | _, _ => unclosed frames

/-- A class in brackets; the cursor is at the opening bracket. -/
def bracketClass (blank : Bool) (c : Cursor) : Except Fault (Regex × Cursor) := do
  let (opening, negated, m, after) ← openBracket blank c
  classMembers blank (after.rest.length + 1) [.bracket (.none c) opening negated] m after

end ProtoSchema.Pattern
