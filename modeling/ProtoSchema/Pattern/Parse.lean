import ProtoSchema.Pattern.Bracket

/-!
# Reading patterns

A pattern is read from left to right with the groups and alternations that are open around the
current place.  A repetition takes the part just before it.
-/

namespace ProtoSchema.Pattern

open Cursor

/-- Parts one after the other, the last one first, and where they start. -/
structure Sequence where
  start : Position
  taken : List Regex
deriving Repr, Inhabited

def Sequence.push (s : Sequence) (r : Regex) : Sequence := { s with taken := r :: s.taken }

/-- The parts as one pattern, which ends at `stop`. -/
def Sequence.finish (s : Sequence) (stop : Position) : Regex :=
  match s.taken with
  | [] => .empty ⟨s.start, stop⟩
  | [r] => r
  | several => .concat ⟨s.start, stop⟩ several.reverse

/-- What is open around the parts that are being read: a group with the parts before it and what
became of blanks there, or the branches before the current one, the last first. -/
inductive Frame
  | group (before : Sequence) (opening : Span) (kind : GroupKind) (blank : Bool)
  | alternation (start : Position) (branches : List Regex)
deriving Repr, Inhabited

structure State where
  frames : List Frame
  parts : Sequence
  blank : Bool
  names : List (String × Span)
  cursor : Cursor
deriving Repr, Inhabited

/-! ## Flags -/

def flagOfLetter? (letter : Char) : Option Flag :=
  match letter with
  | 'i' => some .ignoreCase
  | 'm' => some .multiLine
  | 's' => some .dotMatchesNewline
  | 'U' => some .swapGreed
  | 'u' => some .unicode
  | 'R' => some .crlf
  | 'x' => some .ignoreBlank
  | _ => none

/-- Fails if an item is there already. -/
def addFlagItem (taken : List (FlagItem × Span)) (item : FlagItem) (kind : FaultKind) (c : Cursor) :
    Except Fault (List (FlagItem × Span)) :=
  match taken.lookup item with
  | some span => .error ⟨kind, c.here, some span⟩
  | none => .ok ((item, c.here) :: taken)

/-- Reads flags up to a colon or a closing parenthesis; the items are taken last first. -/
def flagItems : (fuel : Nat) → (taken : List (FlagItem × Span)) → Cursor →
    Except Fault (List FlagItem × Cursor)
  | fuel, taken, c =>
    match fuel, c.peek with
    | fuel + 1, some x =>
      if x = ':' ∨ x = ')' then
        match taken with
        | (.minus, span) :: _ => fail .flagDanglingNegation span
        | _ => .ok (taken.reverse.map (·.1), c)
      else if x = '-' then do
        flagItems fuel (← addFlagItem taken .minus .flagRepeatedNegation c) c.bump
      else
        match flagOfLetter? x with
        | none => c.refuse .flagUnrecognized
        | some f => do flagItems fuel (← addFlagItem taken (.flag f) .flagDuplicate c) c.bump
    | _, _ => fail .flagUnexpectedEnd c.point

/-! ## Groups -/

def isNameChar (first : Bool) (c : Char) : Bool :=
  if first then c == '_' || Unicode.alphabetic.contains c.toNat
  else c == '_' || c == '.' || c == '[' || c == ']' || Unicode.alphanumeric.contains c.toNat

/-- The characters of a group's name up to the closing angle. -/
def nameChars (first : Bool) :
    (fuel : Nat) → (taken : List Char) → Cursor → Except Fault (List Char × Cursor)
  | fuel, taken, c =>
    match fuel, c.peek with
    | fuel + 1, some x =>
      if x = '>' then .ok (taken.reverse, c)
      else if isNameChar first x then nameChars false fuel (x :: taken) c.bump
      else c.refuse .groupNameInvalid
    | _, _ => fail .groupNameUnexpectedEnd c.point

/-- The name of a group, which must be new among `names`. -/
def groupName (names : List (String × Span)) (c : Cursor) :
    Except Fault (String × Span × Cursor) := do
  let (chars, last) ← nameChars true (c.rest.length + 1) [] c
  let name := String.ofList chars
  let span : Span := ⟨c.pos, last.pos⟩
  if chars.isEmpty then fail .groupNameEmpty c.point
  match names.lookup name with
  | some other => throw ⟨.groupNameDuplicate, span, some other⟩
  | none => return (name, span, last.bump)

/-- Passes over the sign of a look-around, if there is one. -/
def lookAround? (c : Cursor) : Option Cursor :=
  ["?=", "?!", "?<=", "?<!"].findSome? c.accept?

/-- Opens a group. -/
def State.push (s : State) (opening : Span) (kind : GroupKind) (blank : Bool) (c : Cursor) :
    State :=
  { s with
    frames := .group s.parts opening kind s.blank :: s.frames
    parts := ⟨c.pos, []⟩, blank, cursor := c }

/-- An opening parenthesis: a group, or flags for what follows. -/
def openGroup (s : State) : Except Fault State := do
  let opening := s.cursor.here
  let c := s.cursor.next s.blank
  if let some after := lookAround? c then after.refuseFrom opening.start .lookAround
  if let some c := (c.accept? "?P<").or (c.accept? "?<") then
    let (name, span, after) ← groupName s.names c
    return { s with names := (name, span) :: s.names }.push opening .capturing s.blank after
  match c.accept? "?" with
  | none => return s.push opening .capturing s.blank c
  | some first =>
    if first.atEnd then fail .groupUnclosed opening
    let (items, last) ← flagItems (first.rest.length + 1) [] first
    let after := last.bump
    let blank := (flagSetting .ignoreBlank items).getD s.blank
    if last.peek = some ':' then return s.push opening (.flags items) blank after
    if items.isEmpty then fail .repetitionMissing c.point
    return { s with
      parts := s.parts.push (.flags ⟨opening.start, after.pos⟩ items), blank, cursor := after }

/-- A closing parenthesis. -/
def closeGroup (s : State) : Except Fault State :=
  let c := s.cursor
  let body := s.parts.finish c.pos
  let after := c.bump
  let close := fun (before : Sequence) (opening : Span) kind blank frames body =>
    { s with
      frames, blank, cursor := after
      parts := before.push (.group ⟨opening.start, after.pos⟩ kind body) }
  match s.frames with
  | .group before opening kind blank :: frames =>
    .ok (close before opening kind blank frames body)
  | .alternation start branches :: .group before opening kind blank :: frames =>
    .ok (close before opening kind blank frames
      (.alternation ⟨start, c.pos⟩ (body :: branches).reverse))
  | _ => c.refuse .groupUnopened

/-- A bar between branches. -/
def nextBranch (s : State) : State :=
  let body := s.parts.finish s.cursor.pos
  let after := s.cursor.bump
  { s with
    frames := match s.frames with
      | .alternation start branches :: frames => .alternation start (body :: branches) :: frames
      | frames => .alternation s.parts.start [body] :: frames
    parts := ⟨after.pos, []⟩, cursor := after }

/-- The whole pattern, once its end is reached. -/
def finish (s : State) : Except Fault Regex :=
  let stop := s.cursor.pos
  let body := s.parts.finish stop
  match s.frames with
  | [] => .ok body
  | [.alternation start branches] => .ok (.alternation ⟨start, stop⟩ (body :: branches).reverse)
  | .group _ opening _ _ :: _ | .alternation .. :: .group _ opening _ _ :: _ =>
    fail .groupUnclosed opening
  | .alternation .. :: .alternation .. :: _ => fail .groupUnclosed s.cursor.point

/-! ## Repetitions -/

/-- The part that a repetition applies to, and the parts before it. -/
def operand (s : State) : Except Fault (Regex × Sequence) :=
  match s.parts.taken with
  | [] | .empty _ :: _ | .flags .. :: _ => fail .repetitionMissing s.cursor.point
  | r :: rest => .ok (r, { s.parts with taken := rest })

/-- Puts a repetition in the place of its operand; a question mark at the cursor belongs to it. -/
def repeated (s : State) (body : Regex) (before : Sequence) (count : Count) (c : Cursor) : State :=
  let lazy := c.peek = some '?'
  let after := if lazy then c.bump else c
  { s with
    parts := before.push (.repetition ⟨body.span.start, after.pos⟩ count (!lazy) body)
    cursor := after }

/-- The digits of a number, with the blanks between and after them. -/
def decimalDigits (blank : Bool) : (fuel : Nat) → (taken : List Char) → Cursor → List Char × Cursor
  | fuel, taken, c =>
    match fuel, c.peek with
    | fuel + 1, some x =>
      if Text.isDigit x then decimalDigits blank fuel (x :: taken) (c.next blank)
      else (taken.reverse, c)
    | _, _ => (taken.reverse, c)

/-- Passes over white space, whether or not blanks are ignored. -/
def skipSpace (blank : Bool) : (fuel : Nat) → Cursor → Cursor
  | fuel, c =>
    match fuel, c.peek with
    | fuel + 1, some x => if isBlank x then skipSpace blank fuel (c.next blank) else c
    | _, _ => c

/-- A number of 32 bits with white space around it; the cursor after it is known even if the number
is not fit. -/
def decimal (blank : Bool) (c : Cursor) : Except Fault Nat × Cursor :=
  let c := skipSpace false c.rest.length c
  let (digits, last) := decimalDigits blank c.rest.length [] c
  let after := skipSpace blank last.rest.length last
  let span : Span := ⟨c.pos, last.pos⟩
  let value := Text.decimalValue digits
  if digits.isEmpty then (fail .repetitionCountEmpty span, after)
  else if value < UInt32.size then (.ok value, after)
  else (fail .decimalInvalid span, after)

/-- The count between braces and the cursor at what should be the closing brace; `c` is after the
opening one. -/
def braceCount (blank : Bool) (start : Position) (c : Cursor) :
    Except Fault (Count × Cursor) := do
  let (least, c) := decimal blank c
  if c.atEnd then c.refuseFrom start .repetitionCountUnclosed
  if c.peek ≠ some ',' then return (.exactly (← least), c)
  let c := c.next blank
  if c.atEnd then c.refuseFrom start .repetitionCountUnclosed
  if c.peek = some '}' then return (.atLeast (← least), c)
  let least ← least
  let (most, c) := decimal blank c
  return (.between least (← most), c)

def Count.isValid : Count → Bool
  | .between n m => n ≤ m
  | _ => true

/-- A repetition with a count in braces. -/
def countedRepetition (s : State) : Except Fault State := do
  let (body, before) ← operand s
  let start := s.cursor.pos
  let c := s.cursor.next s.blank
  if c.atEnd then c.refuseFrom start .repetitionCountUnclosed
  let (count, c) ← braceCount s.blank start c
  if c.peek ≠ some '}' then c.refuseFrom start .repetitionCountUnclosed
  let after := repeated s body before count (c.next s.blank)
  if !count.isValid then after.cursor.refuseFrom start .repetitionCountInvalid
  return after

/-- A repetition that is one sign. -/
def simpleRepetition (s : State) (count : Count) : Except Fault State := do
  let (body, before) ← operand s
  return repeated s body before count s.cursor.bump

/-! ## The whole pattern -/

/-- A part that holds no other parts. -/
def primitive (blank : Bool) (c : Cursor) (x : Char) : Except Fault (Primitive × Cursor) :=
  match x with
  | '\\' => escape blank c
  | '.' => .ok (.dot c.here, c.bump)
  | '^' => .ok (.assertion c.here .startLine, c.bump)
  | '$' => .ok (.assertion c.here .endLine, c.bump)
  | x => .ok (.literal (plainLiteral c x), c.bump)

/-- Reads what starts with the character `x` at the cursor. -/
def step (s : State) (x : Char) : Except Fault State :=
  match x with
  | '(' => openGroup s
  | ')' => closeGroup s
  | '|' => .ok (nextBranch s)
  | '[' => do
    let (r, c) ← bracketClass s.blank s.cursor
    return { s with parts := s.parts.push r, cursor := c }
  | '?' => simpleRepetition s .optional
  | '*' => simpleRepetition s .any
  | '+' => simpleRepetition s .some
  | '{' => countedRepetition s
  | x => do
    let (p, c) ← primitive s.blank s.cursor x
    return { s with parts := s.parts.push p.toRegex, cursor := c }

/-- Reads to the end.  Each round takes at least one character, so `fuel` is the number of
characters at most. -/
def parseFrom : (fuel : Nat) → State → Except Fault Regex
  | fuel, s =>
    let s := { s with cursor := s.cursor.skipBlanks s.blank }
    match fuel, s.cursor.peek with
    | fuel + 1, some x => do parseFrom fuel (← step s x)
    | _, _ => finish s

/-! ## Depth -/

def descend (depth : Nat) (span : Span) : Except Fault Unit :=
  if maxDepth < depth + 1 then fail .nestedTooDeep span else .ok ()

mutual

/-- Checks the depth of a class inside `depth` others. -/
def ClassBody.checkDepth (depth : Nat) : ClassBody → Except Fault Unit
  | .nested span _ body => do
    descend depth span
    checkDepth (depth + 1) body
  | .union span members => do
    descend depth span
    ClassBody.checkDepths (depth + 1) members
  | .operation span _ left right => do
    descend depth span
    checkDepth (depth + 1) left
    checkDepth (depth + 1) right
  | _ => .ok ()

def ClassBody.checkDepths (depth : Nat) : List ClassBody → Except Fault Unit
  | [] => .ok ()
  | b :: rest => do
    ClassBody.checkDepth depth b
    ClassBody.checkDepths depth rest

end

mutual

/-- Checks the depth of a pattern inside `depth` others. -/
def Regex.checkDepth (depth : Nat) : Regex → Except Fault Unit
  | .bracket span _ body => do
    descend depth span
    body.checkDepth (depth + 1)
  | .repetition span _ _ body | .group span _ body => do
    descend depth span
    checkDepth (depth + 1) body
  | .alternation span parts | .concat span parts => do
    descend depth span
    Regex.checkDepths (depth + 1) parts
  | _ => .ok ()

def Regex.checkDepths (depth : Nat) : List Regex → Except Fault Unit
  | [] => .ok ()
  | r :: rest => do
    Regex.checkDepth depth r
    Regex.checkDepths depth rest

end

/-- The tree of a pattern. -/
def parse (pattern : String) : Except Fault Regex := do
  let cursor := Cursor.ofPattern pattern
  let r ← parseFrom cursor.rest.length ⟨[], ⟨cursor.pos, []⟩, false, [], cursor⟩
  r.checkDepth 0
  return r

end ProtoSchema.Pattern
