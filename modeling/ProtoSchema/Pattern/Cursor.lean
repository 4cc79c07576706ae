import ProtoSchema.Pattern.Fault
import ProtoSchema.Unicode.Property

/-!
# Reading along a pattern

A cursor is a place in a pattern and the characters from there on.  Where blanks are ignored, white
space and comments between parts of a pattern are passed over.
-/

namespace ProtoSchema.Pattern

structure Cursor where
  pos : Position
  rest : List Char
deriving Repr, Inhabited

def isBlank (c : Char) : Bool := Unicode.space.contains c.toNat

/-- Passes over white space and over comments, which go from `#` to the end of the line. -/
def passBlanks (inComment : Bool) (pos : Position) : List Char → Cursor
  | [] => ⟨pos, []⟩
  | c :: cs =>
    if inComment then passBlanks (c != '\n') (pos.after c) cs
    else if isBlank c then passBlanks false (pos.after c) cs
    else if c = '#' then passBlanks true (pos.after c) cs
    else ⟨pos, c :: cs⟩

namespace Cursor

def ofPattern (pattern : String) : Cursor := ⟨.start, pattern.toList⟩

def peek (c : Cursor) : Option Char := c.rest.head?

def atEnd (c : Cursor) : Bool := c.rest.isEmpty

/-- Passes over one character. -/
def bump (c : Cursor) : Cursor :=
  match c.rest with
  | [] => c
  | x :: rest => ⟨c.pos.after x, rest⟩

def skipBlanks (ignoreBlank : Bool) (c : Cursor) : Cursor :=
  if ignoreBlank then passBlanks false c.pos c.rest else c

/-- Passes over one character and the blanks after it. -/
def next (ignoreBlank : Bool) (c : Cursor) : Cursor := c.bump.skipBlanks ignoreBlank

/-- Passes over the characters of `text` if they come next. -/
def accept? (text : String) (c : Cursor) : Option Cursor :=
  go text.toList c
where
  go : List Char → Cursor → Option Cursor
    | [], c => some c
    | t :: ts, c => if c.peek = some t then go ts c.bump else none

/-- The span of the next character; at the end it is empty. -/
def here (c : Cursor) : Span := ⟨c.pos, c.bump.pos⟩

/-- The empty span at the cursor. -/
def point (c : Cursor) : Span := .at c.pos

def fail (kind : FaultKind) (span : Span) : Except Fault α := .error ⟨kind, span, none⟩

/-- Fails at the next character. -/
def refuse (c : Cursor) (kind : FaultKind) : Except Fault α := fail kind c.here

/-- Fails from an earlier place up to the cursor. -/
def refuseFrom (c : Cursor) (start : Position) (kind : FaultKind) : Except Fault α :=
  fail kind ⟨start, c.pos⟩

/-- The character after the next one.  Where blanks are ignored this is the first character that is
no blank, or the one after the sign of a comment; if all are blank it is the first blank. -/
def peekSecond (ignoreBlank : Bool) (c : Cursor) : Option Char :=
  let rest := c.rest.drop 1
  if ignoreBlank then
    match rest.dropWhile isBlank with
    | '#' :: comment => (comment.dropWhile isBlank).head?.or rest.head?
    | x :: _ => some x
    | [] => rest.head?
  else rest.head?

end Cursor

end ProtoSchema.Pattern
