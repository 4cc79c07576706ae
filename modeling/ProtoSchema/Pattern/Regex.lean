/-!
# Patterns

The tree of a pattern as it is written.  Each node keeps its place, for messages.  A class in
brackets is a tree of its own: members side by side, and the set operations.
-/

namespace ProtoSchema.Pattern

/-- A place in a pattern: an offset in bytes, and a line and a column that are counted from one in
characters. -/
structure Position where
  offset : Nat
  line : Nat
  column : Nat
deriving DecidableEq, Repr, Inhabited

namespace Position

def start : Position := ⟨0, 1, 1⟩

/-- The place after a character. -/
def after (p : Position) (c : Char) : Position :=
  if c = '\n' then ⟨p.offset + c.utf8Size, p.line + 1, 1⟩
  else ⟨p.offset + c.utf8Size, p.line, p.column + 1⟩

end Position

structure Span where
  start : Position
  stop : Position
deriving DecidableEq, Repr, Inhabited

/-- The empty span at a place. -/
def Span.at (p : Position) : Span := ⟨p, p⟩

/-! ## Parts of patterns -/

/-- The switches that a pattern can set inside itself. -/
inductive Flag
  | ignoreCase
  | multiLine
  | dotMatchesNewline
  | swapGreed
  | unicode
  | crlf
  | ignoreBlank
deriving DecidableEq, Repr, Inhabited

/-- An item of a list of flags: a flag, or the minus sign that turns the following ones off. -/
inductive FlagItem
  | flag (f : Flag)
  | minus
deriving DecidableEq, Repr, Inhabited

/-- The setting of a flag that a list of items gives; the last mention wins. -/
def flagSetting (f : Flag) (items : List FlagItem) : Option Bool :=
  let rec go (on : Bool) (found : Option Bool) : List FlagItem → Option Bool
    | [] => found
    | .minus :: rest => go false found rest
    | .flag g :: rest => go on (if g = f then some on else found) rest
  go true none items

/-- How a single character is written.  A byte is written with two hexadecimal digits. -/
inductive Spelling
  | plain
  | byte
deriving DecidableEq, Repr, Inhabited

structure Literal where
  span : Span
  spelling : Spelling
  char : Char
deriving DecidableEq, Repr, Inhabited

inductive Assertion
  | startLine
  | endLine
  | startText
  | endText
  | boundary
  | notBoundary
  | wordStart
  | wordEnd
  | wordStartAngle
  | wordEndAngle
  | wordStartHalf
  | wordEndHalf
deriving DecidableEq, Repr, Inhabited

/-- The spelling of an assertion. -/
def Assertion.text : Assertion → String
  | startLine => "^"
  | endLine => "$"
  | startText => "\\A"
  | endText => "\\z"
  | boundary => "\\b"
  | notBoundary => "\\B"
  | wordStart => "\\b\x7bstart\x7d"
  | wordEnd => "\\b\x7bend\x7d"
  | wordStartAngle => "\\<"
  | wordEndAngle => "\\>"
  | wordStartHalf => "\\b\x7bstart-half\x7d"
  | wordEndHalf => "\\b\x7bend-half\x7d"

/-- The classes with a letter of their own. -/
inductive Shorthand
  | digit
  | space
  | word
deriving DecidableEq, Repr, Inhabited

structure ShorthandClass where
  span : Span
  kind : Shorthand
  negated : Bool
deriving DecidableEq, Repr, Inhabited

/-- What a class names: a property, or a property and its value, for a value that is taken or one
that is left out. -/
inductive PropertyName
  | name (name : String)
  | value (unequal : Bool) (name value : String)
deriving DecidableEq, Repr, Inhabited

structure PropertyClass where
  span : Span
  negated : Bool
  name : PropertyName
deriving DecidableEq, Repr, Inhabited

/-- Whether a property class leaves out what it names: it is negated or an inequality, not both.
The text of the class and the set that it denotes both go by this. -/
def PropertyClass.excludes (p : PropertyClass) : Bool :=
  match p.name with
  | .value true .. => !p.negated
  | _ => p.negated

/-- The classes with a name in ASCII. -/
inductive AsciiClass
  | alnum
  | alpha
  | ascii
  | blank
  | cntrl
  | digit
  | graph
  | lower
  | print
  | punct
  | space
  | upper
  | word
  | xdigit
deriving DecidableEq, Repr, Inhabited

namespace AsciiClass

def names : List (String × AsciiClass) :=
  [("alnum", alnum), ("alpha", alpha), ("ascii", ascii), ("blank", blank), ("cntrl", cntrl),
    ("digit", digit), ("graph", graph), ("lower", lower), ("print", print), ("punct", punct),
    ("space", space), ("upper", upper), ("word", word), ("xdigit", xdigit)]

/-- The characters of a class: ranges, in the order in which a pattern writes them. -/
def ranges : AsciiClass → List (Char × Char)
  | alnum => [('0', '9'), ('A', 'Z'), ('a', 'z')]
  | alpha => [('A', 'Z'), ('a', 'z')]
  | ascii => [('\x00', '\x7f')]
  | blank => [('\t', '\t'), (' ', ' ')]
  | cntrl => [('\x00', '\x1f'), ('\x7f', '\x7f')]
  | digit => [('0', '9')]
  | graph => [('!', '~')]
  | lower => [('a', 'z')]
  | print => [(' ', '~')]
  | punct => [('!', '/'), (':', '@'), ('[', '`'), ('{', '~')]
  | space => [('\t', '\t'), ('\n', '\n'), ('\x0b', '\x0b'), ('\x0c', '\x0c'), ('\r', '\r'),
      (' ', ' ')]
  | upper => [('A', 'Z')]
  | word => [('0', '9'), ('A', 'Z'), ('a', 'z'), ('_', '_')]
  | xdigit => [('0', '9'), ('A', 'F'), ('a', 'f')]

end AsciiClass

inductive SetOperation
  | intersection
  | difference
  | symmetricDifference
deriving DecidableEq, Repr, Inhabited

/-- The inside of a class in brackets. -/
inductive ClassBody
  | empty (span : Span)
  | literal (l : Literal)
  | range (span : Span) (lo hi : Literal)
  | ascii (span : Span) (negated : Bool) (kind : AsciiClass)
  | property (p : PropertyClass)
  | shorthand (s : ShorthandClass)
  | nested (span : Span) (negated : Bool) (body : ClassBody)
  | union (span : Span) (members : List ClassBody)
  | operation (span : Span) (op : SetOperation) (left right : ClassBody)
deriving Repr, Inhabited

def ClassBody.span : ClassBody → Span
  | empty span => span
  | literal l => l.span
  | range span _ _ => span
  | ascii span _ _ => span
  | property p => p.span
  | shorthand s => s.span
  | nested span _ _ => span
  | union span _ => span
  | operation span _ _ _ => span

/-- How often a part is repeated. -/
inductive Count
  | optional
  | any
  | some
  | exactly (n : Nat)
  | atLeast (n : Nat)
  | between (n m : Nat)
deriving DecidableEq, Repr, Inhabited

/-- What a pair of parentheses does apart from grouping. -/
inductive GroupKind
  | capturing
  | flags (items : List FlagItem)
deriving DecidableEq, Repr, Inhabited

inductive Regex
  | empty (span : Span)
  | flags (span : Span) (items : List FlagItem)
  | literal (l : Literal)
  | dot (span : Span)
  | assertion (span : Span) (a : Assertion)
  | property (p : PropertyClass)
  | shorthand (s : ShorthandClass)
  | bracket (span : Span) (negated : Bool) (body : ClassBody)
  | repetition (span : Span) (count : Count) (greedy : Bool) (body : Regex)
  | group (span : Span) (kind : GroupKind) (body : Regex)
  | alternation (span : Span) (branches : List Regex)
  | concat (span : Span) (parts : List Regex)
deriving Repr, Inhabited

def Regex.span : Regex → Span
  | empty span => span
  | flags span _ => span
  | literal l => l.span
  | dot span => span
  | assertion span _ => span
  | property p => p.span
  | shorthand s => s.span
  | bracket span _ _ => span
  | repetition span _ _ _ => span
  | group span _ _ => span
  | alternation span _ => span
  | concat span _ => span

end ProtoSchema.Pattern
