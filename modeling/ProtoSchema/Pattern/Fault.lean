import ProtoSchema.Pattern.Regex

/-!
# Faults of patterns

A pattern is refused for a fault of its grammar or for one of its meaning.  A message shows the
pattern with the place of the fault marked under it.
-/

namespace ProtoSchema.Pattern

inductive FaultKind
  | classEscapeInvalid
  | classRangeInvalid
  | classRangeLiteral
  | classUnclosed
  | decimalInvalid
  | escapeHexEmpty
  | escapeHexInvalid
  | escapeHexInvalidDigit
  | escapeUnexpectedEnd
  | escapeUnrecognized
  | flagDanglingNegation
  | flagDuplicate
  | flagRepeatedNegation
  | flagUnexpectedEnd
  | flagUnrecognized
  | groupNameDuplicate
  | groupNameEmpty
  | groupNameInvalid
  | groupNameUnexpectedEnd
  | groupUnclosed
  | groupUnopened
  | nestedTooDeep
  | repetitionCountInvalid
  | repetitionCountEmpty
  | repetitionCountUnclosed
  | repetitionMissing
  | wordBoundaryUnclosed
  | wordBoundaryUnrecognized
  | wordBoundaryUnexpectedEnd
  | propertyInvalid
  | backreference
  | lookAround
  | unicodeNotAllowed
  | invalidUtf8
  | unknownProperty
  | unknownPropertyValue
deriving DecidableEq, Repr, Inhabited

/-- The depth to which parts of a pattern nest. -/
def maxDepth : Nat := 250

def FaultKind.message : FaultKind → String
  | classEscapeInvalid => "invalid escape sequence found in character class"
  | classRangeInvalid => "invalid character class range, the start must be <= the end"
  | classRangeLiteral => "invalid range boundary, must be a literal"
  | classUnclosed => "unclosed character class"
  | decimalInvalid => "decimal literal invalid"
  | escapeHexEmpty => "hexadecimal literal empty"
  | escapeHexInvalid => "hexadecimal literal is not a Unicode scalar value"
  | escapeHexInvalidDigit => "invalid hexadecimal digit"
  | escapeUnexpectedEnd => "incomplete escape sequence, reached end of pattern prematurely"
  | escapeUnrecognized => "unrecognized escape sequence"
  | flagDanglingNegation => "dangling flag negation operator"
  | flagDuplicate => "duplicate flag"
  | flagRepeatedNegation => "flag negation operator repeated"
  | flagUnexpectedEnd => "expected flag but got end of regex"
  | flagUnrecognized => "unrecognized flag"
  | groupNameDuplicate => "duplicate capture group name"
  | groupNameEmpty => "empty capture group name"
  | groupNameInvalid => "invalid capture group character"
  | groupNameUnexpectedEnd => "unclosed capture group name"
  | groupUnclosed => "unclosed group"
  | groupUnopened => "unopened group"
  | nestedTooDeep =>
    "exceed the maximum number of nested parentheses/brackets (" ++ toString maxDepth ++ ")"
  | repetitionCountInvalid =>
    "invalid repetition count range, the start must be <= the end"
  | repetitionCountEmpty => "repetition quantifier expects a valid decimal"
  | repetitionCountUnclosed => "unclosed counted repetition"
  | repetitionMissing => "repetition operator missing expression"
  | wordBoundaryUnclosed =>
    "special word boundary assertion is either unclosed or contains an invalid character"
  | wordBoundaryUnrecognized =>
    "unrecognized special word boundary assertion, valid choices are: start, end, start-half " ++
      "or end-half"
  | wordBoundaryUnexpectedEnd =>
    "found either the beginning of a special word boundary or a bounded repetition on a \\b " ++
      "with an opening brace, but no closing brace"
  | propertyInvalid => "invalid Unicode character class"
  | backreference => "backreferences are not supported"
  | lookAround => "look-around, including look-ahead and look-behind, is not supported"
  | unicodeNotAllowed => "Unicode not allowed here"
  | invalidUtf8 => "pattern can match invalid UTF-8"
  | unknownProperty => "Unicode property not found"
  | unknownPropertyValue => "Unicode property value not found"

/-- A fault with its place, and the place that it clashes with, if it clashes with another. -/
structure Fault where
  kind : FaultKind
  span : Span
  other : Option Span
deriving DecidableEq, Repr, Inhabited

/-! ## Messages -/

/-- The lines among the pieces between line ends: all but the last piece without a carriage return
at their end, and the last piece unless it is empty. -/
def linesOfPieces : List (List Char) → List (List Char)
  | [] => []
  | [last] => if last.isEmpty then [] else [last]
  | piece :: rest =>
    (if piece.getLast? = some '\r' then piece.dropLast else piece) :: linesOfPieces rest

def patternLines (pattern : String) : List String :=
  (linesOfPieces (pattern.toList.splitOn '\n')).map String.ofList

def spaces (n : Nat) : String := String.ofList (List.replicate n ' ')

/-- The marks under a line: carets below each span, at least one for each. -/
def marks (margin : Nat) (spans : List Span) : String :=
  let step := fun (line : String × Nat) (s : Span) =>
    let gap := s.start.column - 1 - line.2
    let width := max 1 (s.stop.column - s.start.column)
    (line.1 ++ spaces gap ++ String.ofList (List.replicate width '^'), line.2 + gap + width)
  (spans.foldl step (spaces margin, 0)).1

/-- The order in which spans are marked. -/
def spanBefore (a b : Span) : Bool :=
  a.start.offset < b.start.offset ||
    (a.start.offset == b.start.offset && a.stop.offset ≤ b.stop.offset)

/-- The full message of a fault in `pattern`.  Lines are numbered if there are several; a span over
several lines is told in words. -/
def Fault.describe (pattern : String) (fault : Fault) : String :=
  let several := pattern.toList.contains '\n'
  let lines := patternLines pattern
  let count := lines.length + (if pattern.toList.getLast? = some '\n' then 1 else 0)
  let width := if count ≤ 1 then 0 else (toString count).length
  let margin := if width = 0 then 4 else 2 + width
  let spans := (fault.span :: fault.other.toList).mergeSort spanBefore
  let inLine := spans.filter fun s => s.start.line = s.stop.line
  let across := spans.filter fun s => s.start.line ≠ s.stop.line
  let numbered := (lines.zipIdx 1).map fun (line, n) =>
    let number := toString n
    let label := if width = 0 then spaces 4 else spaces (width - number.length) ++ number ++ ": "
    let marked := inLine.filter (·.start.line = n)
    label ++ line ++ "\n" ++ (if marked.isEmpty then "" else marks margin marked ++ "\n")
  let divider := String.ofList (List.replicate 79 '~') ++ "\n"
  let notes := across.map fun s =>
    "on line " ++ toString s.start.line ++ " (column " ++ toString s.start.column ++
      ") through line " ++ toString s.stop.line ++ " (column " ++ toString (s.stop.column - 1) ++
      ")\n"
  let body := String.join numbered
  "regex parse error:\n" ++
    (if several then divider ++ body ++ divider ++ String.join notes else body) ++
    "error: " ++ fault.kind.message

end ProtoSchema.Pattern
