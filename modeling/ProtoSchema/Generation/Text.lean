import ProtoSchema.Generation.Draft

/-!
# Schemas of strings and bytes

Strings with all their rules at once.  A rule that a keyword expresses goes onto one schema; the
others become operands of a conjunction beside it.  Bytes are strings in an alphabet.
-/

namespace ProtoSchema.Generation

open Pattern (Ecma)

/-- The pattern that matches one text. -/
def patternOf (s : List Char) : Ecma := .concat (s.map .char)

/-- Strings that start with one text and end with another.  A short string can do so by an overlap
of the two, and every overlap is a branch of its own. -/
def edgesPattern (first last : List Char) : Ecma :=
  let general := Ecma.concat [patternOf first, .repetition .any false .anyChar, patternOf last]
  let overlaps := (List.range last.length).filterMap fun k =>
    if (last.take (k + 1)).isSuffixOf first then some (patternOf (first ++ last.drop (k + 1)))
    else none
  let body := if overlaps.isEmpty then general
    else .group false (.alternation (general :: overlaps))
  .concat [.assertion .start, body, .assertion .stop]

/-- The pattern for the texts at the start and at the end, if one is given. -/
def edges? (first last : Option String) : Option Ecma :=
  match first, last with
  | some a, some b => some (edgesPattern a.toList b.toList)
  | some a, none => some (.concat [.assertion .start, patternOf a.toList])
  | none, some b => some (.concat [patternOf b.toList, .assertion .stop])
  | none, none => none

/-- The counterpart of a pattern that a rule gives. -/
def rulePattern (pattern : Option String) : Draft (List Ecma) :=
  match pattern with
  | none => return []
  | some p => do return [← .ofExcept (Pattern.convert p) (.pattern p)]

/-- The format of a string shape, if it is one format. -/
def formatOf? : StringShape → Option StringFormat
  | .email => some .email
  | .hostname => some .hostname
  | .ipv4 => some .ipv4
  | .ipv6 => some .ipv6
  | .uri => some .uri
  | .uriRef => some .uriReference
  | .address | .ip => none

/-- The formats of a string shape that has several. -/
def formatsOf : StringShape → List StringFormat
  | .address => [.hostname, .ipv4, .ipv6]
  | .ip => [.ipv4, .ipv6]
  | _ => []

/-- The schemas that exclude strings, and the one for a shape with several formats. -/
def stringOperands (r : StringRules) : List Schema :=
  (match r.excludes with
    | some s => [.not (.ofPattern (patternOf s.toList).text)]
    | none => []) ++
  (if r.deny.isEmpty then [] else [.not (.ofNames r.deny)]) ++
  (match r.wellKnown.map formatsOf with
    | none | some [] => []
    | some formats => [.disjunction (formats.map .ofFormat)])

/-- The patterns that a string has to match, given the counterpart of the one that a rule gives. -/
def stringPatterns (r : StringRules) (given : List Ecma) : List Ecma :=
  (r.contains.map fun s => patternOf s.toList).toList ++ given ++
    (edges? r.startsWith r.endsWith).toList

/-- The rules that keywords express.  A single pattern is a keyword too. -/
def stringKeywords (r : StringRules) (patterns : List Ecma) : StringKeywords where
  equals := r.equals
  enumeration := r.allow
  pattern := match patterns with
    | [p] => some p.text
    | _ => none
  format := r.wellKnown.bind formatOf?
  minLength := r.minLength <|> r.length
  maxLength := r.maxLength <|> r.length

/-- Several patterns are operands of their own. -/
def patternOperands (patterns : List Ecma) : List Schema :=
  match patterns with
  | [_] => []
  | several => several.map fun p => .ofPattern p.text

/-- Strings under all rules. -/
def stringSchema (r : StringRules) : Draft Schema := do
  let patterns := stringPatterns r (← rulePattern r.pattern)
  return .conjunction
    (.string (stringKeywords r patterns) :: (stringOperands r ++ patternOperands patterns))

/-! ## Bytes -/

/-- The standard alphabet, with line breaks and with or without padding. -/
def standardBase64 : String := "^[\\r\\nA-Za-z0-9+/]*(?:=[\\r\\n]*)\x7b0,2\x7d$"

/-- The alphabet for addresses, with line breaks and with or without padding. -/
def urlSafeBase64 : String := "^[\\r\\nA-Za-z0-9_-]*(?:=[\\r\\n]*)\x7b0,2\x7d$"

/-- Bytes in either alphabet. -/
def bytesSchema : Schema :=
  .disjunction
    [.string { title := some "Standard base64 encoding", pattern := some standardBase64 },
      .string { title := some "URL-safe base64 encoding", pattern := some urlSafeBase64 }]

end ProtoSchema.Generation
