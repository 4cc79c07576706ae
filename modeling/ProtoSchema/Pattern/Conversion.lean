import ProtoSchema.Pattern.Ecma
import ProtoSchema.Pattern.Parse
import ProtoSchema.Pattern.Resolve

/-!
# From patterns to ECMAScript

ECMAScript has no flags inside a pattern, no set operations and no negated members of classes.
Flags are worked out where they apply: a letter in either case becomes a class of both, and a dot
that matches line ends becomes a class of everything.  A class that has no direct spelling is
written as the ranges of its code points.
-/

namespace ProtoSchema.Pattern

open Unicode

/-- Why a pattern has no counterpart: it means nothing, or a part of it has no spelling. -/
inductive ConversionFault
  | refused (fault : Fault)
  | inexpressible (part : String)
deriving DecidableEq, Repr

def ConversionFault.message : ConversionFault → String
  | refused fault => fault.kind.message
  | inexpressible part => part ++ " has no ECMAScript equivalent"

/-- The message with the place in `pattern`, if there is one. -/
def ConversionFault.describe (pattern : String) : ConversionFault → String
  | refused fault => fault.describe pattern
  | f => f.message

/-! ## Case -/

/-- A character with the single characters that its case mappings take it to. -/
def caseForms (ignoreCase : Bool) (c : Char) : List Char :=
  if ignoreCase then
    [toLower c, toUpper c].foldl (fun taken mapped =>
      match mapped with
      | [d] => if taken.contains d then taken else taken ++ [d]
      | _ => taken) [c]
  else [c]

def ecmaLiteral (ignoreCase : Bool) (c : Char) : Ecma :=
  match caseForms ignoreCase c with
  | _ :: _ :: _ => .set false ((caseForms ignoreCase c).map fun d => .single (.char d))
  | _ => .char c

/-! ## Classes -/

def ShorthandClass.toEcma (s : ShorthandClass) : ClassEscape :=
  match s.kind, s.negated with
  | .digit, false => .digit
  | .digit, true => .notDigit
  | .space, false => .space
  | .space, true => .notSpace
  | .word, false => .word
  | .word, true => .notWord

/-- What stands between the braces of a property class. -/
def PropertyName.text : PropertyName → String
  | name n => n
  | value _ n v => n ++ "=" ++ v

def isAsciiLower (c : Char) : Bool := 'a' ≤ c && c ≤ 'z'

def isAsciiUpper (c : Char) : Bool := 'A' ≤ c && c ≤ 'Z'

def charMember (lo hi : Char) : ClassMember :=
  if lo = hi then .single (.char lo) else .range (.char lo) (.char hi)

/-- A range as it is written, and in the other case if it lies within the letters of ASCII. -/
def rangeMembers (ignoreCase : Bool) (lo hi : Char) : List ClassMember :=
  .range (.char lo) (.char hi) ::
    (if ignoreCase && isAsciiLower lo && isAsciiLower hi then
      [.range (.char lo.toUpper) (.char hi.toUpper)]
    else if ignoreCase && isAsciiUpper lo && isAsciiUpper hi then
      [.range (.char lo.toLower) (.char hi.toLower)]
    else [])

mutual

/-- The members of a class that has a direct spelling: no operations and no negated parts. -/
def ClassBody.members? (ignoreCase : Bool) : ClassBody → Option (List ClassMember)
  | .empty _ => some []
  | .literal l => some ((caseForms ignoreCase l.char).map fun c => .single (.char c))
  | .range _ lo hi => some (rangeMembers ignoreCase lo.char hi.char)
  | .ascii _ negated kind =>
    if negated then none else some (kind.ranges.map fun (lo, hi) => charMember lo hi)
  | .property p => some [.property p.excludes p.name.text]
  | .shorthand s => some [.escape s.toEcma]
  | .nested _ negated body => if negated then none else body.members? ignoreCase
  | .union _ members => ClassBody.unionMembers? ignoreCase members
  | .operation .. => none

def ClassBody.unionMembers? (ignoreCase : Bool) : List ClassBody → Option (List ClassMember)
  | [] => some []
  | b :: rest => do return (← b.members? ignoreCase) ++ (← ClassBody.unionMembers? ignoreCase rest)

end

/-- The greatest code unit. -/
def maxUnit : Nat := 0xFFFF

/-- The code units of a set: those of its members in the basic plane, and all surrogates if it has
members beyond. -/
def codeUnits (s : CodeSet) : CodeSet :=
  let basic := (s.ranges.filter (·.lo ≤ maxUnit)).map fun r => ⟨r.lo, min r.hi maxUnit⟩
  .ofRanges (basic ++ if s.ranges.any (maxUnit < ·.hi) then [⟨0xD800, 0xDFFF⟩] else [])

def unitMember (r : CodeRange) : ClassMember :=
  if r.lo < r.hi then .range (.unit r.lo) (.unit r.hi) else .single (.unit r.lo)

/-- The class of a set of code points. -/
def ecmaOfSet (s : CodeSet) : Ecma :=
  match (codeUnits s).ranges with
  | [] => .noChar
  | ranges => .set false (ranges.map unitMember)

/-- A class without a direct spelling; a class of one character is that character. -/
def rangesClass (ignoreCase negated : Bool) (body : ClassBody) : Ecma :=
  let s := finishSet ignoreCase negated (body.codeSet ignoreCase)
  match s.ranges with
  | [⟨lo, hi⟩] => if lo = hi then .char (Char.ofNat lo) else ecmaOfSet s
  | _ => ecmaOfSet s

def ecmaClass (ignoreCase negated : Bool) (body : ClassBody) : Ecma :=
  match body.members? ignoreCase with
  | some members => .set negated members
  | none => rangesClass ignoreCase negated body

/-! ## Patterns -/

def Assertion.toEcma? : Assertion → Option EcmaAssertion
  | startLine | startText => some .start
  | endLine | endText => some .stop
  | boundary => some .boundary
  | notBoundary => some .notBoundary
  | _ => none

def Count.toEcma : Count → Quantifier
  | optional => .optional
  | any => .any
  | some => .some
  | exactly n => .exactly n
  | atLeast n => .atLeast n
  | between n m => .between n m

/-- Whether a repetition has to put its operand into a group. -/
def Regex.needsGroup : Regex → Bool
  | .repetition .. | .concat .. | .alternation .. => true
  | _ => false

def Regex.isAlternation : Regex → Bool
  | .alternation .. => true
  | _ => false

/-- A pattern in a group that captures nothing, if it needs one. -/
def grouped (needed : Bool) (r : Ecma) : Ecma := if needed then .group false r else r

mutual

/-- The counterpart of a pattern under the flags that hold where it starts. -/
def Regex.toEcma (f : Flags) : Regex → Except ConversionFault Ecma
  | .empty _ | .flags .. => .ok .empty
  | .literal l => .ok (ecmaLiteral f.ignoreCase l.char)
  | .dot _ => .ok (if f.dotMatchesNewline then .anyChar else .dot)
  | .assertion _ a =>
    match a.toEcma? with
    | some a => .ok (.assertion a)
    | none => .error (.inexpressible a.text)
  | .property p => .ok (.property p.excludes p.name.text)
  | .shorthand s => .ok (.escape s.toEcma)
  | .bracket _ negated body => .ok (ecmaClass f.ignoreCase negated body)
  | .repetition _ count greedy body => do
    let r ← body.toEcma f
    return .repetition count.toEcma (greedy == (body.flagsAfter f).swapGreed)
      (grouped body.needsGroup r)
  | .group _ kind body => do
    return .group (kind matches .capturing) (← body.toEcma (kind.inside f))
  | .alternation _ branches => do return .alternation (← Regex.branchesToEcma f branches)
  | .concat _ parts => do return .concat (← Regex.partsToEcma f parts)

def Regex.branchesToEcma (f : Flags) : List Regex → Except ConversionFault (List Ecma)
  | [] => .ok []
  | r :: rest => do
    return (← r.toEcma f) :: (← Regex.branchesToEcma (r.flagsAfter f) rest)

def Regex.partsToEcma (f : Flags) : List Regex → Except ConversionFault (List Ecma)
  | [] => .ok []
  | r :: rest => do
    return grouped r.isAlternation (← r.toEcma f) :: (← Regex.partsToEcma (r.flagsAfter f) rest)

end

/-- The ECMAScript pattern that stands for a pattern. -/
def convert (pattern : String) : Except ConversionFault Ecma := do
  let r ← (parse pattern).mapError .refused
  (r.check {}).mapError .refused
  r.toEcma {}

def convertText (pattern : String) : Except ConversionFault String :=
  (convert pattern).map Ecma.text

end ProtoSchema.Pattern
