import ProtoSchema.Pattern.Check
import ProtoSchema.Unicode.Casing

/-!
# The code points of a class

A class in brackets denotes a set of code points.  Where case is ignored a set takes in what differs
from its members in case only, before it is negated or combined with another.

The sign of a property counts with both of its spellings, the letter and the inequality:
`[\p{gc!=Lu}&&[A-Ca-c]]` has the letters from `a` to `c`, `[\P{gc!=Lu}&&[A-Ca-c]]` those from `A` to
`C`.
-/

namespace ProtoSchema.Pattern

open Unicode

/-- A set with its case and its sign. -/
def finishSet (ignoreCase negated : Bool) (s : CodeSet) : CodeSet :=
  let s := if ignoreCase then s.caseClosure else s
  if negated then s.compl else s

/-- The range of two characters. -/
def charRange (lo hi : Char) : CodeRange := ⟨lo.toNat, hi.toNat⟩

def AsciiClass.codeSet (c : AsciiClass) : CodeSet :=
  .ofRanges (c.ranges.map fun (lo, hi) => charRange lo hi)

/-- The set of a shorthand, which case makes no difference to. -/
def Shorthand.codeSet : Shorthand → CodeSet
  | digit => digits
  | space => Unicode.space
  | word => wordChars

/-- The set of what a property class names, for a property that exists. -/
def PropertyClass.codeSet (p : PropertyClass) : CodeSet :=
  (p.name.query.resolve.toOption).getD .empty

def SetOperation.apply : SetOperation → CodeSet → CodeSet → CodeSet
  | intersection, a, b => a.inter b
  | difference, a, b => a.diff b
  | symmetricDifference, a, b => a.symmDiff b

mutual

def ClassBody.codeSet (ignoreCase : Bool) : ClassBody → CodeSet
  | .empty _ => .empty
  | .literal l => ⟨[.single l.char.toNat]⟩
  | .range _ lo hi => ⟨[charRange lo.char hi.char]⟩
  | .ascii _ negated kind => finishSet ignoreCase negated kind.codeSet
  | .property p => finishSet ignoreCase p.excludes p.codeSet
  | .shorthand s => finishSet false s.negated s.kind.codeSet
  | .nested _ negated body => finishSet ignoreCase negated (body.codeSet ignoreCase)
  | .union _ members => ClassBody.unionSet ignoreCase members
  | .operation _ op left right =>
    op.apply (finishSet ignoreCase false (left.codeSet ignoreCase))
      (finishSet ignoreCase false (right.codeSet ignoreCase))

def ClassBody.unionSet (ignoreCase : Bool) : List ClassBody → CodeSet
  | [] => .empty
  | b :: rest => (b.codeSet ignoreCase).union (ClassBody.unionSet ignoreCase rest)

end

end ProtoSchema.Pattern
