/-!
# Sets of code points

A set of code points is a list of inclusive ranges in ascending order that neither overlap nor
touch.  The operations below are those of a character class: union, intersection, difference,
symmetric difference, complement and closure under case folding.  Steps to a neighbouring code
point go from scalar value to scalar value, so they pass over the surrogates.
-/

namespace ProtoSchema.Unicode

/-- The greatest code point. -/
def maxCodePoint : Nat := 0x10FFFF

/-- An inclusive range of code points. -/
structure CodeRange where
  lo : Nat
  hi : Nat
deriving DecidableEq, Repr, Inhabited

namespace CodeRange

/-- The range that holds one code point. -/
def single (c : Nat) : CodeRange := ⟨c, c⟩

/-- The range whose ends are `a` and `b`, in whichever order they come. -/
def between (a b : Nat) : CodeRange := ⟨min a b, max a b⟩

def contains (r : CodeRange) (c : Nat) : Bool := r.lo ≤ c && c ≤ r.hi

/-- What two ranges share. -/
def inter? (r s : CodeRange) : Option CodeRange :=
  if max r.lo s.lo ≤ min r.hi s.hi then some ⟨max r.lo s.lo, min r.hi s.hi⟩ else none

end CodeRange

/-- The scalar value after `c`. -/
def nextScalar (c : Nat) : Nat := if c = 0xD7FF then 0xE000 else c + 1

/-- The scalar value before `c`. -/
def prevScalar (c : Nat) : Nat := if c = 0xE000 then 0xD7FF else c - 1

/-- What is left of `r` outside `s`: a part below it and a part above it. -/
def CodeRange.minus (r s : CodeRange) : List CodeRange :=
  if r.hi < s.lo ∨ s.hi < r.lo then [r]
  else
    (if r.lo < s.lo then [⟨r.lo, prevScalar s.lo⟩] else []) ++
      (if s.hi < r.hi then [⟨nextScalar s.hi, r.hi⟩] else [])

/-- A set of code points, as ranges in ascending order. -/
structure CodeSet where
  ranges : List CodeRange
deriving DecidableEq, Repr, Inhabited

namespace CodeSet

def empty : CodeSet := ⟨[]⟩

/-- Every code point. -/
def all : CodeSet := ⟨[⟨0, maxCodePoint⟩]⟩

def contains (s : CodeSet) (c : Nat) : Bool := s.ranges.any (·.contains c)

instance : Membership Nat CodeSet := ⟨fun s c => s.contains c = true⟩

/-- Joins `r` with the ranges after it that overlap or touch it; the rest start later. -/
def coalesceFrom (r : CodeRange) : List CodeRange → List CodeRange
  | [] => [r]
  | s :: rest =>
    if s.lo ≤ r.hi + 1 then coalesceFrom ⟨r.lo, max r.hi s.hi⟩ rest
    else r :: coalesceFrom s rest

/-- Joins ranges in ascending order where they overlap or touch. -/
def coalesce : List CodeRange → List CodeRange
  | [] => []
  | r :: rest => coalesceFrom r rest

/-- The set that holds what some range of the list holds. -/
def ofRanges (rs : List CodeRange) : CodeSet :=
  ⟨coalesce (rs.mergeSort fun r s => r.lo ≤ s.lo)⟩

def union (a b : CodeSet) : CodeSet := ofRanges (a.ranges ++ b.ranges)

def inter (a b : CodeSet) : CodeSet :=
  ⟨a.ranges.flatMap fun r => b.ranges.filterMap r.inter?⟩

def diff (a b : CodeSet) : CodeSet :=
  ⟨b.ranges.foldl (fun rs s => rs.flatMap (·.minus s)) a.ranges⟩

def symmDiff (a b : CodeSet) : CodeSet := (a.union b).diff (a.inter b)

/-- The gaps between consecutive ranges, the one after the last range included. -/
def gapsAfter (last : CodeRange) : List CodeRange → List CodeRange
  | [] => if last.hi < maxCodePoint then [⟨nextScalar last.hi, maxCodePoint⟩] else []
  | r :: rest => .between (nextScalar last.hi) (prevScalar r.lo) :: gapsAfter r rest

/-- Everything outside the set.  Two ranges that meet across the surrogates leave a gap between
their last and first scalar values, and that gap comes out as the range of those two. -/
def compl (s : CodeSet) : CodeSet :=
  match s.ranges with
  | [] => all
  | r :: rest => ⟨(if 0 < r.lo then [⟨0, prevScalar r.lo⟩] else []) ++ gapsAfter r rest⟩

/-- Adds every class of `classes` that shares a member with the set. -/
def closeUnder (classes : List (List Nat)) (s : CodeSet) : CodeSet :=
  ofRanges (s.ranges ++
    (classes.filter (·.any s.contains)).flatMap (·.map CodeRange.single))

end CodeSet

end ProtoSchema.Unicode
