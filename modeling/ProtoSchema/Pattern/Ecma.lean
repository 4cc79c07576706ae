import ProtoSchema.Text.Digit

/-!
# ECMAScript patterns

The tree of a pattern in the dialect of JSON Schema, and its text.  A character that would mean
something where it stands is escaped.
-/

namespace ProtoSchema.Pattern

/-- The characters with a meaning outside of classes. -/
def metaOutside : List Char := "\\.+*?()|[]\x7b\x7d^$".toList

/-- The characters with a meaning inside of classes. -/
def metaInside : List Char := "\\]^[-".toList

/-- A number in capital hexadecimal digits, with zeros in front up to a width. -/
def hexDigitsUpper (width n : Nat) : List Char :=
  let ds := (Nat.toDigits 16 n).map Char.toUpper
  List.replicate (width - ds.length) '0' ++ ds

/-- One character, escaped if it is a control or among `special`. -/
def escapeChar (special : List Char) (c : Char) : List Char :=
  if c = '\n' then ['\\', 'n']
  else if c = '\r' then ['\\', 'r']
  else if c = '\t' then ['\\', 't']
  else if c = '\x0b' then ['\\', 'v']
  else if c = '\x0c' then ['\\', 'f']
  else if c.toNat < 0x20 ∨ c = '\x7f' then '\\' :: 'x' :: hexDigitsUpper 2 c.toNat
  else if special.contains c then ['\\', c]
  else [c]

/-- A text as a pattern that matches it and nothing else. -/
def escapeText (s : String) : String :=
  String.ofList (s.toList.flatMap (escapeChar metaOutside))

/-- An end of a range in a class: a character as it is, or a code unit, which is written as a number
unless it is in ASCII. -/
inductive ClassAtom
  | char (c : Char)
  | unit (n : Nat)
deriving DecidableEq, Repr, Inhabited

inductive ClassEscape
  | digit
  | notDigit
  | space
  | notSpace
  | word
  | notWord
deriving DecidableEq, Repr, Inhabited

inductive ClassMember
  | single (a : ClassAtom)
  | range (lo hi : ClassAtom)
  | escape (e : ClassEscape)
  | property (negated : Bool) (name : String)
deriving DecidableEq, Repr, Inhabited

inductive EcmaAssertion
  | start
  | stop
  | boundary
  | notBoundary
deriving DecidableEq, Repr, Inhabited

inductive Quantifier
  | optional
  | any
  | some
  | exactly (n : Nat)
  | atLeast (n : Nat)
  | between (n m : Nat)
deriving DecidableEq, Repr, Inhabited

inductive Ecma
  | empty
  | char (c : Char)
  | dot
  | assertion (a : EcmaAssertion)
  | escape (e : ClassEscape)
  | property (negated : Bool) (name : String)
  | set (negated : Bool) (members : List ClassMember)
  | repetition (q : Quantifier) (lazy : Bool) (body : Ecma)
  | group (capturing : Bool) (body : Ecma)
  | alternation (branches : List Ecma)
  | concat (parts : List Ecma)
deriving Repr, Inhabited

/-! ## Text -/

def ClassEscape.print : ClassEscape → List Char
  | digit => ['\\', 'd']
  | notDigit => ['\\', 'D']
  | space => ['\\', 's']
  | notSpace => ['\\', 'S']
  | word => ['\\', 'w']
  | notWord => ['\\', 'W']

def printProperty (negated : Bool) (name : String) : List Char :=
  '\\' :: (if negated then 'P' else 'p') :: '{' :: (name.toList ++ ['}'])

def ClassAtom.print : ClassAtom → List Char
  | char c => escapeChar metaInside c
  | unit n =>
    if n < 0x80 then escapeChar metaInside (Char.ofNat n)
    else '\\' :: 'u' :: hexDigitsUpper 4 n

def ClassMember.print : ClassMember → List Char
  | single a => a.print
  | range lo hi => lo.print ++ '-' :: hi.print
  | escape e => e.print
  | property negated name => printProperty negated name

def EcmaAssertion.print : EcmaAssertion → List Char
  | start => ['^']
  | stop => ['$']
  | boundary => ['\\', 'b']
  | notBoundary => ['\\', 'B']

def Quantifier.print : Quantifier → List Char
  | optional => ['?']
  | any => ['*']
  | some => ['+']
  | exactly n => '{' :: (Nat.toDigits 10 n ++ ['}'])
  | atLeast n => '{' :: (Nat.toDigits 10 n ++ [',', '}'])
  | between n m => '{' :: (Nat.toDigits 10 n ++ ',' :: (Nat.toDigits 10 m ++ ['}']))

namespace Ecma

mutual

def print : Ecma → List Char
  | empty => []
  | char c => escapeChar metaOutside c
  | dot => ['.']
  | assertion a => a.print
  | escape e => e.print
  | property negated name => printProperty negated name
  | set negated members =>
    '[' :: ((if negated then ['^'] else []) ++ members.flatMap ClassMember.print ++ [']'])
  | repetition q lazy body => print body ++ q.print ++ (if lazy then ['?'] else [])
  | group capturing body =>
    (if capturing then ['('] else ['(', '?', ':']) ++ print body ++ [')']
  | alternation branches => printBranches branches
  | concat parts => printParts parts

def printBranches : List Ecma → List Char
  | [] => []
  | [r] => print r
  | r :: rest => print r ++ '|' :: printBranches rest

def printParts : List Ecma → List Char
  | [] => []
  | r :: rest => print r ++ printParts rest

end

def text (r : Ecma) : String := String.ofList r.print

/-- A class that takes every character. -/
def anyChar : Ecma := set false [.escape .space, .escape .notSpace]

/-- A class that takes no character. -/
def noChar : Ecma := set true [.escape .space, .escape .notSpace]

end Ecma

end ProtoSchema.Pattern
