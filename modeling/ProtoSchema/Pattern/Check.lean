import ProtoSchema.Pattern.Cursor
import ProtoSchema.Pattern.Flags

/-!
# What a pattern means

A pattern that can be read may still mean nothing: a class may name no property, and with the
Unicode flag off a part may match half a character.  Parts are checked in the order of the text, the
inside of a class before the class.
-/

namespace ProtoSchema.Pattern

open Cursor

/-- What a class asks for among the properties. -/
def PropertyName.query : PropertyName → Unicode.PropertyQuery
  | name n => .ofName n
  | value _ n v => .ofValue n v

def PropertyClass.check (f : Flags) (p : PropertyClass) : Except Fault Unit :=
  if !f.unicode then fail .unicodeNotAllowed p.span
  else
    match p.name.query.resolve with
    | .ok _ => .ok ()
    | .error .unknownProperty => fail .unknownProperty p.span
    | .error .unknownValue => fail .unknownPropertyValue p.span

/-- Fails at a class of bytes that takes more than ASCII. -/
def checkBytes (f : Flags) (negated : Bool) (span : Span) : Except Fault Unit :=
  if !f.unicode && negated then fail .invalidUtf8 span else .ok ()

/-- A character that is written as a byte has to be one. -/
def Literal.check (f : Flags) (l : Literal) : Except Fault Unit :=
  if !f.unicode && l.spelling == .byte && 0x7F < l.char.toNat then fail .invalidUtf8 l.span
  else .ok ()

/-- A class of bytes holds bytes only. -/
def Literal.checkMember (f : Flags) (l : Literal) : Except Fault Unit := do
  l.check f
  if !f.unicode && 0x7F < l.char.toNat then fail .unicodeNotAllowed l.span

mutual

def ClassBody.check (f : Flags) : ClassBody → Except Fault Unit
  | .empty _ => .ok ()
  | .literal l => l.checkMember f
  | .range _ lo hi => do
    lo.checkMember f
    hi.checkMember f
  | .ascii span negated _ => checkBytes f negated span
  | .property p => p.check f
  | .shorthand s => checkBytes f s.negated s.span
  | .nested span negated body => do
    body.check f
    checkBytes f negated span
  | .union _ members => ClassBody.checkAll f members
  | .operation _ _ left right => do
    left.check f
    right.check f

def ClassBody.checkAll (f : Flags) : List ClassBody → Except Fault Unit
  | [] => .ok ()
  | b :: rest => do
    b.check f
    ClassBody.checkAll f rest

end

mutual

def Regex.check (f : Flags) : Regex → Except Fault Unit
  | .empty _ | .flags .. | .assertion .. => .ok ()
  | .literal l => l.check f
  | .dot span => if f.unicode then .ok () else fail .invalidUtf8 span
  | .property p => p.check f
  | .shorthand s => checkBytes f s.negated s.span
  | .bracket span negated body => do
    body.check f
    checkBytes f negated span
  | .repetition _ _ _ body => body.check f
  | .group _ kind body => body.check (kind.inside f)
  | .alternation _ parts | .concat _ parts => Regex.checkAll f parts

def Regex.checkAll (f : Flags) : List Regex → Except Fault Unit
  | [] => .ok ()
  | r :: rest => do
    r.check f
    Regex.checkAll (r.flagsAfter f) rest

end

end ProtoSchema.Pattern
