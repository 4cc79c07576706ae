import ProtoSchema.Json.Fault
import ProtoSchema.Text.Digit

/-!
# Number and string literals

A literal is read in two ways.  A value that is used has to mean something: a number must fit a
double, and the halves of a surrogate pair must meet.  A value that is skipped has to be well
formed only.  Both readings start at the same character, and where both succeed they end at the
same one.
-/

namespace ProtoSchema.Json

open Text

/-- What a literal yields: its value, the characters after it, and the offset of the first. -/
abbrev Reading (α : Type) := Except Fault (α × List Char × Nat)

def faultAt (g : GrammarFault) (offset : Nat) : Fault := ⟨.grammar g, offset⟩

/-! ## Numbers -/

/-- The parts of a number literal: the sign, the digits before and after the point, and the sign
and the digits of the exponent. -/
structure NumberLiteral where
  negative : Bool
  whole : List Char
  fraction : Option (List Char)
  exponent : Option (Bool × List Char)
deriving Repr, Inhabited

/-- What a number needs next when the text ends instead: one reading calls the text too short, the
other calls the number malformed. -/
def numberEnd (used : Bool) : GrammarFault := if used then .endInValue else .invalidNumber

/-- The digits before the point: one zero, or digits that do not start with zero. -/
def scanWhole (used : Bool) (offset : Nat) : List Char → Reading (List Char)
  | [] => .error (faultAt (numberEnd used) offset)
  | '0' :: cs =>
    match cs with
    | d :: _ =>
      if isDigit d then .error (faultAt .invalidNumber (offset + 2))
      else .ok (['0'], cs, offset + 1)
    | [] => .ok (['0'], cs, offset + 1)
  | c :: cs =>
    if isDigit c then
      let ds := c :: cs.takeWhile isDigit
      .ok (ds, cs.dropWhile isDigit, offset + ds.length)
    else .error (faultAt .invalidNumber (offset + 1))

/-- A point and at least one digit, if there is a point. -/
def scanFraction (used : Bool) (offset : Nat) : List Char → Reading (Option (List Char))
  | '.' :: cs =>
    let ds := cs.takeWhile isDigit
    let rest := cs.dropWhile isDigit
    if ds.isEmpty then
      match rest with
      | [] => .error (faultAt (numberEnd used) (offset + 1))
      | _ :: _ => .error (faultAt .invalidNumber (offset + 2))
    else .ok (some ds, rest, offset + 1 + ds.length)
  | cs => .ok (none, cs, offset)

/-- The digits of an exponent after its sign. -/
def scanExponentDigits (used : Bool) (negative : Bool) (offset : Nat) (cs : List Char) :
    Reading (Option (Bool × List Char)) :=
  match cs with
  | [] => .error (faultAt (numberEnd used) offset)
  | c :: _ =>
    if isDigit c then
      let ds := cs.takeWhile isDigit
      .ok (some (negative, ds), cs.dropWhile isDigit, offset + ds.length)
    else .error (faultAt .invalidNumber (offset + 1))

/-- The letter `e`, a sign and digits, if there is such a letter. -/
def scanExponent (used : Bool) (offset : Nat) (cs : List Char) :
    Reading (Option (Bool × List Char)) :=
  match cs with
  | c :: rest =>
    if c = 'e' ∨ c = 'E' then
      match rest with
      | '+' :: ds => scanExponentDigits used false (offset + 2) ds
      | '-' :: ds => scanExponentDigits used true (offset + 2) ds
      | ds => scanExponentDigits used false (offset + 1) ds
    else .ok (none, cs, offset)
  | [] => .ok (none, cs, offset)

/-- A number literal; the text starts with its sign or its first digit. -/
def scanNumber (used : Bool) (offset : Nat) (cs : List Char) :
    Except Fault (NumberLiteral × List Char × Nat) := do
  let (negative, cs, offset) := match cs with
    | '-' :: rest => (true, rest, offset + 1)
    | cs => (false, cs, offset)
  let (whole, cs, offset) ← scanWhole used offset cs
  let (fraction, cs, offset) ← scanFraction used offset cs
  let (exponent, cs, offset) ← scanExponent used offset cs
  return (⟨negative, whole, fraction, exponent⟩, cs, offset)

/-- Digits gathered into a significand of 64 bits, and the power of ten that goes with it. -/
structure Significand where
  value : Nat
  exponent : Int
deriving Repr

def maxSignificand : Nat := 0xFFFFFFFFFFFFFFFF

/-- Takes digits before the point while the significand has room; the others count as zeros. -/
def Significand.takeWhole (s : Significand) : List Char → Significand
  | [] => s
  | d :: ds =>
    if s.value * 10 + digitValue d ≤ maxSignificand then
      takeWhole ⟨s.value * 10 + digitValue d, s.exponent⟩ ds
    else ⟨s.value, s.exponent + (ds.length + 1 : Nat)⟩

/-- Takes digits after the point while the significand has room, and drops the others. -/
def Significand.takeFraction (s : Significand) : List Char → Significand
  | [] => s
  | d :: ds =>
    if s.value * 10 + digitValue d ≤ maxSignificand then
      takeFraction ⟨s.value * 10 + digitValue d, s.exponent - 1⟩ ds
    else s

/-- Multiplies or divides by a power of ten with one rounding; powers of ten that no double holds
are taken in steps, downwards only.  There is no result if the number is too great. -/
def scaleByPower (x : BinaryFloat) (e : Int) : Option BinaryFloat :=
  if 308 < e then if x.isZero then some x else none
  else if 0 ≤ e then
    let y := x.mul binary64 (.pow10 binary64 e.toNat)
    if y.isFinite then some y else none
  else if -308 ≤ e then some (x.div binary64 (.pow10 binary64 (-e).toNat))
  else if x.isZero then some x
  else scaleByPower (x.div binary64 (.pow10 binary64 308)) (e + 308)
termination_by (-e).toNat
decreasing_by omega

/-- The value of an exponent, or the number of its digits after which it is too great. -/
def exponentValue (read value : Nat) : List Char → Except Nat Nat
  | [] => .ok value
  | d :: ds =>
    let next := value * 10 + digitValue d
    if next < 0x80000000 then exponentValue (read + 1) next ds else .error (read + 1)

/-- The value of a number literal, which ends at offset `stop`.  Integers that fit 64 bits stay
integers; negative zero and everything else is a double. -/
def NumberLiteral.value (l : NumberLiteral) (stop : Nat) : Except Fault Number :=
  let whole := Significand.takeWhole ⟨0, 0⟩ l.whole
  let signed := fun x : BinaryFloat => Number.float (if l.negative then x.neg else x)
  let scaled := fun (s : Significand) (e : Int) =>
    match scaleByPower (.ofInt binary64 s.value) (s.exponent + e) with
    | some x => .ok (signed x)
    | none => .error (faultAt .numberOutOfRange stop)
  match l.fraction, l.exponent with
  | none, none =>
    if whole.exponent ≠ 0 then scaled whole 0
    else if !l.negative then .ok (.int whole.value)
    else if 1 ≤ whole.value ∧ whole.value ≤ 0x8000000000000000 then .ok (.int (-whole.value))
    else .ok (signed (.ofInt binary64 whole.value))
  | fraction, none => scaled (whole.takeFraction (fraction.getD [])) 0
  | fraction, some (negative, ds) =>
    let s := whole.takeFraction (fraction.getD [])
    match exponentValue 0 0 ds with
    | .ok e => scaled s (if negative then -e else e)
    | .error read =>
      if s.value ≠ 0 ∧ !negative then
        .error (faultAt .numberOutOfRange (stop - ds.length + read))
      else .ok (signed (.ofInt binary64 0))

/-! ## Strings -/

/-- The code unit of four hexadecimal digits. -/
def codeUnit (a b c d : Char) : Option Nat := do
  return ((← hexValue a) * 16 + (← hexValue b)) * 256 + ((← hexValue c) * 16 + (← hexValue d))

/-- The fault of an escape that has no four digits: the text ends within four bytes, or some byte of
the four is no digit. -/
def hexFault (offset : Nat) (cs : List Char) : Fault :=
  let bytes := (cs.map Char.utf8Size).foldr (· + ·) 0
  if bytes < 4 then faultAt .endInString (offset + bytes) else faultAt .invalidEscape (offset + 4)

/-- The character of an escape that has one letter. -/
def simpleEscape (c : Char) : Option Char :=
  match c with
  | '"' => some '"'
  | '\\' => some '\\'
  | '/' => some '/'
  | 'b' => some '\x08'
  | 'f' => some '\x0c'
  | 'n' => some '\n'
  | 'r' => some '\r'
  | 't' => some '\t'
  | _ => none

def isLeading (unit : Nat) : Bool := 0xD800 ≤ unit && unit ≤ 0xDBFF

def isTrailing (unit : Nat) : Bool := 0xDC00 ≤ unit && unit ≤ 0xDFFF

/-- The character of a surrogate pair. -/
def joinPair (leading trailing : Nat) : Char :=
  Char.ofNat ((leading - 0xD800) * 0x400 + (trailing - 0xDC00) + 0x10000)

/-- The rest of a string that is used: `taken` holds the characters so far in reverse, and `leading`
the first half of a pair whose second half has to follow. -/
def readString (leading : Option Nat) (taken : List Char) (offset : Nat) :
    List Char → Reading String
  | '\\' :: 'u' :: a :: b :: c :: d :: cs =>
    match codeUnit a b c d with
    | none => .error (hexFault (offset + 2) (a :: b :: c :: d :: cs))
    | some unit =>
      match leading with
      | some l =>
        if isTrailing unit then readString none (joinPair l unit :: taken) (offset + 6) cs
        else .error (faultAt .loneSurrogate (offset + 6))
      | none =>
        if isTrailing unit then .error (faultAt .loneSurrogate (offset + 6))
        else if isLeading unit then readString (some unit) taken (offset + 6) cs
        else readString none (Char.ofNat unit :: taken) (offset + 6) cs
  | '\\' :: 'u' :: cs => .error (hexFault (offset + 2) cs)
  | ['\\'] => .error (faultAt .endInString (offset + 1))
  | '\\' :: c :: cs =>
    match leading, simpleEscape c with
    | some _, _ => .error (faultAt .unfinishedPair (offset + 2))
    | none, some e => readString none (e :: taken) (offset + 1 + c.utf8Size) cs
    | none, none => .error (faultAt .invalidEscape (offset + 2))
  | [] => .error (faultAt .endInString offset)
  | c :: cs =>
    if leading.isSome then .error (faultAt .unfinishedPair (offset + 1))
    else if c = '"' then .ok (String.ofList taken.reverse, cs, offset + 1)
    else if c.toNat < 0x20 then .error (faultAt .controlInString (offset + 1))
    else readString none (c :: taken) (offset + c.utf8Size) cs

/-- The rest of a string that is skipped. -/
def skipString (offset : Nat) : List Char → Reading Unit
  | '\\' :: 'u' :: a :: b :: c :: d :: cs =>
    match codeUnit a b c d with
    | none => .error (hexFault (offset + 2) (a :: b :: c :: d :: cs))
    | some _ => skipString (offset + 6) cs
  | '\\' :: 'u' :: cs => .error (hexFault (offset + 2) cs)
  | ['\\'] => .error (faultAt .endInString (offset + 1))
  | '\\' :: c :: cs =>
    match simpleEscape c with
    | some _ => skipString (offset + 1 + c.utf8Size) cs
    | none => .error (faultAt .invalidEscape (offset + 2))
  | [] => .error (faultAt .endInString offset)
  | c :: cs =>
    if c = '"' then .ok ((), cs, offset + 1)
    else if c.toNat < 0x20 then .error (faultAt .controlInString offset)
    else skipString (offset + c.utf8Size) cs

end ProtoSchema.Json
