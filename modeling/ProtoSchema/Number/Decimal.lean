import ProtoSchema.Number.Binary

/-!
# Decimal digits of binary numbers

The shortest decimal of a binary number has the fewest digits among the decimals that round to it,
and of those with as few digits it is the nearest.  It is found by trying one digit, then two, and
so on: if a grid of decimals has a member that rounds to the number, then one of the number's two
neighbours on that grid does.
-/

namespace ProtoSchema

/-- The number `digits * 10 ^ exponent`. -/
structure Decimal where
  digits : Nat
  exponent : Int
deriving DecidableEq, Repr, Inhabited

/-- The same number with no zero at the end of its digits. -/
def Decimal.trim (x : Decimal) : Decimal :=
  if h : x.digits ≠ 0 ∧ x.digits % 10 = 0 then
    Decimal.trim ⟨x.digits / 10, x.exponent + 1⟩
  else x
termination_by x.digits
decreasing_by exact Nat.div_lt_self (Nat.pos_of_ne_zero h.1) (by decide)

/-- Which neighbour is taken when a number lies halfway between two decimals. -/
inductive Tie
  | toEven
  | up
deriving DecidableEq, Repr, Inhabited

/-- The exponent of the greatest power of ten that is at most `n / d`, from the logarithm in base
two, which determines it up to one. -/
def floorLog10 (n d : Nat) : Int :=
  let guess := Int.fdiv (floorLog2 n d * 30103) 100000
  let atLeast := fun k : Int => let (n', d') := scaleQuotient 10 n d k; d' ≤ n'
  if atLeast (guess + 1) then guess + 1 else if atLeast guess then guess else guess - 1

/-- An interval of rationals over one denominator, with or without its ends. -/
structure Interval where
  lo : Nat
  hi : Nat
  den : Nat
  closed : Bool
deriving Repr

/-- Whether `c * 10 ^ e` lies in the interval. -/
def Interval.holds (i : Interval) (c : Nat) (e : Int) : Bool :=
  let (p, q) := scaleQuotient 10 c 1 (-e)
  let x := p * i.den
  if i.closed then i.lo * q ≤ x && x ≤ i.hi * q else i.lo * q < x && x < i.hi * q

namespace BinaryFloat

/-- The reals that round to a nonzero number of the format: half a unit on each side, a quarter
below a power of two.  An even mantissa takes the ends. -/
def roundingInterval (f : BinaryFormat) (m : Nat) (e : Int) : Interval :=
  let (n, d) := quotient 1 e
  let below := if m = Nat.pow 2 (f.precision - 1) ∧ f.minExponent < e then 4 * m - 1 else 4 * m - 2
  ⟨below * n, (4 * m + 2) * n, 4 * d, m % 2 == 0⟩

/-- Of the decimals `c * 10 ^ e` and `(c + 1) * 10 ^ e` around `n / d`, the one that lies in the
interval, and the nearer one if both do. -/
def choose (tie : Tie) (i : Interval) (n d c : Nat) (e : Int) : Option Nat :=
  match i.holds c e, i.holds (c + 1) e with
  | false, false => none
  | true, false => some c
  | false, true => some (c + 1)
  | true, true =>
    let (n', d') := scaleQuotient 10 n d e
    let rest := 2 * (n' - c * d')
    if rest < d' then some c
    else if d' < rest then some (c + 1)
    else match tie with
      | .toEven => some (c + c % 2)
      | .up => some (c + 1)

/-- Tries `count` digits or more, at most `fuel` grids. -/
def shortestFrom (tie : Tie) (i : Interval) (n d : Nat) (top : Int) : Nat → Nat → Decimal
  | 0, _ => ⟨0, 0⟩
  | fuel + 1, count =>
    let e := top - count + 1
    let (n', d') := scaleQuotient 10 n d e
    match choose tie i n d (n' / d') e with
    | some c => Decimal.trim ⟨c, e⟩
    | none => shortestFrom tie i n d top fuel (count + 1)

/-- Seventeen digits tell any two numbers of double precision apart. -/
def maxDigits : Nat := 17

/-- The shortest decimal of `m * 2 ^ e`. -/
def shortest (f : BinaryFormat) (tie : Tie) (m : Nat) (e : Int) : Decimal :=
  if m = 0 then ⟨0, 0⟩
  else
    let (n, d) := quotient m e
    shortestFrom tie (roundingInterval f m e) n d (floorLog10 n d) maxDigits 1

/-- The number of the format nearest to a decimal. -/
def ofDecimal (f : BinaryFormat) (negative : Bool) (x : Decimal) : BinaryFloat :=
  let (n, d) := scaleQuotient 10 x.digits 1 (-x.exponent)
  ofQuotient f negative n d

end BinaryFloat

end ProtoSchema
