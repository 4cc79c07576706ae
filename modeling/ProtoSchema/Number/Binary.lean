/-!
# Binary floating-point numbers

A finite number is a sign, a mantissa and an exponent of two; a format bounds both.  Every
operation goes through the exact quotient of two natural numbers and one rounding to the nearest
number of the format, a tie going to the even mantissa.
-/

namespace ProtoSchema

/-- A format: the mantissa is below `2 ^ precision`, the exponent between the two bounds. -/
structure BinaryFormat where
  precision : Nat
  minExponent : Int
  maxExponent : Int
deriving DecidableEq, Repr

/-- Double precision. -/
def binary64 : BinaryFormat := ⟨53, -1074, 971⟩

/-- Single precision. -/
def binary32 : BinaryFormat := ⟨24, -149, 104⟩

/-- A number: `mantissa * 2 ^ exponent`, negated if `negative`, or an infinity, or no number. -/
inductive BinaryFloat
  | finite (negative : Bool) (mantissa : Nat) (exponent : Int)
  | infinite (negative : Bool)
  | nan
deriving DecidableEq, Repr, Inhabited

/-- The quotient of `n` by `d`, rounded to the nearest integer, a tie to the even one. -/
def roundHalfEven (n d : Nat) : Nat :=
  if 2 * (n % d) < d then n / d
  else if d < 2 * (n % d) then n / d + 1
  else n / d + n / d % 2

/-- The numerator and denominator of `n / d / base ^ e`. -/
def scaleQuotient (base n d : Nat) (e : Int) : Nat × Nat :=
  if 0 ≤ e then (n, d * base.pow e.toNat) else (n * base.pow (-e).toNat, d)

/-- The exponent of the greatest power of two that is at most `n / d`. -/
def floorLog2 (n d : Nat) : Int :=
  let k : Int := (n.log2 : Int) - d.log2
  let (n', d') := scaleQuotient 2 n d k
  if d' ≤ n' then k else k - 1

namespace BinaryFloat

/-- The number of the format nearest to `n / d`. -/
def ofQuotient (f : BinaryFormat) (negative : Bool) (n d : Nat) : BinaryFloat :=
  if n = 0 then .finite negative 0 f.minExponent
  else
    let e := max f.minExponent (floorLog2 n d - (f.precision - 1 : Nat))
    let (n', d') := scaleQuotient 2 n d e
    let m := roundHalfEven n' d'
    let (m, e) := if m = Nat.pow 2 f.precision then (Nat.pow 2 (f.precision - 1), e + 1) else (m, e)
    if f.maxExponent < e then .infinite negative else .finite negative m e

/-- The number of the format nearest to an integer. -/
def ofInt (f : BinaryFormat) (n : Int) : BinaryFloat := ofQuotient f (n < 0) n.natAbs 1

/-- The absolute value as a quotient of natural numbers. -/
def quotient (mantissa : Nat) (exponent : Int) : Nat × Nat :=
  scaleQuotient 2 mantissa 1 (-exponent)

/-- The same number in another format. -/
def convert (f : BinaryFormat) : BinaryFloat → BinaryFloat
  | .finite negative m e =>
    let (n, d) := quotient m e
    ofQuotient f negative n d
  | .infinite negative => .infinite negative
  | .nan => .nan

def isFinite : BinaryFloat → Bool
  | .finite .. => true
  | .infinite _ | .nan => false

def isZero : BinaryFloat → Bool
  | .finite _ m _ => m == 0
  | .infinite _ | .nan => false

def neg : BinaryFloat → BinaryFloat
  | .finite negative m e => .finite (!negative) m e
  | .infinite negative => .infinite (!negative)
  | .nan => .nan

/-- The rounded product of two numbers; of zero and an infinity there is none. -/
def mul (f : BinaryFormat) : BinaryFloat → BinaryFloat → BinaryFloat
  | .finite s m e, .finite s' m' e' =>
    let (n, d) := quotient (m * m') (e + e')
    ofQuotient f (s != s') n d
  | .finite s m _, .infinite s' | .infinite s, .finite s' m _ =>
    if m = 0 then .nan else .infinite (s != s')
  | .infinite s, .infinite s' => .infinite (s != s')
  | .nan, _ | _, .nan => .nan

/-- The rounded quotient of two numbers, the divisor finite and not zero. -/
def div (f : BinaryFormat) : BinaryFloat → BinaryFloat → BinaryFloat
  | .finite s m e, .finite s' m' e' =>
    let (n, d) := scaleQuotient 2 m m' (e' - e)
    ofQuotient f (s != s') n d
  | .finite s _ _, .infinite s' => .finite (s != s') 0 f.minExponent
  | .infinite s, .finite s' _ _ => .infinite (s != s')
  | .infinite _, .infinite _ | .nan, _ | _, .nan => .nan

/-- The number of the format nearest to `10 ^ k`. -/
def pow10 (f : BinaryFormat) (k : Nat) : BinaryFloat := ofQuotient f false (Nat.pow 10 k) 1

end BinaryFloat

end ProtoSchema
