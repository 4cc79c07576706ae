import ProtoSchema.Number.Decimal

/-!
# JSON numbers

A number is an integer or a double.  Integers are spelled in plain decimal.  Doubles are spelled
with the fewest digits that read back, always with a fraction or an exponent, so that the spelling
tells the two kinds apart.
-/

namespace ProtoSchema

inductive Number
  | int (n : Int)
  | float (x : BinaryFloat)
deriving DecidableEq, Repr, Inhabited

namespace Number

/-- The number zero. -/
def zero : Number := .int 0

/-- A decimal with a point: positional from `10 ^ -5` to below `10 ^ 16`, otherwise one digit
before the point and an exponent that shows its sign. -/
def spellDecimal (x : Decimal) : String :=
  let ds := (toString x.digits).toList
  let point : Int := ds.length + x.exponent
  let zeros := fun k : Int => String.ofList (List.replicate k.toNat '0')
  if -5 ≤ point - 1 ∧ point - 1 < 16 then
    if point ≤ 0 then "0." ++ zeros (-point) ++ String.ofList ds
    else if point < ds.length then
      String.ofList (ds.take point.toNat) ++ "." ++ String.ofList (ds.drop point.toNat)
    else String.ofList ds ++ zeros (point - ds.length) ++ ".0"
  else
    let rest := ds.drop 1
    String.ofList (ds.take 1) ++ (if rest.isEmpty then "" else "." ++ String.ofList rest) ++
      "e" ++ (if 0 ≤ point - 1 then "+" else "") ++ toString (point - 1)

/-- A double; one that is not finite, which no document holds, is spelled like the absence of a
value. -/
def spellFloat : BinaryFloat → String
  | .finite negative m e =>
    (if negative then "-" else "") ++
      (if m = 0 then "0.0" else spellDecimal (BinaryFloat.shortest binary64 .toEven m e))
  | .infinite _ | .nan => "null"

def spell : Number → String
  | .int n => toString n
  | .float x => spellFloat x

end Number

end ProtoSchema
