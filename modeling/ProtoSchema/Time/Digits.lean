/-!
# Digits of times

Numbers of fixed width, and fractions of a second.  A fraction has no digits, three, six or nine:
the least of these numbers that keeps every nanosecond.
-/

namespace ProtoSchema.Time

/-- The digits of `n`, with zeros in front up to a width. -/
def padded (width n : Nat) : String :=
  let ds := Nat.toDigits 10 n
  String.ofList (List.replicate (width - ds.length) '0' ++ ds)

def nanosPerSecond : Nat := 1000000000

/-- A point and the digits of a fraction, or nothing for a whole second. -/
def fraction (nanos : Nat) : String :=
  if nanos = 0 then ""
  else if nanos % 1000000 = 0 then "." ++ padded 3 (nanos / 1000000)
  else if nanos % 1000 = 0 then "." ++ padded 6 (nanos / 1000)
  else "." ++ padded 9 nanos

end ProtoSchema.Time
