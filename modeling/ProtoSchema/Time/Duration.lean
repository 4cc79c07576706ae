import ProtoSchema.Time.Digits

/-!
# Durations

A duration is a number of seconds and a number of nanoseconds, both of the same sign.  Its text is
the decimal number of seconds, a minus sign in front if it is negative, and the letter `s`.
-/

namespace ProtoSchema

structure Duration where
  seconds : Int
  nanos : Int
deriving DecidableEq, Repr, Inhabited

namespace Duration

/-- Ten thousand years. -/
def maxSeconds : Nat := 315576000000

/-- What is wrong with a duration that has no text. -/
inductive Invalid
  | seconds (n : Int)
  | nanos (n : Int)
  | signs (d : Duration)
deriving DecidableEq, Repr

def Invalid.message : Invalid → String
  | seconds n => "duration of " ++ toString n ++ "s is out of range"
  | nanos n => "duration nanos " ++ toString n ++ " is out of range"
  | signs d =>
    "duration seconds (" ++ toString d.seconds ++ ") and nanos (" ++ toString d.nanos ++
      ") have different signs"

def text (d : Duration) : Except Invalid String :=
  if maxSeconds < d.seconds.natAbs then .error (.seconds d.seconds)
  else if Time.nanosPerSecond ≤ d.nanos.natAbs then .error (.nanos d.nanos)
  else if (0 < d.seconds ∧ d.nanos < 0) ∨ (d.seconds < 0 ∧ 0 < d.nanos) then .error (.signs d)
  else
    let sign := if d.seconds < 0 ∨ d.nanos < 0 then "-" else ""
    .ok (sign ++ toString d.seconds.natAbs ++ Time.fraction d.nanos.natAbs ++ "s")

end Duration

end ProtoSchema
