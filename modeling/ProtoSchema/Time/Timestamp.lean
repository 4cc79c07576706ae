import ProtoSchema.Time.Date

/-!
# Timestamps

A timestamp counts seconds from the start of 1970 and nanoseconds after that.  Its text is the date
and the time of day in UTC, for the years 1 to 9999.
-/

namespace ProtoSchema

structure Timestamp where
  seconds : Int
  nanos : Int
deriving DecidableEq, Repr, Inhabited

namespace Timestamp

/-- The start of the year 1. -/
def minSeconds : Int := -62135596800

/-- The last second of the year 9999. -/
def maxSeconds : Int := 253402300799

/-- What is wrong with a timestamp that has no text. -/
inductive Invalid
  | seconds (n : Int)
  | nanos (n : Int)
deriving DecidableEq, Repr

def Invalid.message : Invalid → String
  | seconds n => "timestamp of " ++ toString n ++ "s is out of range"
  | nanos n => "timestamp nanos " ++ toString n ++ " is out of range"

def secondsPerDay : Nat := 86400

/-- The days from 1 March of the year 0 to the start of 1970. -/
def epochDays : Nat := 719468

/-- Hours, minutes and seconds of a second of the day. -/
def timeOfDay (second : Nat) : String :=
  Time.padded 2 (second / 3600) ++ ":" ++ Time.padded 2 (second / 60 % 60) ++ ":" ++
    Time.padded 2 (second % 60)

def text (t : Timestamp) : Except Invalid String :=
  if t.seconds < minSeconds ∨ maxSeconds < t.seconds then .error (.seconds t.seconds)
  else if t.nanos < 0 ∨ Time.nanosPerSecond ≤ t.nanos then .error (.nanos t.nanos)
  else
    let second := (t.seconds + epochDays * secondsPerDay).toNat
    .ok ((Date.ofDays (second / secondsPerDay)).text ++ "T" ++
      timeOfDay (second % secondsPerDay) ++ Time.fraction t.nanos.toNat ++ "Z")

end Timestamp

end ProtoSchema
