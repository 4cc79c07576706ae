import ProtoSchema.Proofs.Time.Calendar
import ProtoSchema.Proofs.Time.Digits
import ProtoSchema.Proofs.Time.Range

/-!
# Texts of timestamps

The text of a timestamp is read as a date of the calendar, a time of day and a fraction of a second.
The seconds up to there, counted from the start of 1970, give the timestamp back.
-/

namespace ProtoSchema

/-! ## 1. Times as they are read -/

/-- A date and a time of day, with the digits of a fraction of a second. -/
structure CivilTime where
  date : Date
  hour : Nat
  minute : Nat
  second : Nat
  fraction : List Char

namespace CivilTime

/-- The rest of a text that starts with a mark. -/
def mark? (mark : Char) : List Char → Option (List Char)
  | c :: t => if c = mark then some t else none
  | [] => none

/-- Year, month and day in digits of fixed width: `YYYY-MM-DD`. -/
def date? (t : List Char) : Option (Date × List Char) := do
  let (year, t) ← Time.number? 4 t
  let t ← mark? '-' t
  let (month, t) ← Time.number? 2 t
  let t ← mark? '-' t
  let (day, t) ← Time.number? 2 t
  some (⟨year, month, day⟩, t)

/-- A date, a time of day and perhaps a fraction: `YYYY-MM-DDThh:mm:ss.fZ`. -/
def ofText? (t : List Char) : Option CivilTime := do
  let (date, t) ← date? t
  let t ← mark? 'T' t
  let (hour, t) ← Time.number? 2 t
  let t ← mark? ':' t
  let (minute, t) ← Time.number? 2 t
  let t ← mark? ':' t
  let (second, t) ← Time.number? 2 t
  let fraction ← Time.fraction? 'Z' t
  some ⟨date, hour, minute, second, fraction⟩

/-- A time of the years 1 to 9999. -/
structure Real (c : CivilTime) : Prop where
  year : 1 ≤ c.date.year ∧ c.date.year ≤ 9999
  date : c.date.Real
  hour : c.hour < 24
  minute : c.minute < 60
  second : c.second < 60

/-- The days from the start of 1970 to a date. -/
def days (d : Date) : Int := d.dayNumber - (Date.dayNumber ⟨1970, 1, 1⟩ : Nat)

/-- The seconds from the start of 1970, and the nanoseconds after them. -/
def timestamp (c : CivilTime) : Timestamp where
  seconds := ((days c.date * 24 + c.hour) * 60 + c.minute) * 60 + c.second
  nanos := (Text.decimalValue c.fraction * 10 ^ (9 - c.fraction.length) : Nat)

theorem mark?_cons (mark : Char) (t : List Char) : mark? mark (mark :: t) = some t := if_pos rfl

/-- Numbers that fit are read back from what is written. -/
theorem date?_text {d : Date} (hyear : d.year < 10 ^ 4) (hmonth : d.month < 10 ^ 2)
    (hday : d.day < 10 ^ 2) (t : List Char) : date? (d.text.toList ++ t) = some (d, t) := by
  have htext : d.text.toList ++ t =
      (Time.padded 4 d.year).toList ++ ('-' :: ((Time.padded 2 d.month).toList ++
        ('-' :: ((Time.padded 2 d.day).toList ++ t)))) := by
    unfold Date.text
    simp only [String.toList_append, List.append_assoc]
    rfl
  rw [htext]
  simp only [date?, mark?_cons, Time.number?_padded (by decide : 0 < 4) hyear,
    Time.number?_padded (by decide : 0 < 2) hmonth, Time.number?_padded (by decide : 0 < 2) hday,
    Option.bind_eq_bind, Option.bind_some]

/-- The parts one after the other, with the marks between them. -/
def print (c : CivilTime) : List Char :=
  c.date.text.toList ++ ('T' :: ((Time.padded 2 c.hour).toList ++ (':' ::
    ((Time.padded 2 c.minute).toList ++ (':' :: ((Time.padded 2 c.second).toList ++
      (Time.pointed c.fraction ++ ['Z'])))))))

theorem ofText?_print {c : CivilTime} (h : c.Real)
    (hfraction : ∀ d ∈ c.fraction, Text.isDigit d = true) : ofText? c.print = some c := by
  have hmonth := h.date.month
  have hday := h.date.day
  have hlength := Date.daysInMonth_le c.date.year c.date.month
  have hdate := date?_text (d := c.date) (by have := h.year; omega) (by omega) (by omega)
  have hhour : c.hour < 10 ^ 2 := by have := h.hour; omega
  have hminute : c.minute < 10 ^ 2 := by have := h.minute; omega
  have hsecond : c.second < 10 ^ 2 := by have := h.second; omega
  have htwo : 0 < 2 := by decide
  simp only [ofText?, print, hdate, mark?_cons, Time.number?_padded htwo hhour,
    Time.number?_padded htwo hminute, Time.number?_padded htwo hsecond,
    Time.fraction?_pointed (by decide : 'Z' ≠ '.') (by decide) hfraction,
    Option.bind_eq_bind, Option.bind_some]

end CivilTime

/-! ## 2. Times as they are written -/

namespace Timestamp

/-- The time of a second, counted from 1 March of the year 0. -/
def civilTime (second : Nat) (fraction : List Char) : CivilTime where
  date := Date.ofDays (second / secondsPerDay)
  hour := second % secondsPerDay / 3600
  minute := second % secondsPerDay / 60 % 60
  second := second % secondsPerDay % 60
  fraction := fraction

theorem dayNumber_epoch : Date.dayNumber ⟨1970, 1, 1⟩ = epochDays + 60 := by
  have hyears := Date.daysBefore_eq 1970
  have hjanuary : Date.daysBeforeMonth 1970 1 = 0 := rfl
  unfold Date.dayNumber epochDays
  dsimp only
  omega

/-- The first of January of the year 1 and the last of December of the year 9999 are the limits. -/
theorem year_bounds {n : Nat} (hlow : 306 ≤ n) (hhigh : n < 3652365) :
    1 ≤ (Date.ofDays n).year ∧ (Date.ofDays n).year ≤ 9999 := by
  obtain ⟨hreal, hnumber⟩ := Date.ofDays_spec n
  have hbounds := hreal.dayNumber_bounds
  have hone := Date.daysBefore_eq 1
  have hlast := Date.daysBefore_eq 10000
  constructor
  · -- The year 0 is over before the first day.
    by_contra hyear
    have hmono := Date.daysBefore_mono (by omega : (Date.ofDays n).year + 1 ≤ 1)
    omega
  · -- The year 10000 starts after the last one.
    by_contra hyear
    have hmono := Date.daysBefore_mono (by omega : 10000 ≤ (Date.ofDays n).year)
    omega

theorem civilTime_real {second : Nat} (hlow : 306 * secondsPerDay ≤ second)
    (hhigh : second < 3652365 * secondsPerDay) (fraction : List Char) :
    (civilTime second fraction).Real := by
  unfold secondsPerDay at hlow hhigh
  refine ⟨year_bounds ?_ ?_, (Date.ofDays_spec _).1, ?_, ?_, ?_⟩
  · show 306 ≤ second / 86400
    omega
  · show second / 86400 < 3652365
    omega
  · show second % 86400 / 3600 < 24
    omega
  · show second % 86400 / 60 % 60 < 60
    omega
  · show second % 86400 % 60 < 60
    omega

theorem seconds_civilTime (second : Nat) (fraction : List Char) :
    (civilTime second fraction).timestamp.seconds = second - epochDays * secondsPerDay := by
  have hnumber := (Date.ofDays_spec (second / secondsPerDay)).2
  show (((((Date.dayNumber (Date.ofDays (second / secondsPerDay)) : Nat) : Int) -
      (Date.dayNumber ⟨1970, 1, 1⟩ : Nat)) * 24 + (second % secondsPerDay / 3600 : Nat)) * 60 +
        (second % secondsPerDay / 60 % 60 : Nat)) * 60 + (second % secondsPerDay % 60 : Nat) = _
  rw [hnumber, dayNumber_epoch]
  -- Hours, minutes and seconds make up the second of the day.
  unfold secondsPerDay
  omega

theorem text_eq_ok {t : Timestamp} {s : String} (h : t.text = .ok s) :
    t.InRange ∧ ∃ ds, Time.IsFraction ds t.nanos.toNat ∧
      s.toList = (civilTime (t.seconds + epochDays * secondsPerDay).toNat ds).print := by
  have hrange : t.InRange := exists_text_iff.1 ⟨s, h⟩
  obtain ⟨hseconds, hnanos⟩ := hrange
  rw [text, if_neg (not_or.2 ⟨not_lt.2 hseconds.1, not_lt.2 hseconds.2⟩),
    if_neg (not_or.2 ⟨not_lt.2 hnanos.1, not_le.2 hnanos.2⟩)] at h
  obtain rfl := Except.ok.inj h
  have hless : t.nanos.toNat < Time.nanosPerSecond := by omega
  obtain ⟨ds, hfraction, hds⟩ := Time.exists_fraction hless
  refine ⟨⟨hseconds, hnanos⟩, ds, hds, ?_⟩
  unfold timeOfDay CivilTime.print
  simp only [String.toList_append, hfraction, List.append_assoc]
  rfl

/-- The text is read as the time that it is written from. -/
theorem ofText?_text {t : Timestamp} {s : String} (h : t.text = .ok s) :
    ∃ c, CivilTime.ofText? s.toList = some c ∧ c.Real ∧
      Time.IsFraction c.fraction t.nanos.toNat ∧ c.timestamp = t := by
  obtain ⟨⟨hseconds, hnanos⟩, ds, hds, hs⟩ := text_eq_ok h
  -- The first and the last day that are written, counted from 1 March of the year 0.
  have hlow : minSeconds = 306 * secondsPerDay - epochDays * secondsPerDay := by decide
  have hhigh : maxSeconds + 1 = 3652365 * secondsPerDay - epochDays * secondsPerDay := by decide
  let second := (t.seconds + epochDays * secondsPerDay).toNat
  have hreal : (civilTime second ds).Real := civilTime_real (by omega) (by omega) ds
  refine ⟨civilTime second ds, ?_, hreal, hds, ?_⟩
  · rw [hs]
    exact CivilTime.ofText?_print hreal hds.digits
  · have hsecond : (civilTime second ds).timestamp.seconds = t.seconds := by
      rw [seconds_civilTime]
      omega
    have hnano : (civilTime second ds).timestamp.nanos = t.nanos := by
      have hvalue : (civilTime second ds).timestamp.nanos =
          ((Text.decimalValue ds * 10 ^ (9 - ds.length) : Nat) : Int) := rfl
      rw [hvalue, hds.value]
      omega
    exact (mk.injEq ..).mpr ⟨hsecond, hnano⟩

/-- Timestamps with one text are one timestamp. -/
theorem text_inj {t u : Timestamp} {s : String} (ht : t.text = .ok s) (hu : u.text = .ok s) :
    t = u := by
  obtain ⟨c, hc, -, -, hct⟩ := ofText?_text ht
  obtain ⟨d, hd, -, -, hdu⟩ := ofText?_text hu
  obtain rfl := Option.some.inj (hc.symm.trans hd)
  exact hct.symm.trans hdu

/-- A timestamp has a text exactly if it is in range.  The text is that of a date and a time of day
of the calendar, with a fraction as short as it can be, and they give the timestamp back. -/
theorem text_decodes (t : Timestamp) :
    ((∃ s, t.text = .ok s) ↔ -62135596800 ≤ t.seconds ∧ t.seconds ≤ 253402300799 ∧
      0 ≤ t.nanos ∧ t.nanos < 1000000000) ∧
    ∀ s, t.text = .ok s → ∃ c, CivilTime.ofText? s.toList = some c ∧ c.Real ∧
      Time.IsFraction c.fraction t.nanos.toNat ∧ c.timestamp = t := by
  refine ⟨exists_text_iff.trans ?_, fun s h => ofText?_text h⟩
  constructor
  · intro h
    exact ⟨h.seconds.1, h.seconds.2, h.nanos.1, h.nanos.2⟩
  · intro h
    exact ⟨⟨h.1, h.2.1⟩, h.2.2.1, h.2.2.2⟩

/-- A leap day that is long before 1970, at its last second. -/
theorem leapDay_decodes :
    (⟨-11670912001, 500000000⟩ : Timestamp).text = .ok "1600-02-29T23:59:59.500Z" ∧
      ∃ c, CivilTime.ofText? "1600-02-29T23:59:59.500Z".toList = some c ∧ c.Real ∧
        Time.IsFraction c.fraction 500000000 ∧ c.timestamp = ⟨-11670912001, 500000000⟩ := by
  have htext : (⟨-11670912001, 500000000⟩ : Timestamp).text = .ok "1600-02-29T23:59:59.500Z" := by
    rfl
  exact ⟨htext, (text_decodes ⟨-11670912001, 500000000⟩).2 _ htext⟩

end Timestamp

end ProtoSchema
