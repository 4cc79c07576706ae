import Mathlib
import ProtoSchema.Time.Duration
import ProtoSchema.Time.Timestamp

/-!
# Durations and timestamps in range

A duration or a timestamp has a text exactly if it is in range.
-/

namespace ProtoSchema

/-- At most ten thousand years, less than a second of nanoseconds, and no two signs. -/
structure Duration.InRange (d : Duration) : Prop where
  seconds : d.seconds.natAbs ≤ maxSeconds
  nanos : d.nanos.natAbs < Time.nanosPerSecond
  signs : ¬ (0 < d.seconds ∧ d.nanos < 0) ∧ ¬ (d.seconds < 0 ∧ 0 < d.nanos)

/-- A second of the years 1 to 9999, and less than a second of nanoseconds after it. -/
structure Timestamp.InRange (t : Timestamp) : Prop where
  seconds : minSeconds ≤ t.seconds ∧ t.seconds ≤ maxSeconds
  nanos : 0 ≤ t.nanos ∧ t.nanos < Time.nanosPerSecond

theorem Duration.exists_text_iff {d : Duration} : (∃ s, d.text = .ok s) ↔ d.InRange := by
  unfold text
  constructor
  · rintro ⟨s, hs⟩
    split at hs
    next => cases hs
    next hseconds =>
      split at hs
      next => cases hs
      next hnanos =>
        split at hs
        next => cases hs
        next hsigns => exact ⟨not_lt.1 hseconds, not_le.1 hnanos, not_or.1 hsigns⟩
  · rintro ⟨hseconds, hnanos, hsigns⟩
    rw [if_neg (not_lt.2 hseconds), if_neg (not_le.2 hnanos), if_neg (not_or.2 hsigns)]
    exact ⟨_, rfl⟩

theorem Timestamp.exists_text_iff {t : Timestamp} : (∃ s, t.text = .ok s) ↔ t.InRange := by
  unfold text
  constructor
  · rintro ⟨s, hs⟩
    split at hs
    next => cases hs
    next hseconds =>
      split at hs
      next => cases hs
      next hnanos =>
        rw [not_or, not_lt, not_lt] at hseconds
        rw [not_or, not_lt, not_le] at hnanos
        exact ⟨hseconds, hnanos⟩
  · rintro ⟨hseconds, hnanos⟩
    rw [if_neg (not_or.2 ⟨not_lt.2 hseconds.1, not_lt.2 hseconds.2⟩),
      if_neg (not_or.2 ⟨not_lt.2 hnanos.1, not_le.2 hnanos.2⟩)]
    exact ⟨_, rfl⟩

end ProtoSchema
