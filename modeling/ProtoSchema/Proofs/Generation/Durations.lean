import ProtoSchema.Proofs.Generation.Strings
import ProtoSchema.Proofs.Time.Duration

/-!
# Rules on durations

The schema of a duration compares texts.  Since every text matches the pattern of durations and no
two durations have one text, this comes to comparing the durations themselves.
-/

namespace ProtoSchema

open Pattern.Grammar

/-- The duration satisfies every rule that is given. -/
structure DurationRules.Satisfied (r : DurationRules) (d : Duration) : Prop where
  equals : ∀ c ∈ r.equals, c = d
  allow : r.allow = [] ∨ d ∈ r.allow
  deny : d ∉ r.deny

namespace Generation

open Draft

theorem matches_durationPattern {m : Mode} {δ : Dialect} (hδ : δ.Follows m) {d : Duration}
    {text : String} (hd : d.text = .ok text) : δ.Matches durationPattern text := by
  obtain ⟨r, hr, hselects⟩ := Duration.selects_durationPattern m
  rw [hr]
  exact (hδ.matches_iff hselects).2 (Duration.text_mem_spellings m hd)

/-- A text that is not told apart from one of a duration is told apart from those of all others. -/
theorem durationConforms_iff {m : Mode} {δ : Dialect} (hδ : δ.Follows m) {r : DurationRules}
    {d : Duration} {text : String} (hd : d.text = .ok text) :
    DurationConforms δ r (.string text) ↔ r.Satisfied d := by
  have hsame : ∀ e : Duration, e.text = .ok text ↔ e = d := by
    intro e
    constructor
    · intro he
      exact Duration.text_inj he hd
    · rintro rfl
      exact hd
  have hdenied : (∀ e ∈ r.deny, e.text ≠ .ok text) ↔ d ∉ r.deny := by
    simp only [ne_eq, hsame]
    exact ⟨fun h hmem => h d hmem rfl, fun h e he hed => h (hed ▸ he)⟩
  unfold DurationConforms
  simp only [Json.string.injEq, exists_eq_left', hsame, exists_eq_right, hdenied]
  constructor
  · rintro ⟨-, hequals, hallow, hdeny⟩
    exact ⟨hequals, hallow, hdeny⟩
  · intro h
    exact ⟨matches_durationPattern hδ hd, h.equals, h.allow, h.deny⟩

/-- Of the texts of durations, the schema of durations accepts those of the durations that satisfy
all rules. -/
theorem durationSchema_exact {m : Mode} {δ : Dialect} (hδ : δ.Follows m)
    {o : Option DurationRules} {s : Schema} {ts : List Target} (h : (durationSchema o).Yields s ts)
    (refs : Reference → Json → Prop) {d : Duration} {text : String} (hd : d.text = .ok text) :
    s.Holds δ refs (.string text) ↔ (o.getD {}).Satisfied d := by
  obtain ⟨equals, allow, deny, hequals, hallow, hdeny, rfl, -⟩ := yields_durationSchema h
  exact (holds_durationTexts hequals hallow hdeny).trans (durationConforms_iff hδ hd)

/-- A duration that is both allowed and denied is denied, and another one that is allowed passes. -/
theorem listed_durations_told_apart :
    ∃ s, (durationSchema (some
        { allow := [⟨1, 0⟩, ⟨1, 500000000⟩], deny := [⟨1, 0⟩] })).Yields s [] ∧
      (formatless .units).Follows .units ∧
      (⟨1, 500000000⟩ : Duration).text = .ok "1.500s" ∧ (⟨1, 0⟩ : Duration).text = .ok "1s" ∧
      s.Holds (formatless .units) (fun _ _ => False) (.string "1.500s") ∧
      ¬ s.Holds (formatless .units) (fun _ _ => False) (.string "1s") := by
  have hyields : (durationSchema (some
      { allow := [⟨1, 0⟩, ⟨1, 500000000⟩], deny := [⟨1, 0⟩] })).Yields _ [] := ⟨rfl, rfl⟩
  have hlong : (⟨1, 500000000⟩ : Duration).text = .ok "1.500s" := by rfl
  have hshort : (⟨1, 0⟩ : Duration).text = .ok "1s" := by rfl
  refine ⟨_, hyields, formatless_follows .units, hlong, hshort, ?_, fun hholds => ?_⟩
  · rw [durationSchema_exact (formatless_follows .units) hyields _ hlong]
    exact ⟨nofun, .inr (by decide), by decide⟩
  · rw [durationSchema_exact (formatless_follows .units) hyields _ hshort] at hholds
    exact hholds.deny (List.mem_singleton_self _)

end Generation

end ProtoSchema
