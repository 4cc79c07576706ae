import Mathlib
import ProtoSchema.Schema.Document
import ProtoSchema.Schema.Redirect

/-!
# What schemas accept

The values that a schema accepts under draft-07.  The draft leaves open how patterns match and which
strings have a format, so both are parameters.  References are read by an interpretation; an
interpretation fits a document if it reads each reference as the schema that stands at its place.
-/

namespace ProtoSchema

/-! ## 1. Values -/

/-- The number that a binary number stands for; one that is not finite stands for none. -/
def BinaryFloat.value : BinaryFloat → Option ℚ
  | .finite negative m e => some ((if negative then -1 else 1) * m * 2 ^ e)
  | .infinite _ | .nan => none

namespace Number

def value : Number → Option ℚ
  | .int n => some n
  | .float x => x.value

/-- Two spellings of one number, such as `1` and `1.0`. -/
def Same (a b : Number) : Prop := a.value = b.value

/-- The first number is less than the second. -/
def Less (a b : Number) : Prop := ∃ x y, a.value = some x ∧ b.value = some y ∧ x < y

/-- The first number is at most the second. -/
def AtMost (a b : Number) : Prop := ∃ x y, a.value = some x ∧ b.value = some y ∧ x ≤ y

/-- The number has no fraction. -/
def Integral (n : Number) : Prop := ∃ k : ℤ, n.value = some (k : ℚ)

end Number

namespace Json

mutual

/-- Two spellings of one value: numbers are told apart by what they stand for and objects by their
members, in whatever order these come. -/
def Same : Json → Json → Prop
  | null, null => True
  | bool a, bool b => a = b
  | number a, number b => a.Same b
  | string a, string b => a = b
  | array as, array bs => SameItems as bs
  | object as, object bs => as.length = bs.length ∧ SameMembers as bs
  | _, _ => False

def SameItems : List Json → List Json → Prop
  | [], [] => True
  | a :: as, b :: bs => Same a b ∧ SameItems as bs
  | _, _ => False

def SameMembers : List (String × Json) → List (String × Json) → Prop
  | [], _ => True
  | (k, a) :: rest, bs => (∃ b, (k, b) ∈ bs ∧ Same a b) ∧ SameMembers rest bs

end

end Json

/-- What draft-07 leaves to others: which texts a pattern matches, and which texts have a format. -/
structure Dialect where
  Matches : String → String → Prop
  HasFormat : StringFormat → String → Prop

/-- Exactly one of the statements holds. -/
def ExactlyOne : List Prop → Prop
  | [] => False
  | P :: rest => (P ∧ ∀ Q ∈ rest, ¬ Q) ∨ (¬ P ∧ ExactlyOne rest)

/-- Of distinct alternatives exactly one holds if there is a unique one that does. -/
theorem exactlyOne_map_iff {α : Type} {P : α → Prop} {xs : List α} (hxs : xs.Nodup) :
    ExactlyOne (xs.map P) ↔ ∃! x, x ∈ xs ∧ P x := by
  induction xs with
  | nil => simp [ExactlyOne]
  | cons a rest ih =>
    obtain ⟨ha, hrest⟩ := List.nodup_cons.1 hxs
    rw [List.map_cons, ExactlyOne, ih hrest, List.forall_mem_map]
    constructor
    · rintro (⟨hP, hnone⟩ | ⟨hP, x, ⟨hx, hPx⟩, huniq⟩)
      · refine ⟨a, ⟨List.mem_cons_self, hP⟩, fun y h => ?_⟩
        obtain ⟨hy, hPy⟩ := h
        exact (List.mem_cons.1 hy).resolve_right fun hy => hnone y hy hPy
      · refine ⟨x, ⟨List.mem_cons_of_mem _ hx, hPx⟩, fun y h => ?_⟩
        obtain ⟨hy, hPy⟩ := h
        rcases List.mem_cons.1 hy with rfl | hy
        · exact absurd hPy hP
        · exact huniq y ⟨hy, hPy⟩
    · rintro ⟨x, ⟨hx, hPx⟩, huniq⟩
      by_cases hP : P a
      · have hxa : a = x := huniq a ⟨List.mem_cons_self, hP⟩
        refine .inl ⟨hP, fun y hy hPy => ha ?_⟩
        rw [hxa, ← huniq y ⟨List.mem_cons_of_mem _ hy, hPy⟩]
        exact hy
      · have hxr : x ∈ rest := (List.mem_cons.1 hx).resolve_left fun he => hP (he ▸ hPx)
        have huniq' : ∀ y, y ∈ rest ∧ P y → y = x :=
          fun y h => huniq y ⟨List.mem_cons_of_mem _ h.1, h.2⟩
        exact .inr ⟨hP, x, ⟨hxr, hPx⟩, huniq'⟩

/-- A unique number is the first, or comes after it. -/
theorem existsUnique_nat {p : ℕ → Prop} :
    (∃! i, p i) ↔ (p 0 ∧ ∀ i, ¬ p (i + 1)) ∨ (¬ p 0 ∧ ∃! i, p (i + 1)) := by
  constructor
  · rintro ⟨i, hi, huniq⟩
    cases i with
    | zero => exact .inl ⟨hi, fun j hj => absurd (huniq _ hj) (Nat.succ_ne_zero j)⟩
    | succ i =>
      refine .inr ⟨fun h0 => absurd (huniq 0 h0) (Nat.succ_ne_zero i).symm, i, hi, fun j hj => ?_⟩
      have := huniq (j + 1) hj
      omega
  · rintro (⟨h0, hnone⟩ | ⟨h0, i, hi, huniq⟩)
    · refine ⟨0, h0, fun j hj => ?_⟩
      cases j with
      | zero => rfl
      | succ j => exact absurd hj (hnone j)
    · refine ⟨i + 1, hi, fun j hj => ?_⟩
      cases j with
      | zero => exact absurd hj h0
      | succ j => rw [huniq j hj]

/-- Exactly one of the statements about the elements holds if there is exactly one position of an
element for which it does. -/
theorem exactlyOne_iff_position {α : Type} {P : α → Prop} {xs : List α} :
    ExactlyOne (xs.map P) ↔ ∃! i : ℕ, ∃ x, xs[i]? = some x ∧ P x := by
  induction xs with
  | nil => simp [ExactlyOne]
  | cons a rest ih =>
    have hnone : (∀ Q ∈ rest.map P, ¬ Q) ↔ ∀ i : ℕ, ¬ ∃ x, rest[i]? = some x ∧ P x := by
      rw [List.forall_mem_map]
      simp only [List.mem_iff_getElem?]
      exact ⟨fun h i ⟨x, hi, hx⟩ => h x ⟨i, hi⟩ hx, fun h x ⟨i, hi⟩ hx => h i ⟨x, hi, hx⟩⟩
    have hcons : (∃! i : ℕ, ∃ x, (a :: rest)[i]? = some x ∧ P x) ↔ _ := existsUnique_nat
    rw [List.map_cons, ExactlyOne, ih, hnone, hcons]
    simp only [List.getElem?_cons_zero, List.getElem?_cons_succ, Option.some.injEq,
      exists_eq_left']

theorem exists_mem_map {α β : Type} {f : α → β} {xs : List α} {P : β → Prop} :
    (∃ y ∈ xs.map f, P y) ↔ ∃ x ∈ xs, P (f x) := by
  constructor
  · rintro ⟨y, hy, h⟩
    obtain ⟨x, hx, rfl⟩ := List.mem_map.1 hy
    exact ⟨x, hx, h⟩
  · rintro ⟨x, hx, h⟩
    exact ⟨f x, List.mem_map_of_mem hx, h⟩

/-! ## 2. Keywords of one type -/

/-- The text satisfies the keywords for strings. -/
@[mk_iff]
structure StringKeywords.Admits (δ : Dialect) (s : StringKeywords) (text : String) : Prop where
  equals : ∀ t ∈ s.equals, text = t
  enumeration : s.enumeration = [] ∨ text ∈ s.enumeration
  pattern : ∀ p ∈ s.pattern, δ.Matches p text
  format : ∀ f ∈ s.format, δ.HasFormat f text
  minLength : ∀ k ∈ s.minLength, k ≤ text.length
  maxLength : ∀ k ∈ s.maxLength, text.length ≤ k

/-- The number satisfies the keywords for numbers. -/
@[mk_iff]
structure NumberKeywords.Admits (s : NumberKeywords) (n : Number) : Prop where
  equals : ∀ x ∈ s.equals, n.Same x
  enumeration : s.enumeration = [] ∨ ∃ x ∈ s.enumeration, n.Same x
  minimum : ∀ x ∈ s.minimum, x.AtMost n
  exclusiveMinimum : ∀ x ∈ s.exclusiveMinimum, x.Less n
  maximum : ∀ x ∈ s.maximum, n.AtMost x
  exclusiveMaximum : ∀ x ∈ s.exclusiveMaximum, n.Less x

/-! ## 3. Schemas -/

namespace Schema

variable (δ : Dialect) (refs : Reference → Json → Prop)

mutual

/-- The schema accepts the value, where `refs` says what references accept. -/
def Holds : Schema → Json → Prop
  | always, _ | generic _, _ => True
  | never, _ => False
  | object ⟨_, _, properties, required, additional, names, least, most⟩, v =>
    ∃ members, v = .object members ∧ HoldsNamed properties members ∧
      (∀ x ∈ members, x.1 ∉ properties.map (·.1) → HoldsOption additional x.2) ∧
      (∀ x ∈ members, HoldsOption names (.string x.1)) ∧
      (∀ key ∈ required, ∃ w, (key, w) ∈ members) ∧
      (∀ k ∈ least, k ≤ members.length) ∧ ∀ k ∈ most, members.length ≤ k
  | array ⟨_, _, item, least, most, unique⟩, v =>
    ∃ items, v = .array items ∧ (∀ w ∈ items, HoldsOption item w) ∧
      (∀ k ∈ least, k ≤ items.length) ∧ (∀ k ∈ most, items.length ≤ k) ∧
      (unique = true → items.Pairwise fun a b => ¬ a.Same b)
  | string s, v => ∃ text, v = .string text ∧ s.Admits δ text
  | integer s, v => ∃ n, v = .number n ∧ n.Integral ∧ s.Admits n
  | number s, v => ∃ n, v = .number n ∧ s.Admits n
  | boolean s, v => ∃ b, v = .bool b ∧ ∀ x ∈ s.equals, b = x
  | ref target, v => refs target v
  | allOf operands, v => ∀ P ∈ truths operands v, P
  | anyOf operands, v => ∃ P ∈ truths operands v, P
  | oneOf operands, v => ExactlyOne (truths operands v)
  | not s, v => ¬ Holds s v

/-- Which operands accept the value. -/
def truths : List Schema → Json → List Prop
  | [], _ => []
  | s :: rest, v => Holds s v :: truths rest v

/-- Each member with the name of a property is accepted by the schema of that property. -/
def HoldsNamed : List (String × Schema) → List (String × Json) → Prop
  | [], _ => True
  | (key, s) :: rest, members => (∀ w, (key, w) ∈ members → Holds s w) ∧ HoldsNamed rest members

/-- A schema that is left out accepts everything. -/
def HoldsOption : Option Schema → Json → Prop
  | none, _ => True
  | some s, v => Holds s v

end

variable {δ refs}

theorem truths_eq_map (operands : List Schema) (v : Json) :
    truths δ refs operands v = operands.map fun s => Holds δ refs s v := by
  induction operands with
  | nil => rfl
  | cons s rest ih => rw [truths, ih, List.map_cons]

theorem holdsNamed_iff {properties : List (String × Schema)} {members : List (String × Json)} :
    HoldsNamed δ refs properties members ↔
      ∀ x ∈ properties, ∀ w, (x.1, w) ∈ members → Holds δ refs x.2 w := by
  induction properties with
  | nil => simp [HoldsNamed]
  | cons x rest ih => rw [HoldsNamed, ih, List.forall_mem_cons]

theorem holds_always {v : Json} : Holds δ refs .always v := trivial

theorem not_holds_never {v : Json} : ¬ Holds δ refs .never v := id

theorem holds_string {s : StringKeywords} {v : Json} :
    Holds δ refs (.string s) v ↔ ∃ text, v = .string text ∧ s.Admits δ text := Iff.rfl

theorem holds_oneOf {operands : List Schema} {v : Json} :
    Holds δ refs (.oneOf operands) v ↔ ExactlyOne (operands.map fun s => Holds δ refs s v) := by
  rw [← truths_eq_map]
  exact Iff.rfl

/-! ## 4. Strings -/

@[simp] theorem holds_ofPattern {pattern : String} {v : Json} :
    Holds δ refs (ofPattern pattern) v ↔ ∃ text, v = .string text ∧ δ.Matches pattern text := by
  simp [ofPattern, holds_string, StringKeywords.admits_iff]

@[simp] theorem holds_ofFormat {format : StringFormat} {v : Json} :
    Holds δ refs (ofFormat format) v ↔ ∃ text, v = .string text ∧ δ.HasFormat format text := by
  simp [ofFormat, holds_string, StringKeywords.admits_iff]

@[simp] theorem holds_ofNames {names : List String} {v : Json} :
    Holds δ refs (ofNames names) v ↔ ∃ text, v = .string text ∧ (names = [] ∨ text ∈ names) := by
  simp [ofNames, holds_string, StringKeywords.admits_iff]

@[simp] theorem holds_ofString {s : String} {v : Json} :
    Holds δ refs (ofString s) v ↔ v = .string s := by
  simp [ofString, holds_string, StringKeywords.admits_iff]

/-! ## 5. Combinations -/

theorem holds_allOf {operands : List Schema} {v : Json} :
    Holds δ refs (.allOf operands) v ↔ ∀ s ∈ operands, Holds δ refs s v := by
  show (∀ P ∈ truths δ refs operands v, P) ↔ _
  rw [truths_eq_map, List.forall_mem_map]

theorem holds_anyOf {operands : List Schema} {v : Json} :
    Holds δ refs (.anyOf operands) v ↔ ∃ s ∈ operands, Holds δ refs s v := by
  show (∃ P ∈ truths δ refs operands v, P) ↔ _
  rw [truths_eq_map, exists_mem_map]

theorem isAlways_iff {s : Schema} : s.isAlways = true ↔ s = .always := by
  cases s <;> simp [isAlways]

theorem isNever_iff {s : Schema} : s.isNever = true ↔ s = .never := by
  cases s <;> simp [isNever]

/-- Leaving out operands that always hold makes no difference. -/
theorem forall_mem_filter_isAlways {operands : List Schema} {v : Json} :
    (∀ s ∈ operands.filter (!·.isAlways), Holds δ refs s v) ↔
      ∀ s ∈ operands, Holds δ refs s v := by
  constructor
  · intro h s hs
    by_cases halways : s = .always
    · rw [halways]
      exact holds_always
    · refine h s (List.mem_filter.2 ⟨hs, ?_⟩)
      rw [Bool.not_eq_true', ← Bool.not_eq_true, isAlways_iff]
      exact halways
  · intro h s hs
    exact h s (List.mem_filter.1 hs).1

theorem holds_conjunction {operands : List Schema} {v : Json} :
    Holds δ refs (conjunction operands) v ↔ ∀ s ∈ operands, Holds δ refs s v := by
  unfold conjunction
  split
  next hnever =>
    obtain ⟨s, hs, hsn⟩ := List.any_eq_true.1 hnever
    rw [isNever_iff] at hsn
    subst hsn
    exact iff_of_false not_holds_never fun h => not_holds_never (h _ hs)
  next =>
    rw [← forall_mem_filter_isAlways]
    split
    next he =>
      rw [he]
      exact iff_of_true holds_always (List.forall_mem_nil _)
    next s he =>
      rw [he]
      simp
    next several _ _ => exact holds_allOf

theorem holds_disjunction {operands : List Schema} {v : Json} :
    Holds δ refs (disjunction operands) v ↔ ∃ s ∈ operands, Holds δ refs s v := by
  unfold disjunction
  split
  next => simp [not_holds_never]
  next s => simp
  next several _ _ => exact holds_anyOf

theorem holds_choice {operands : List Schema} {v : Json} :
    Holds δ refs (choice operands) v ↔
      ExactlyOne (operands.map fun s => Holds δ refs s v) := by
  unfold choice
  split
  next => simp [not_holds_never, ExactlyOne]
  next s => simp [ExactlyOne]
  next several _ _ => exact holds_oneOf

/-! ## 6. Redirection -/

mutual

/-- A redirected schema means what it meant, if references are read where they lead. -/
theorem holds_redirect (f : Reference → Reference) (s : Schema) (v : Json) :
    Holds δ refs (s.redirect f) v ↔ Holds δ (fun r => refs (f r)) s v := by
  cases s with
  | object s =>
    obtain ⟨title, description, properties, required, additional, names, least, most⟩ := s
    rw [redirect, Holds, Holds]
    simp only [holds_redirectNamed f properties, holds_redirectOption f additional,
      holds_redirectOption f names, redirectNamed_keys f properties]
  | array s =>
    obtain ⟨title, description, item, least, most, unique⟩ := s
    rw [redirect, Holds, Holds]
    simp only [holds_redirectOption f item]
  | allOf operands => rw [redirect, Holds, Holds, truths_redirect f operands v]
  | anyOf operands => rw [redirect, Holds, Holds, truths_redirect f operands v]
  | oneOf operands => rw [redirect, Holds, Holds, truths_redirect f operands v]
  | not s => rw [redirect, Holds, Holds, holds_redirect f s v]
  | ref target => rw [redirect, Holds, Holds]
  | always | never | generic | string | integer | number | boolean => rw [redirect, Holds, Holds]

theorem truths_redirect (f : Reference → Reference) (operands : List Schema) (v : Json) :
    truths δ refs (redirectAll f operands) v = truths δ (fun r => refs (f r)) operands v := by
  cases operands with
  | nil => rfl
  | cons s rest =>
    rw [redirectAll, truths, truths, truths_redirect f rest v, propext (holds_redirect f s v)]

theorem holds_redirectNamed (f : Reference → Reference) (properties : List (String × Schema))
    (members : List (String × Json)) :
    HoldsNamed δ refs (redirectNamed f properties) members ↔
      HoldsNamed δ (fun r => refs (f r)) properties members := by
  cases properties with
  | nil => rfl
  | cons x rest =>
    obtain ⟨key, s⟩ := x
    rw [redirectNamed, HoldsNamed, HoldsNamed, holds_redirectNamed f rest members]
    simp only [holds_redirect f s]

theorem redirectNamed_keys (f : Reference → Reference) (properties : List (String × Schema)) :
    (redirectNamed f properties).map (·.1) = properties.map (·.1) := by
  cases properties with
  | nil => rfl
  | cons x rest =>
    obtain ⟨key, s⟩ := x
    rw [redirectNamed, List.map_cons, List.map_cons, redirectNamed_keys f rest]

theorem holds_redirectOption (f : Reference → Reference) (o : Option Schema) (v : Json) :
    HoldsOption δ refs (redirectOption f o) v ↔ HoldsOption δ (fun r => refs (f r)) o v := by
  cases o with
  | none => rfl
  | some s => rw [redirectOption, HoldsOption, HoldsOption, holds_redirect f s v]

end

end Schema

/-! ## 7. Documents -/

namespace Document

/-- The schema at a place of a document. -/
def schemaAt? (d : Document) : Reference → Option Schema
  | .root => some d.root
  | .definition key => d.definitions.lookup key
  | .elsewhere .. => none

/-- The interpretation reads each reference as the schema that stands at its place. -/
def Interprets (d : Document) (δ : Dialect) (refs : Reference → Json → Prop) : Prop :=
  ∀ r v, refs r v ↔ ∃ s, d.schemaAt? r = some s ∧ s.Holds δ refs v

end Document

end ProtoSchema
