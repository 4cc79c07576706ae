import ProtoSchema.Proofs.Pattern.Preservation
import ProtoSchema.Proofs.Unicode.Folding

/-!
# Classes of ASCII where case is ignored

A class can be written in two ways: part by part, or from the ranges of its set.  The set is folded
as a whole.  Of the parts, characters are written in both cases, and so are ranges within the letters
of one case; named classes and other ranges are written as they are.  So the two ways agree where
every letter that is missing in the other case is made up for by another part.
-/

namespace ProtoSchema.Pattern

open Grammar Unicode

/-! ## 1. Classes and their parts -/

/-- The class is made of characters, ranges and named classes of ASCII, none of them negated. -/
inductive ClassBody.IsAscii : ClassBody → Prop
  | empty (span : Span) : IsAscii (.empty span)
  | literal {l : Literal} (h : l.char.toNat < 0x80) : IsAscii (.literal l)
  | range {span : Span} {lo hi : Literal} (h : lo.char ≤ hi.char) (hhi : hi.char.toNat < 0x80) :
      IsAscii (.range span lo hi)
  | ascii (span : Span) (kind : AsciiClass) : IsAscii (.ascii span false kind)
  | nested {span : Span} {body : ClassBody} (h : IsAscii body) : IsAscii (.nested span false body)
  | union {span : Span} {members : List ClassBody} (h : ∀ b ∈ members, IsAscii b) :
      IsAscii (.union span members)

/-- Both ends of a range are letters of one case. -/
def OneCase (lo hi : Char) : Prop :=
  (isAsciiLower lo = true ∧ isAsciiLower hi = true) ∨
    (isAsciiUpper lo = true ∧ isAsciiUpper hi = true)

/-- A code point belongs to a part of the class as it stands; with `folded`, to a part that is
written in both cases. -/
inductive ClassBody.Has (folded : Bool) : ClassBody → Nat → Prop
  | literal (l : Literal) : Has folded (.literal l) l.char.toNat
  | range {span : Span} {lo hi : Literal} {n : Nat} (h : folded = true → OneCase lo.char hi.char)
      (hn : n ∈ charRange lo.char hi.char) : Has folded (.range span lo hi) n
  | ascii {span : Span} {kind : AsciiClass} {lo hi : Char} {n : Nat} (h : folded = false)
      (hr : (lo, hi) ∈ kind.ranges) (hn : n ∈ charRange lo hi) :
      Has folded (.ascii span false kind) n
  | nested {span : Span} {body : ClassBody} {n : Nat} (h : Has folded body n) :
      Has folded (.nested span false body) n
  | union {span : Span} {members : List ClassBody} {b : ClassBody} {n : Nat} (hb : b ∈ members)
      (h : Has folded b n) : Has folded (.union span members) n

/-- What a part takes that is written in both cases, it takes as it stands. -/
theorem ClassBody.Has.plain {body : ClassBody} {folded : Bool} {n : Nat} (h : body.Has folded n) :
    body.Has false n := by
  induction h with
  | literal l => exact .literal l
  | range _ hn => exact .range nofun hn
  | ascii _ hr hn => exact .ascii rfl hr hn
  | nested _ ih => exact .nested ih
  | union hb _ ih => exact .union hb ih

section

variable {folded : Bool} {n : Nat}

theorem literal_has_iff {l : Literal} : (ClassBody.literal l).Has folded n ↔ n = l.char.toNat := by
  constructor
  · rintro ⟨⟩
    rfl
  · rintro rfl
    exact .literal l

theorem range_has_iff {span : Span} {lo hi : Literal} :
    (ClassBody.range span lo hi).Has false n ↔ n ∈ charRange lo.char hi.char := by
  constructor
  · rintro (_ | ⟨-, hn⟩)
    exact hn
  · exact fun hn => .range nofun hn

theorem range_has_folded_iff {span : Span} {lo hi : Literal} :
    (ClassBody.range span lo hi).Has true n ↔
      OneCase lo.char hi.char ∧ n ∈ charRange lo.char hi.char := by
  constructor
  · rintro (_ | ⟨hcase, hn⟩)
    exact ⟨hcase rfl, hn⟩
  · exact fun hn => .range (fun _ => hn.1) hn.2

theorem ascii_has_iff {span : Span} {kind : AsciiClass} :
    (ClassBody.ascii span false kind).Has false n ↔
      ∃ r ∈ kind.ranges, n ∈ charRange r.1 r.2 := by
  constructor
  · rintro (_ | _ | ⟨-, hr, hn⟩)
    exact ⟨_, hr, hn⟩
  · rintro ⟨⟨lo, hi⟩, hr, hn⟩
    exact .ascii rfl hr hn

theorem nested_has_iff {span : Span} {body : ClassBody} :
    (ClassBody.nested span false body).Has folded n ↔ body.Has folded n := by
  constructor
  · rintro ⟨⟩
    assumption
  · exact .nested

theorem union_has_iff {span : Span} {members : List ClassBody} :
    (ClassBody.union span members).Has folded n ↔ ∃ b ∈ members, b.Has folded n := by
  constructor
  · rintro (_ | _ | _ | _ | ⟨hb, hn⟩)
    exact ⟨_, hb, hn⟩
  · rintro ⟨b, hb, hn⟩
    exact .union hb hn

end

/-! ## 2. The parts in both cases -/

/-- A character of ASCII is written once if it is no letter, and in both cases if it is one. -/
theorem mem_caseForms {c : Char} (hc : c.toNat < 0x80) {ignoreCase : Bool} {n : Nat} :
    (∃ d ∈ caseForms ignoreCase c, n = d.toNat) ↔
      n = c.toNat ∨ ignoreCase = true ∧ n = otherCase c.toNat := by
  have hforms : ∀ k < 0x80, (caseForms true (Char.ofNat k)).map Char.toNat =
      if otherCase k = k then [k] else [k, otherCase k] := by
    decide
  cases ignoreCase with
  | false => simp [caseForms]
  | true =>
    have hmem : (∃ d ∈ caseForms true c, n = d.toNat) ↔ n ∈ (caseForms true c).map Char.toNat := by
      simp only [List.mem_map, eq_comm]
    have hc' := hforms c.toNat hc
    rw [Char.ofNat_toNat] at hc'
    rw [hmem, hc']
    split
    · rename_i heq
      simp [heq]
    · simp

theorem membersTake_range {lo hi : Char} {ms : List ClassMember} {n : Nat} :
    MembersTake (.range (.char lo) (.char hi) :: ms) n ↔
      (lo.toNat ≤ n ∧ n ≤ hi.toNat) ∨ MembersTake ms n :=
  List.exists_mem_cons_iff _ _ _

theorem membersTake_nil {n : Nat} : ¬ MembersTake [] n := by
  rintro ⟨x, hx, -⟩
  exact absurd hx List.not_mem_nil

/-- A range within the letters of one case is also written in the other case. -/
theorem membersTake_rangeMembers {lo hi : Char} {ignoreCase : Bool} {n : Nat} :
    MembersTake (rangeMembers ignoreCase lo hi) n ↔ n ∈ charRange lo hi ∨
      ignoreCase = true ∧ OneCase lo hi ∧ otherCase n ∈ charRange lo hi := by
  have hrange : ∀ k, k ∈ charRange lo hi ↔ lo.toNat ≤ k ∧ k ≤ hi.toNat := fun k => Iff.rfl
  unfold rangeMembers
  rw [membersTake_range, hrange, hrange]
  refine or_congr_right ?_
  split
  next h =>
    simp only [Bool.and_eq_true] at h
    obtain ⟨⟨hi', hlo⟩, hhi⟩ := h
    have hlo' := toNat_toUpper hlo
    have hhi' := toNat_toUpper hhi
    have hcase : OneCase lo hi := .inl ⟨hlo, hhi⟩
    rw [membersTake_range, or_iff_left membersTake_nil, and_iff_right hi', and_iff_right hcase]
    rw [isAsciiLower_iff] at hlo hhi
    unfold otherCase
    split_ifs <;> omega
  next h =>
    split
    next h' =>
      simp only [Bool.and_eq_true] at h'
      obtain ⟨⟨hi', hlo⟩, hhi⟩ := h'
      have hlo' := toNat_toLower hlo
      have hhi' := toNat_toLower hhi
      have hcase : OneCase lo hi := .inr ⟨hlo, hhi⟩
      rw [membersTake_range, or_iff_left membersTake_nil, and_iff_right hi', and_iff_right hcase]
      rw [isAsciiUpper_iff] at hlo hhi
      unfold otherCase
      split_ifs <;> omega
    next h' =>
      refine iff_of_false membersTake_nil ?_
      rintro ⟨rfl, ⟨hlo, hhi⟩ | ⟨hlo, hhi⟩, -⟩
      · exact h (by rw [hlo, hhi]; rfl)
      · exact h' (by rw [hlo, hhi]; rfl)

/-- How a class is written part by part: in code units, each part as it stands or in both cases. -/
structure ClassBody.Writes (ignoreCase : Bool) (body : ClassBody) (ms : List ClassMember) :
    Prop where
  members : body.members? ignoreCase = some ms
  fits : ∀ x ∈ ms, x.Fits .units
  takes : ∀ n < 0x80, MembersTake ms n ↔
    body.Has false n ∨ ignoreCase = true ∧ body.Has true (otherCase n)

theorem writes_nil {body : ClassBody} {ignoreCase : Bool} (hm : body.members? ignoreCase = some [])
    (hnone : ∀ folded n, ¬ body.Has folded n) : body.Writes ignoreCase [] := by
  refine ⟨hm, List.forall_mem_nil _, fun n _ => iff_of_false membersTake_nil ?_⟩
  rintro (h | ⟨-, h⟩)
  · exact hnone _ _ h
  · exact hnone _ _ h

theorem unionMembers?_writes {members : List ClassBody} {ignoreCase : Bool} (span : Span)
    (h : ∀ b ∈ members, ∃ ms, b.Writes ignoreCase ms) :
    ∃ ms, (ClassBody.union span members).Writes ignoreCase ms := by
  induction members with
  | nil =>
    refine ⟨[], writes_nil rfl fun folded n h => ?_⟩
    obtain ⟨b, hb, -⟩ := union_has_iff.1 h
    exact absurd hb List.not_mem_nil
  | cons b rest ih =>
    obtain ⟨hb, hrest⟩ := List.forall_mem_cons.1 h
    obtain ⟨bs, hbs⟩ := hb
    obtain ⟨rs, hrs⟩ := ih hrest
    refine ⟨bs ++ rs, ?_, ?_, fun n hn => ?_⟩
    · have hrs' : ClassBody.unionMembers? ignoreCase rest = some rs := hrs.members
      rw [ClassBody.members?, ClassBody.unionMembers?, hbs.members, hrs']
      rfl
    · exact List.forall_mem_append.2 ⟨hbs.fits, hrs.fits⟩
    · rw [membersTake_append, hbs.takes n hn, hrs.takes n hn]
      simp only [union_has_iff, List.exists_mem_cons_iff]
      rw [and_or_left, or_or_or_comm]

theorem literal_writes {l : Literal} (hl : l.char.toNat < 0x80) (ignoreCase : Bool) :
    (ClassBody.literal l).Writes ignoreCase
      ((caseForms ignoreCase l.char).map fun c => .single (.char c)) := by
  refine ⟨rfl, fun x hx => ?_, fun n _ => ?_⟩
  · obtain ⟨d, hd, rfl⟩ := List.mem_map.1 hx
    apply Mode.takes_of_le
    rcases (mem_caseForms hl).1 ⟨d, hd, rfl⟩ with heq | ⟨-, heq⟩
    · omega
    · have hlt := otherCase_lt hl
      omega
  · have htake : MembersTake ((caseForms ignoreCase l.char).map fun c => .single (.char c)) n ↔
        ∃ d ∈ caseForms ignoreCase l.char, n = d.toNat := by
      simp only [MembersTake, List.mem_map, exists_exists_and_eq_and]
      exact Iff.rfl
    have hother : otherCase n = l.char.toNat ↔ n = otherCase l.char.toNat := by
      constructor
      · intro h
        rw [← h, otherCase_otherCase]
      · intro h
        rw [h, otherCase_otherCase]
    rw [htake, mem_caseForms hl, literal_has_iff, literal_has_iff, hother]

theorem range_writes {lo hi : Literal} (h : lo.char ≤ hi.char) (hhi : hi.char.toNat < 0x80)
    (span : Span) (ignoreCase : Bool) :
    (ClassBody.range span lo hi).Writes ignoreCase
      (rangeMembers ignoreCase lo.char hi.char) := by
  have hle : lo.char.toNat ≤ hi.char.toNat := h
  refine ⟨rfl, ?_, fun n _ => ?_⟩
  · exact rangeMembers_fits h (Mode.takes_of_le _ (by omega)) (Mode.takes_of_le _ (by omega))
  · rw [membersTake_rangeMembers, range_has_iff, range_has_folded_iff]

theorem ascii_writes (span : Span) (kind : AsciiClass) (ignoreCase : Bool) :
    (ClassBody.ascii span false kind).Writes ignoreCase
      (kind.ranges.map fun (lo, hi) => charMember lo hi) := by
  refine ⟨rfl, ascii_fits _ kind, fun n _ => ?_⟩
  have hnot : ¬ (ClassBody.ascii span false kind).Has true (otherCase n) := nofun
  rw [ascii_has_iff, or_iff_left fun h => hnot h.2]
  simp only [MembersTake, List.mem_map, exists_exists_and_eq_and, charMember_takes]

/-- Every class of ASCII can be written part by part. -/
theorem ClassBody.IsAscii.writes {body : ClassBody} (h : body.IsAscii) (ignoreCase : Bool) :
    ∃ ms, body.Writes ignoreCase ms := by
  induction h with
  | empty span => exact ⟨[], writes_nil rfl fun folded n h => by cases h⟩
  | literal hl => exact ⟨_, literal_writes hl ignoreCase⟩
  | range hle hhi => exact ⟨_, range_writes hle hhi _ ignoreCase⟩
  | ascii span kind => exact ⟨_, ascii_writes span kind ignoreCase⟩
  | nested _ ih =>
    obtain ⟨ms, hms⟩ := ih
    refine ⟨ms, hms.members, hms.fits, fun n hn => ?_⟩
    rw [nested_has_iff, nested_has_iff]
    exact hms.takes n hn
  | union _ ih => exact unionMembers?_writes _ ih

/-! ## 3. The set of a class -/

/-- Two code points are the same or, where case is ignored, differ in case only. -/
def Resembles (ignoreCase : Bool) (n m : Nat) : Prop := n = m ∨ ignoreCase = true ∧ Alike n m

/-- The set holds the code points with a property of ASCII, and others only if they resemble one. -/
structure Carries (ignoreCase : Bool) (P : Nat → Prop) (s : CodeSet) : Prop where
  tidy : s.Tidy 0
  holds : ∀ n, P n → n ∈ s
  only : ∀ n ∈ s, ∃ m < 0x80, P m ∧ Resembles ignoreCase n m

/-- Folded or not, the set carries the property, and folding makes it hold all that resembles. -/
theorem Carries.fold {ignoreCase : Bool} {P : Nat → Prop} {s : CodeSet}
    (h : Carries ignoreCase P s) : Carries ignoreCase P (finishSet ignoreCase false s) ∧
      ∀ n, n ∈ finishSet ignoreCase false s ↔ ∃ m < 0x80, P m ∧ Resembles ignoreCase n m := by
  cases ignoreCase with
  | false =>
    refine ⟨h, fun n => ⟨h.only n, ?_⟩⟩
    rintro ⟨m, -, hm, rfl | ⟨hfalse, -⟩⟩
    · exact h.holds n hm
    · cases hfalse
  | true =>
    have halike : ∀ {n m : Nat}, Resembles true n m → Alike n m := by
      rintro n m (rfl | ⟨-, hnm⟩)
      · exact .inl rfl
      · exact hnm
    have hmem : ∀ n, n ∈ s.caseClosure ↔ ∃ m < 0x80, P m ∧ Resembles true n m := by
      intro n
      rw [CodeSet.mem_caseClosure]
      constructor
      · rintro ⟨k, hk, hnk⟩
        obtain ⟨m, hlt, hm, hkm⟩ := h.only k hk
        exact ⟨m, hlt, hm, .inr ⟨rfl, hnk.trans (halike hkm) hlt⟩⟩
      · rintro ⟨m, -, hm, hnm⟩
        exact ⟨m, h.holds m hm, halike hnm⟩
    have hascii : ∀ n ∈ s, FoldsToAscii n := by
      intro n hn
      obtain ⟨m, hlt, -, hnm⟩ := h.only n hn
      exact (halike hnm).foldsToAscii hlt
    refine ⟨⟨h.tidy.caseClosure hascii 0, fun n hn => ?_, fun n hn => (hmem n).1 hn⟩, hmem⟩
    exact CodeSet.mem_caseClosure.2 ⟨n, h.holds n hn, .inl rfl⟩

theorem Carries.union {ignoreCase : Bool} {P Q : Nat → Prop} {s t : CodeSet}
    (hs : Carries ignoreCase P s) (ht : Carries ignoreCase Q t) :
    Carries ignoreCase (fun n => P n ∨ Q n) (s.union t) where
  tidy := hs.tidy.union ht.tidy 0
  holds := fun n hn => CodeSet.mem_union.2 (hn.imp (hs.holds n) (ht.holds n))
  only := by
    intro n hn
    rcases CodeSet.mem_union.1 hn with hn | hn
    · obtain ⟨m, hlt, hm, hnm⟩ := hs.only n hn
      exact ⟨m, hlt, .inl hm, hnm⟩
    · obtain ⟨m, hlt, hm, hnm⟩ := ht.only n hn
      exact ⟨m, hlt, .inr hm, hnm⟩

theorem Carries.congr {ignoreCase : Bool} {P Q : Nat → Prop} {s : CodeSet}
    (h : Carries ignoreCase P s) (hPQ : ∀ n, P n ↔ Q n) : Carries ignoreCase Q s := by
  have heq : P = Q := funext fun n => propext (hPQ n)
  exact heq ▸ h

/-- A tidy set carries what it holds, if that is all of ASCII. -/
theorem carries_of_mem_iff {ignoreCase : Bool} {P : Nat → Prop} {s : CodeSet} (hs : s.Tidy 0)
    (h : ∀ n, n ∈ s ↔ P n) (hP : ∀ n, P n → n < 0x80) : Carries ignoreCase P s where
  tidy := hs
  holds := fun n hn => (h n).2 hn
  only := fun n hn => ⟨n, hP n ((h n).1 hn), (h n).1 hn, .inl rfl⟩

theorem ClassBody.IsAscii.has_lt {body : ClassBody} (h : body.IsAscii) {folded : Bool} {n : Nat}
    (hn : body.Has folded n) : n < 0x80 := by
  have hkind : ∀ kind : AsciiClass, ∀ r ∈ kind.ranges, r.2.toNat < 0x80 := by
    intro kind
    cases kind <;> decide
  induction hn with
  | literal l =>
    cases h with
    | literal hl => exact hl
  | range _ hn =>
    cases h with
    | range _ hhi => exact lt_of_le_of_lt hn.2 hhi
  | ascii _ hr hn => exact lt_of_le_of_lt hn.2 (hkind _ _ hr)
  | nested _ ih =>
    cases h with
    | nested h => exact ih h
  | union hb _ ih =>
    cases h with
    | union h => exact ih (h _ hb)

theorem unionSet_carries {members : List ClassBody} {ignoreCase : Bool}
    (h : ∀ b ∈ members, Carries ignoreCase (b.Has false) (b.codeSet ignoreCase)) :
    Carries ignoreCase (fun n => ∃ b ∈ members, b.Has false n)
      (ClassBody.unionSet ignoreCase members) := by
  induction members with
  | nil =>
    refine carries_of_mem_iff (CodeSet.tidy_empty 0) (fun n => iff_of_false ?_ ?_) ?_
    · rintro hn
      obtain ⟨r, hr, -⟩ := CodeSet.mem_iff.1 hn
      exact absurd hr List.not_mem_nil
    · rintro ⟨b, hb, -⟩
      exact absurd hb List.not_mem_nil
    · rintro n ⟨b, hb, -⟩
      exact absurd hb List.not_mem_nil
  | cons b rest ih =>
    obtain ⟨hb, hrest⟩ := List.forall_mem_cons.1 h
    refine (hb.union (ih hrest)).congr fun n => ?_
    rw [List.exists_mem_cons_iff]

/-- The set of a class carries what its parts take. -/
theorem ClassBody.IsAscii.carries {body : ClassBody} (h : body.IsAscii) (ignoreCase : Bool) :
    Carries ignoreCase (body.Has false) (body.codeSet ignoreCase) := by
  have hlt : ∀ {b : ClassBody}, b.IsAscii → ∀ n, b.Has false n → n < 0x80 :=
    fun hb _ hn => hb.has_lt hn
  induction h with
  | empty span =>
    refine (unionSet_carries (List.forall_mem_nil _)).congr fun n => iff_of_false ?_ nofun
    rintro ⟨b, hb, -⟩
    exact absurd hb List.not_mem_nil
  | @literal l hl =>
    have hvalid := isValidChar_toNat l.char
    refine carries_of_mem_iff (CodeSet.tidy_single 0 ⟨le_rfl, hvalid, hvalid⟩ (.inl ?_))
      (fun n => mem_single.trans ?_) (hlt (.literal hl))
    · change l.char.toNat ≤ 0xFFFF
      omega
    · exact literal_has_iff.symm
  | @range span lo hi hle hhi =>
    refine carries_of_mem_iff (CodeSet.tidy_single 0 ⟨hle, isValidChar_toNat lo.char,
      isValidChar_toNat hi.char⟩ (.inl ?_)) (fun n => ?_) (hlt (.range hle hhi))
    · change hi.char.toNat ≤ 0xFFFF
      omega
    · rw [CodeSet.mem_iff, range_has_iff]
      simp only [ClassBody.codeSet, List.mem_singleton, exists_eq_left]
  | ascii span kind =>
    refine (carries_of_mem_iff (kind.codeSet_tidy 0) (fun n => ?_) (hlt (.ascii span kind))).fold.1
    rw [ascii_has_iff, AsciiClass.codeSet, CodeSet.mem_ofRanges]
    simp only [List.mem_map, exists_exists_and_eq_and]
  | nested _ ih => exact ih.fold.1.congr fun n => nested_has_iff.symm
  | union _ ih => exact (unionSet_carries ih).congr fun n => union_has_iff.symm

/-- In ASCII a folded set holds the code points with the property and the letters that have it in
their other case. -/
theorem Carries.mem_fold_iff {ignoreCase : Bool} {P : Nat → Prop} {s : CodeSet}
    (h : Carries ignoreCase P s) (hP : ∀ n, P n → n < 0x80) {n : Nat} (hn : n < 0x80) :
    n ∈ finishSet ignoreCase false s ↔ P n ∨ ignoreCase = true ∧ P (otherCase n) := by
  rw [h.fold.2]
  constructor
  · rintro ⟨m, hlt, hm, rfl | ⟨hi, halike⟩⟩
    · exact .inl hm
    · rcases (alike_iff hn hlt).1 halike with rfl | rfl
      · exact .inl hm
      · rw [otherCase_otherCase]
        exact .inr ⟨hi, hm⟩
  · rintro (hm | ⟨hi, hm⟩)
    · exact ⟨n, hn, hm, .inl rfl⟩
    · have hlt := hP _ hm
      refine ⟨_, hlt, hm, .inr ⟨hi, (alike_iff hn hlt).2 (.inr ?_)⟩⟩
      exact (otherCase_otherCase n).symm

/-- A property of a class, or what it leaves out. -/
def Signed (negated : Bool) (P : Prop) : Prop := if negated then ¬ P else P

theorem signed_congr {negated : Bool} {P Q : Prop} (h : P ↔ Q) :
    Signed negated P ↔ Signed negated Q := by
  rw [propext h]

theorem signed_iff_signed {negated : Bool} {P Q : Prop} :
    (Signed negated P ↔ Signed negated Q) ↔ (P ↔ Q) := by
  cases negated with
  | false => exact Iff.rfl
  | true => exact not_iff_not

/-- The set is tidy with its sign, and the sign turns membership in ASCII around. -/
theorem Carries.sign {ignoreCase : Bool} {P : Nat → Prop} {s : CodeSet}
    (h : Carries ignoreCase P s) (negated : Bool) :
    (finishSet ignoreCase negated s).Tidy 0xE001 ∧ ∀ n < 0x80,
      (n ∈ finishSet ignoreCase negated s ↔ Signed negated (n ∈ finishSet ignoreCase false s)) := by
  have htidy := h.fold.1.tidy
  cases negated with
  | false => exact ⟨htidy.mono (by decide), fun n _ => Iff.rfl⟩
  | true =>
    refine ⟨(htidy.mono (Nat.zero_le _)).compl le_rfl (by decide), fun n hn => ?_⟩
    have happart : Apart (finishSet ignoreCase false s).ranges :=
      htidy.apart.imp fun hrt => hrt (Nat.zero_le _)
    have hmeet : ∀ r t : CodeRange, ¬ MeetAt n r t := by
      rintro r t ⟨-, -, hn'⟩
      omega
    have hvalid : n.isValidChar := .inl (by omega)
    exact CodeSet.mem_compl happart htidy.proper hvalid (List.pairwise_of_forall hmeet)

/-! ## 4. What the texts accept -/

/-- Whether the text of a class accepts a character. -/
def Accepts (e : Ecma) (c : Char) : Prop := PatternMatches e.text.toList (utf16 [c]) 0 1

theorem accepts_iff {e : Ecma} {c : Char} {P : Char → Prop} (hc : c.toNat < 0x80)
    (hf : e.Fits .units) (he : e.TakesAs [c] P) : Accepts e c ↔ P c := by
  obtain ⟨l, honto, htakes⟩ := he
  have hatoms : (e.onto .empty).quantifiesAtoms = true := by
    rw [honto]
    rfl
  have hbasic : c.toNat ≤ 0xFFFF := by omega
  have hunits : utf16 [c] = [c.toNat] := utf16_eq_map (List.forall_mem_singleton.2 hbasic)
  unfold Accepts
  rw [hf.patternMatches_iff hatoms, honto, matches_single, hunits,
    ← htakes c (List.mem_singleton_self c) hbasic]
  constructor
  · rintro ⟨-, u, hu, hl⟩
    cases hu
    exact hl
  · exact fun hl => ⟨rfl, _, rfl, hl⟩

/-- Written part by part, a class of ASCII is folded part by part. -/
theorem ecmaClass_accepts {body : ClassBody} (h : body.IsAscii) (ignoreCase negated : Bool)
    {c : Char} (hc : c.toNat < 0x80) : Accepts (ecmaClass ignoreCase negated body) c ↔
      Signed negated (body.Has false c.toNat ∨
        ignoreCase = true ∧ body.Has true (otherCase c.toNat)) := by
  obtain ⟨ms, hms⟩ := h.writes ignoreCase
  have hclass : ecmaClass ignoreCase negated body = .set negated ms := by
    unfold ecmaClass
    rw [hms.members]
  rw [hclass]
  refine accepts_iff hc (.set hms.fits) (P := fun c => Signed negated (body.Has false c.toNat ∨
    ignoreCase = true ∧ body.Has true (otherCase c.toNat))) (takesAs_set fun d hd _ => ?_)
  rw [List.mem_singleton] at hd
  subst hd
  exact signed_congr (hms.takes _ hc)

/-- Written from its set, a class of ASCII is folded as a whole. -/
theorem rangesClass_accepts {body : ClassBody} (h : body.IsAscii) (ignoreCase negated : Bool)
    {c : Char} (hc : c.toNat < 0x80) : Accepts (rangesClass ignoreCase negated body) c ↔
      Signed negated (body.Has false c.toNat ∨
        ignoreCase = true ∧ body.Has false (otherCase c.toNat)) := by
  have hcarries := h.carries ignoreCase
  obtain ⟨htidy, hsign⟩ := hcarries.sign negated
  rw [accepts_iff hc (rangesClass_units htidy) (takesAs_rangesClass htidy)]
  have hmem := hcarries.mem_fold_iff (fun n hn => h.has_lt hn) hc
  exact (hsign _ hc).trans (signed_congr hmem)

/-- A class of ASCII is written part by part.  Its text and the one from its set take what the class
takes as it stands and, where case is ignored, letters that it takes in their other case: the latter
text all of them, the former those that a part in both cases takes.  So the two accept the same
characters exactly if every other letter whose other case the class takes is taken as it stands. -/
theorem ecmaClass_agrees_iff {body : ClassBody} (h : body.IsAscii) (ignoreCase negated : Bool) :
    (body.members? ignoreCase).isSome = true ∧
      (∀ c : Char, c.toNat < 0x80 → (Accepts (ecmaClass ignoreCase negated body) c ↔
        Signed negated (body.Has false c.toNat ∨
          ignoreCase = true ∧ body.Has true (otherCase c.toNat)))) ∧
      (∀ c : Char, c.toNat < 0x80 → (Accepts (rangesClass ignoreCase negated body) c ↔
        Signed negated (body.Has false c.toNat ∨
          ignoreCase = true ∧ body.Has false (otherCase c.toNat)))) ∧
      ((∀ c : Char, c.toNat < 0x80 → (Accepts (ecmaClass ignoreCase negated body) c ↔
          Accepts (rangesClass ignoreCase negated body) c)) ↔
        (ignoreCase = true → ∀ c : Char, c.toNat < 0x80 → body.Has false (otherCase c.toNat) →
          body.Has false c.toNat ∨ body.Has true (otherCase c.toNat))) := by
  have hdirect := fun (c : Char) (hc : c.toNat < 0x80) => ecmaClass_accepts h ignoreCase negated hc
  have hset := fun (c : Char) (hc : c.toNat < 0x80) => rangesClass_accepts h ignoreCase negated hc
  refine ⟨?_, hdirect, hset, ?_⟩
  · obtain ⟨ms, hms⟩ := h.writes ignoreCase
    rw [hms.members]
    rfl
  · have hone : ∀ c : Char, c.toNat < 0x80 → ((Accepts (ecmaClass ignoreCase negated body) c ↔
        Accepts (rangesClass ignoreCase negated body) c) ↔ (ignoreCase = true →
          body.Has false (otherCase c.toNat) →
            body.Has false c.toNat ∨ body.Has true (otherCase c.toNat))) := by
      intro c hc
      rw [hdirect c hc, hset c hc, signed_iff_signed]
      have hplain : body.Has true (otherCase c.toNat) → body.Has false (otherCase c.toNat) :=
        fun hn => hn.plain
      tauto
    constructor
    · exact fun hall hi c hc => (hone c hc).1 (hall c hc) hi
    · exact fun hall c hc => (hone c hc).2 fun hi => hall hi c hc

/-- The class of the lower-case letters, which has a name. -/
def lowerLetters : ClassBody := .ascii default false .lower

/-- Where case is ignored, the text of its parts rejects `K` and the text of its set accepts it. -/
theorem lowerLetters_disagrees : lowerLetters.IsAscii ∧
    ¬ Accepts (ecmaClass true false lowerLetters) 'K' ∧
      Accepts (rangesClass true false lowerLetters) 'K' := by
  have hascii : lowerLetters.IsAscii := .ascii default .lower
  obtain ⟨-, hdirect, hset, -⟩ := ecmaClass_agrees_iff hascii true false
  have hK : ('K').toNat < 0x80 := by decide
  rw [hdirect 'K' hK, hset 'K' hK]
  refine ⟨hascii, ?_, .inr ⟨rfl, .ascii rfl List.mem_cons_self ?_⟩⟩
  · rintro (h | ⟨-, h⟩)
    · obtain ⟨r, hr, hn⟩ := ascii_has_iff.1 h
      rw [AsciiClass.ranges, List.mem_singleton] at hr
      subst hr
      exact absurd hn.1 (by decide)
    · cases h with
      | ascii h _ _ => cases h
  · exact ⟨by decide, by decide⟩

end ProtoSchema.Pattern
