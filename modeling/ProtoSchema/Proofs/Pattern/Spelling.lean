import ProtoSchema.Proofs.Pattern.Grammar

/-!
# Spellings

How the parts that hold no other parts are read back: characters and code units with their escapes,
classes, and quantifiers.  Each is read as what it was printed from, whatever follows it.
-/

namespace ProtoSchema.Pattern

open Grammar

/-! ## 1. Numbers -/

theorem hexNumber?_zeros (n : Nat) (ds : List Char) :
    hexNumber? (List.replicate n '0' ++ ds) = hexNumber? ds := by
  induction n with
  | zero => rfl
  | succ n ih =>
    rw [List.replicate_succ, List.cons_append]
    exact ih

/-- Capital hexadecimal digits are read back as their number. -/
theorem hexNumber?_toDigits (n : Nat) :
    hexNumber? ((Nat.toDigits 16 n).map Char.toUpper) = some n := by
  have digit : ∀ d < 16, Text.hexValue (Nat.digitChar d).toUpper = some d := by decide
  induction n using Nat.base_induction 16 (by decide) with
  | single d hd =>
    rw [Nat.toDigits_of_lt_base hd]
    change (Text.hexValue _).map (0 * 16 + ·) >>= pure = _
    rw [digit d hd]
    change some (0 * 16 + d) = some d
    rw [Nat.zero_mul, Nat.zero_add]
  | digit n d hd hn ih =>
    rw [← Nat.toDigits_append_toDigits (by decide) hn hd, List.map_append,
      Nat.toDigits_of_lt_base hd, hexNumber?, List.foldlM_append]
    rw [hexNumber?] at ih
    rw [ih]
    change (Text.hexValue _).map (n * 16 + ·) >>= pure = _
    rw [digit d hd]
    change some (n * 16 + d) = some (16 * n + d)
    rw [Nat.mul_comm]

theorem hexDigitsUpper_length {width n : Nat} (hw : 0 < width) (hn : n < 16 ^ width) :
    (hexDigitsUpper width n).length = width := by
  have hle : (Nat.toDigits 16 n).length ≤ width :=
    (Nat.length_toDigits_le_iff (by decide) hw).2 hn
  simp only [hexDigitsUpper, List.length_append, List.length_replicate, List.length_map]
  omega

theorem hexCode?_hexDigitsUpper {width n : Nat} (hw : 0 < width) (hn : n < 16 ^ width)
    (k : List Char) : hexCode? width (hexDigitsUpper width n ++ k) = some (.code n, k) := by
  have hlen := hexDigitsUpper_length hw hn
  have hle : width ≤ (hexDigitsUpper width n ++ k).length := by
    rw [List.length_append]
    omega
  rw [hexCode?, if_pos hle, List.take_left' hlen, List.drop_left' hlen, hexDigitsUpper,
    hexNumber?_zeros, hexNumber?_toDigits]
  rfl

theorem decimalValue_toDigits (n : Nat) : Text.decimalValue (Nat.toDigits 10 n) = n := by
  have step : (fun n d => n * 10 + Text.digitValue d) =
      fun (sofar : Nat) (c : Char) => 10 * sofar + (c.toNat - '0'.toNat) := by
    funext n d
    rw [Text.digitValue, Nat.mul_comm]
  rw [Text.decimalValue, step, ← Nat.ofDigitChars_eq_foldl, Nat.ofDigitChars_ten_toDigits]

theorem isDigit_toDigits {n : Nat} {c : Char} (h : c ∈ Nat.toDigits 10 n) :
    Text.isDigit c = true := by
  have hc : c.isDigit = true := Nat.isDigit_of_mem_toDigits (by decide) (by decide) h
  rw [Char.isDigit, Bool.and_eq_true, decide_eq_true_eq, decide_eq_true_eq] at hc
  rw [Text.isDigit, Bool.and_eq_true, decide_eq_true_eq, decide_eq_true_eq]
  exact hc

/-- The digits of a number end where another character stands. -/
theorem takeWhile_toDigits (n : Nat) {c : Char} (hc : Text.isDigit c = false) (k : List Char) :
    (Nat.toDigits 10 n ++ c :: k).takeWhile Text.isDigit = Nat.toDigits 10 n := by
  rw [List.takeWhile_append_of_pos fun _ h => isDigit_toDigits h,
    List.takeWhile_cons_of_neg (by rw [hc]; decide), List.append_nil]

theorem dropWhile_toDigits (n : Nat) {c : Char} (hc : Text.isDigit c = false) (k : List Char) :
    (Nat.toDigits 10 n ++ c :: k).dropWhile Text.isDigit = c :: k := by
  rw [List.dropWhile_append_of_pos fun _ h => isDigit_toDigits h,
    List.dropWhile_cons_of_neg (by rw [hc]; decide)]

/-! ## 2. Quantifiers -/

/-- Whether the lower bound is below the upper one. -/
def Quantifier.Ordered : Quantifier → Prop
  | between n m => n ≤ m
  | _ => True

theorem isEmpty_toDigits (n : Nat) : (Nat.toDigits 10 n).isEmpty = false :=
  List.isEmpty_eq_false_iff.2 Nat.toDigits_ne_nil

theorem quantifier?_print {q : Quantifier} (hq : q.Ordered) (k : List Char) :
    quantifier? (q.print ++ k) = some (q, k) := by
  have brace : Text.isDigit '}' = false := by decide
  have comma : Text.isDigit ',' = false := by decide
  have assoc : ∀ (n : Nat) (c : Char) (ds : List Char),
      (Nat.toDigits 10 n ++ c :: ds) ++ k = Nat.toDigits 10 n ++ c :: (ds ++ k) :=
    fun n c ds => List.append_assoc ..
  cases q with
  | optional => rfl
  | any => rfl
  | some => rfl
  | exactly n =>
    change braced? ((Nat.toDigits 10 n ++ ['}']) ++ k) = _
    rw [assoc, braced?, takeWhile_toDigits n brace, dropWhile_toDigits n brace,
      isEmpty_toDigits, decimalValue_toDigits]
    rfl
  | atLeast n =>
    change braced? ((Nat.toDigits 10 n ++ [',', '}']) ++ k) = _
    rw [assoc, braced?, takeWhile_toDigits n comma, dropWhile_toDigits n comma,
      isEmpty_toDigits, decimalValue_toDigits]
    rfl
  | between n m =>
    change braced? ((Nat.toDigits 10 n ++ ',' :: (Nat.toDigits 10 m ++ ['}'])) ++ k) = _
    rw [assoc, assoc, braced?, takeWhile_toDigits n comma, dropWhile_toDigits n comma,
      isEmpty_toDigits, decimalValue_toDigits]
    have hle : n ≤ m := hq
    obtain ⟨d, ds, hds⟩ := List.exists_cons_of_ne_nil (Nat.toDigits_ne_nil (n := m) (b := 10))
    -- The upper bound starts with a digit, so the braces are not those of an open bound.
    have hd : d ≠ '}' := by
      rintro rfl
      have hdigit := isDigit_toDigits (n := m) (c := '}') (by rw [hds]; exact List.mem_cons_self)
      rw [brace] at hdigit
      cases hdigit
    have htake := takeWhile_toDigits m brace k
    have hdrop := dropWhile_toDigits m brace k
    have hvalue := decimalValue_toDigits m
    have hempty := isEmpty_toDigits m
    rw [hds] at htake hdrop hvalue hempty
    rw [hds, if_neg Bool.false_ne_true]
    dsimp only [List.cons_append, List.nil_append] at htake hdrop ⊢
    split
    · rename_i heq
      cases heq
    · rename_i heq
      cases heq
      exact absurd rfl hd
    · rename_i j hj heq
      cases heq
      rw [htake, hdrop, hvalue, hempty]
      have hok : ¬(false = true ∨ m < n) := by
        rintro (h | h)
        · cases h
        · omega
      exact if_neg hok
    · rename_i hne
      exact absurd rfl (hne _)

/-! ## 3. Characters -/

/-- Whether a character may stand for itself after a backslash: it has no other meaning there. -/
def standsForItself (c : Char) : Bool :=
  (controlCode? c).isNone && (classEscape? c).isNone && (hexWidth? c).isNone && c != 'p' && c != 'P'

theorem escaped?_self {m : Mode} {identity : List Char} {c : Char} (hc : standsForItself c = true)
    (hi : c ∈ identity) (k : List Char) :
    escaped? m identity (c :: k) = some (.code c.toNat, k) := by
  simp only [standsForItself, Bool.and_eq_true, Option.isNone_iff_eq_none, bne_iff_ne] at hc
  obtain ⟨⟨⟨⟨hcontrol, hclass⟩, hwidth⟩, hp⟩, hP⟩ := hc
  simp only [escaped?, hcontrol, hclass, hwidth]
  rw [if_neg (by rintro ⟨-, h | h⟩ <;> contradiction), if_pos hi]

/-- What makes a list of special characters fit for a place: each of them may be escaped there, and
all that may not stand there unescaped are among them. -/
structure Covers (special reserved identity : List Char) : Prop where
  escapable : special.all (fun c => standsForItself c && identity.contains c) = true
  reserved : reserved.all special.contains = true
  backslash : special.contains '\\' = true

theorem covers_outside : Covers metaOutside syntaxCharacters syntaxCharacters where
  escapable := by decide
  reserved := by decide
  backslash := by decide

theorem covers_inside : Covers metaInside [']', '-'] ('-' :: syntaxCharacters) where
  escapable := by decide
  reserved := by decide
  backslash := by decide

/-- An escaped character is read back. -/
theorem Covers.atom? {special reserved identity : List Char}
    (h : Covers special reserved identity) {m : Mode} {c : Char} (hc : m.takes c = true)
    (k : List Char) :
    atom? m reserved identity (escapeChar special c ++ k) = some (.code c.toNat, k) := by
  unfold escapeChar
  split
  · rename_i hn; subst hn; rfl
  split
  · rename_i hn; subst hn; rfl
  split
  · rename_i hn; subst hn; rfl
  split
  · rename_i hn; subst hn; rfl
  split
  · rename_i hn; subst hn; rfl
  split
  · -- Control characters are written by number, and two digits are enough for them.
    rename_i hcontrol
    have hlt : c.toNat < 16 ^ 2 := by
      rcases hcontrol with h | rfl
      · omega
      · decide
    exact hexCode?_hexDigitsUpper (by decide) hlt k
  split
  · rename_i hspecial
    have hself := List.all_eq_true.1 h.escapable c (List.contains_iff_mem.1 hspecial)
    rw [Bool.and_eq_true, List.contains_iff_mem] at hself
    exact escaped?_self hself.1 hself.2 k
  · rename_i hspecial
    -- A character that is not special stands for itself: all reserved ones are special.
    have hback : c ≠ '\\' := by
      rintro rfl
      exact hspecial h.backslash
    have hres : c ∉ reserved := fun hmem => hspecial (List.all_eq_true.1 h.reserved c hmem)
    change Grammar.atom? m reserved identity (c :: k) = _
    rw [Grammar.atom?, if_neg hback, if_neg]
    rintro (hmem | htakes)
    · exact hres hmem
    · rw [hc] at htakes
      cases htakes

/-- An escaped character does not start with a special one, apart from the backslash. -/
theorem escapeChar_head {special : List Char} {d : Char} (hd : special.contains d = true)
    (hb : d ≠ '\\') (c : Char) (k : List Char) :
    (escapeChar special c ++ k).head? ≠ some d := by
  have escape : ∀ l, ('\\' :: l : List Char).head? ≠ some d := fun l h => hb (by cases h; rfl)
  unfold escapeChar
  repeat' split
  all_goals first
    | exact escape _
    | skip
  rename_i hspecial
  rintro h
  cases h
  exact hspecial hd

/-! ## 4. Classes with a name -/

theorem atom?_classEscape (m : Mode) (reserved identity : List Char) (e : ClassEscape)
    (k : List Char) : atom? m reserved identity (e.print ++ k) = some (.escape e, k) := by
  cases e <;> rfl

/-- A property class ends at the first closing brace. -/
theorem atom?_printProperty (reserved identity : List Char) {negated : Bool} {name : String}
    (hname : '}' ∉ name.toList) (k : List Char) :
    atom? .points reserved identity (printProperty negated name ++ k) =
      some (.property negated name.toList, k) := by
  have letters : ∀ c ∈ name.toList, (c != '}') = true := by
    intro c hc
    rw [bne_iff_ne]
    rintro rfl
    exact hname hc
  have stop : ¬(('}' : Char) != '}') = true := by decide
  -- The name holds no brace, so the first one is the one that was printed after it.
  have hread : propertyName? negated ('{' :: (name.toList ++ '}' :: k)) =
      some (.property negated name.toList, k) := by
    have hdrop : (name.toList ++ '}' :: k).dropWhile (· != '}') = '}' :: k := by
      rw [List.dropWhile_append_of_pos letters]
      exact List.dropWhile_cons_of_neg stop
    have htake : (name.toList ++ '}' :: k).takeWhile (· != '}') = name.toList := by
      have hnil : ('}' :: k).takeWhile (· != '}') = [] := List.takeWhile_cons_of_neg stop
      rw [List.takeWhile_append_of_pos letters, hnil, List.append_nil]
    rw [propertyName?, hdrop, htake]
  have happend : (name.toList ++ ['}']) ++ k = name.toList ++ '}' :: k := List.append_assoc ..
  cases negated with
  | false =>
    change propertyName? false ('{' :: ((name.toList ++ ['}']) ++ k)) = _
    rw [happend, hread]
  | true =>
    change propertyName? true ('{' :: ((name.toList ++ ['}']) ++ k)) = _
    rw [happend, hread]

/-! ## 5. Classes in brackets -/

/-- The code point or code unit at an end of a range. -/
def ClassAtom.code : ClassAtom → Nat
  | char c => c.toNat
  | unit n => n

/-- What an atom of a class needs to be read back. -/
def ClassAtom.Fits (m : Mode) : ClassAtom → Prop
  | char c => m.takes c = true
  | unit n => n ≤ 0xFFFF

def ClassMember.Fits (m : Mode) : ClassMember → Prop
  | single a => a.Fits m
  | range lo hi => lo.Fits m ∧ hi.Fits m ∧ lo.code ≤ hi.code
  | escape _ => True
  | property _ name => m = .points ∧ '}' ∉ name.toList

/-- What a member is read back as. -/
def ClassMember.member : ClassMember → Member
  | single a => .atom (.code a.code)
  | range lo hi => .range lo.code hi.code
  | escape e => .atom (.escape e)
  | property negated name => .atom (.property negated name.toList)

theorem inside?_print {m : Mode} {a : ClassAtom} (ha : a.Fits m) (k : List Char) :
    inside? m (a.print ++ k) = some (.code a.code, k) := by
  cases a with
  | char c => exact covers_inside.atom? ha k
  | unit n =>
    have hn : n ≤ 0xFFFF := ha
    rw [ClassAtom.print]
    split
    · rename_i hlt
      have hvalue : (Char.ofNat n).toNat = n := by
        have hvalid : n.isValidChar := .inl (by omega)
        rw [Char.toNat_ofNat, if_pos hvalid]
      have htakes : m.takes (Char.ofNat n) = true := by
        cases m with
        | units =>
          rw [Mode.takes, hvalue, decide_eq_true_eq]
          exact hn
        | points => rfl
      rw [inside?, covers_inside.atom? htakes, hvalue]
      rfl
    · exact hexCode?_hexDigitsUpper (by decide) (by omega) k

theorem ClassAtom.print_head {d : Char} (hd : metaInside.contains d = true) (hb : d ≠ '\\')
    (a : ClassAtom) (k : List Char) : (a.print ++ k).head? ≠ some d := by
  cases a with
  | char c => exact escapeChar_head hd hb c k
  | unit n =>
    rw [ClassAtom.print]
    split
    · exact escapeChar_head hd hb _ k
    · rintro h
      cases h
      exact hb rfl

theorem ClassMember.print_head {d : Char} (hd : metaInside.contains d = true) (hb : d ≠ '\\')
    (x : ClassMember) (k : List Char) : (x.print ++ k).head? ≠ some d := by
  cases x with
  | single a => exact a.print_head hd hb k
  | range lo hi =>
    rw [ClassMember.print, List.append_assoc]
    exact lo.print_head hd hb _
  | escape e =>
    intro h
    cases e <;> cases h <;> exact hb rfl
  | property negated name =>
    intro h
    cases h
    exact hb rfl

/-- The members of a class do not start with a hyphen or a caret. -/
theorem members_head {d : Char} (hd : metaInside.contains d = true) (hb : d ≠ '\\')
    (hc : d ≠ ']') (ms : List ClassMember) (k : List Char) :
    (ms.flatMap ClassMember.print ++ ']' :: k).head? ≠ some d := by
  cases ms with
  | nil =>
    intro h
    cases h
    exact hc rfl
  | cons x ms =>
    rw [List.flatMap_cons, List.append_assoc]
    exact x.print_head hd hb _

/-- The members of a class are read back one by one. -/
theorem readsMembers_print {m : Mode} {ms : List ClassMember} (h : ∀ x ∈ ms, x.Fits m)
    (k : List Char) :
    ReadsMembers m (ms.flatMap ClassMember.print ++ ']' :: k) k (ms.map ClassMember.member) := by
  induction ms with
  | nil => exact .nil
  | cons x ms ih =>
    have hrest := ih fun y hy => h y (List.mem_cons_of_mem _ hy)
    have hx := h x List.mem_cons_self
    have hhead := members_head (d := '-') (by decide) (by decide) (by decide) ms k
    rw [List.flatMap_cons, List.append_assoc]
    cases x with
    | single a => exact .single (inside?_print hx _) hhead hrest
    | range lo hi =>
      obtain ⟨hlo, hhi, hle⟩ := hx
      rw [ClassMember.print, List.append_assoc]
      exact .range (inside?_print hlo _) (inside?_print hhi _) hle hrest
    | escape e => exact .single (atom?_classEscape ..) hhead hrest
    | property negated name =>
      obtain ⟨rfl, hname⟩ := hx
      exact .single (atom?_printProperty _ _ hname _) hhead hrest

/-- A class is read back as its members. -/
theorem readsLeaf_set {m : Mode} {ms : List ClassMember} (h : ∀ x ∈ ms, x.Fits m) (negated : Bool)
    (k : List Char) :
    ReadsLeaf m ((Ecma.set negated ms).print ++ k) k (.set negated (ms.map ClassMember.member)) := by
  have hms := readsMembers_print h k
  have happend : (ms.flatMap ClassMember.print ++ [']']) ++ k =
      ms.flatMap ClassMember.print ++ ']' :: k := List.append_assoc ..
  cases negated with
  | false =>
    rw [Ecma.print]
    change ReadsLeaf m ('[' :: ((ms.flatMap ClassMember.print ++ [']']) ++ k)) k _
    rw [happend]
    exact .set (members_head (by decide) (by decide) (by decide) ms k) hms
  | true =>
    rw [Ecma.print]
    change ReadsLeaf m ('[' :: '^' :: ((ms.flatMap ClassMember.print ++ [']']) ++ k)) k _
    rw [happend]
    exact .negatedSet hms

end ProtoSchema.Pattern
