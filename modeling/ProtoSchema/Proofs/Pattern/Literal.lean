import ProtoSchema.Proofs.Pattern.Matching
import ProtoSchema.Proofs.Pattern.Printing

/-!
# Texts that are matched literally

Under the Unicode flag a validator reads patterns and texts by code points, and without it by code
units, so that a character beyond the basic plane is two of them.  A text that is written out as a
pattern is read one element after the other in both modes, and it matches where its elements stand.
Since no character starts or ends within another one, these are the places where the text stands.
-/

namespace ProtoSchema.Pattern

open Grammar

/-! ## 1. Elements of texts -/

/-- The code points or code units that a character is matched as. -/
def Grammar.Mode.encode : Mode → Char → List Nat
  | points, c => [c.toNat]
  | units, c =>
    if c.toNat ≤ 0xFFFF then [c.toNat]
    else [0xD800 + (c.toNat - 0x10000) / 0x400, 0xDC00 + (c.toNat - 0x10000) % 0x400]

theorem Grammar.Mode.encode_units (c : Char) :
    units.encode c = if c.toNat ≤ 0xFFFF then [c.toNat]
      else [0xD800 + (c.toNat - 0x10000) / 0x400, 0xDC00 + (c.toNat - 0x10000) % 0x400] :=
  rfl

def Grammar.Mode.encodeText (m : Mode) (t : List Char) : List Nat := t.flatMap m.encode

/-- Surrogates are no characters. -/
theorem char_bounds (c : Char) : c.toNat < 0xD800 ∨ 0xDFFF < c.toNat ∧ c.toNat < 0x110000 :=
  c.valid

theorem Grammar.Mode.encodeText_append (m : Mode) (s t : List Char) :
    m.encodeText (s ++ t) = m.encodeText s ++ m.encodeText t :=
  List.flatMap_append

theorem Grammar.Mode.encode_ne_nil (m : Mode) (c : Char) : m.encode c ≠ [] := by
  cases m with
  | points => exact List.cons_ne_nil _ _
  | units =>
    change (if c.toNat ≤ 0xFFFF then [c.toNat] else _ :: _) ≠ []
    split <;> exact List.cons_ne_nil _ _

/-- No encoding starts with another one. -/
theorem Grammar.Mode.eq_of_encode_isPrefix (m : Mode) {c d : Char} {x y : List Nat}
    (h : m.encode c ++ x <+: m.encode d ++ y) : c = d := by
  apply Char.toNat_inj.1
  cases m with
  | points => exact (List.cons_prefix_cons.1 h).1
  | units =>
    have hc := char_bounds c
    have hd := char_bounds d
    -- Surrogates are no characters of the basic plane, so both take one element or both take two.
    rw [encode_units, encode_units] at h
    by_cases hcb : c.toNat ≤ 0xFFFF <;> by_cases hdb : d.toNat ≤ 0xFFFF
    · rw [if_pos hcb, if_pos hdb] at h
      exact (List.cons_prefix_cons.1 h).1
    · rw [if_pos hcb, if_neg hdb] at h
      have hhead := (List.cons_prefix_cons.1 h).1
      omega
    · rw [if_neg hcb, if_pos hdb] at h
      have hhead := (List.cons_prefix_cons.1 h).1
      omega
    · rw [if_neg hcb, if_neg hdb] at h
      obtain ⟨hhigh, htail⟩ := List.cons_prefix_cons.1 h
      have hlow := (List.cons_prefix_cons.1 htail).1
      omega

/-- No encoding ends with another one. -/
theorem Grammar.Mode.eq_of_encode_reverse_isPrefix (m : Mode) {c d : Char} {x y : List Nat}
    (h : (m.encode c).reverse ++ x <+: (m.encode d).reverse ++ y) : c = d := by
  apply Char.toNat_inj.1
  cases m with
  | points => exact (List.cons_prefix_cons.1 h).1
  | units =>
    have hc := char_bounds c
    have hd := char_bounds d
    rw [encode_units, encode_units] at h
    by_cases hcb : c.toNat ≤ 0xFFFF <;> by_cases hdb : d.toNat ≤ 0xFFFF
    · rw [if_pos hcb, if_pos hdb] at h
      exact (List.cons_prefix_cons.1 h).1
    · rw [if_pos hcb, if_neg hdb] at h
      have hhead := (List.cons_prefix_cons.1 h).1
      omega
    · rw [if_neg hcb, if_pos hdb] at h
      have hhead := (List.cons_prefix_cons.1 h).1
      omega
    · rw [if_neg hcb, if_neg hdb] at h
      obtain ⟨hlow, htail⟩ := List.cons_prefix_cons.1 h
      have hhigh := (List.cons_prefix_cons.1 htail).1
      omega

/-- No encoding starts within another one: there is nothing inside but the lower half of a pair. -/
theorem Grammar.Mode.not_encode_isPrefix_tail (m : Mode) {c d : Char} {u v x y : List Nat}
    (hd : m.encode d = u ++ v) (hu : u ≠ []) (hv : v ≠ []) : ¬ m.encode c ++ x <+: v ++ y := by
  intro h
  obtain ⟨p, u, rfl⟩ := List.exists_cons_of_ne_nil hu
  cases m with
  | points => exact hv (List.append_eq_nil_iff.1 (List.cons.inj hd).2.symm).2
  | units =>
    have hc := char_bounds c
    rw [encode_units] at hd h
    by_cases hdb : d.toNat ≤ 0xFFFF
    · rw [if_pos hdb] at hd
      exact hv (List.append_eq_nil_iff.1 (List.cons.inj hd).2.symm).2
    · rw [if_neg hdb] at hd
      have htail : [0xDC00 + (d.toNat - 0x10000) % 0x400] = u ++ v := (List.cons.inj hd).2
      obtain rfl : v = [0xDC00 + (d.toNat - 0x10000) % 0x400] := by
        cases u with
        | nil => exact htail.symm
        | cons _ u => exact absurd (List.append_eq_nil_iff.1 (List.cons.inj htail).2.symm).2 hv
      by_cases hcb : c.toNat ≤ 0xFFFF
      · rw [if_pos hcb] at h
        have hhead := (List.cons_prefix_cons.1 h).1
        omega
      · rw [if_neg hcb] at h
        have hhead := (List.cons_prefix_cons.1 h).1
        omega

/-- Where no code word starts with another one, one row of code words starts with another one only
if the rows that they encode do. -/
theorem flatMap_isPrefix_iff {α β : Type} {f : α → List β} (hne : ∀ a, f a ≠ [])
    (hf : ∀ a b x y, f a ++ x <+: f b ++ y → a = b) {s t : List α} :
    s.flatMap f <+: t.flatMap f ↔ s <+: t := by
  constructor
  · intro h
    induction s generalizing t with
    | nil => exact List.nil_prefix
    | cons a s ih =>
      cases t with
      | nil =>
        have hnil := List.prefix_nil.1 h
        exact absurd (List.append_eq_nil_iff.1 hnil).1 (hne a)
      | cons b t =>
        rw [List.flatMap_cons, List.flatMap_cons] at h
        obtain rfl : a = b := hf _ _ _ _ h
        exact List.cons_prefix_cons.2 ⟨rfl, ih ((List.prefix_append_right_inj _).1 h)⟩
  · rintro ⟨r, rfl⟩
    rw [List.flatMap_append]
    exact List.prefix_append _ _

/-- Where moreover no code word starts within another one, a row of code words stands in another
one only where it is encoded. -/
theorem flatMap_isInfix_iff {α β : Type} {f : α → List β} (hne : ∀ a, f a ≠ [])
    (hf : ∀ a b x y, f a ++ x <+: f b ++ y → a = b)
    (hinside : ∀ a b u v x y, f b = u ++ v → u ≠ [] → v ≠ [] → ¬ f a ++ x <+: v ++ y)
    {s t : List α} : s.flatMap f <:+: t.flatMap f ↔ s <:+: t := by
  constructor
  · intro h
    cases s with
    | nil => exact List.nil_infix
    | cons a s =>
      induction t with
      | nil =>
        have hnil := List.infix_nil.1 h
        exact absurd (List.append_eq_nil_iff.1 hnil).1 (hne a)
      | cons b t ih =>
        obtain ⟨p, q, h⟩ := h
        rw [List.flatMap_cons (x := b), List.append_assoc] at h
        rcases List.append_eq_append_iff.1 h with ⟨v, hb, hrest⟩ | ⟨p', -, hrest⟩
        · by_cases hp : p = []
          · -- It stands at the start.
            subst hp
            have hstart : (a :: s).flatMap f <+: (b :: t).flatMap f := ⟨q, h⟩
            exact ((flatMap_isPrefix_iff hne hf).1 hstart).isInfix
          · by_cases hv : v = []
            · -- It starts right after the first code word.
              subst hv
              exact List.infix_cons (ih ⟨[], q, hrest⟩)
            · have hstart : f a ++ (s.flatMap f ++ q) <+: v ++ t.flatMap f := by
                rw [← List.append_assoc, ← List.flatMap_cons, hrest]
              exact absurd hstart (hinside _ _ _ _ _ _ hb hp hv)
        · exact List.infix_cons (ih ⟨p', q, by rw [hrest, List.append_assoc]⟩)
  · rintro ⟨p, q, rfl⟩
    rw [List.flatMap_append, List.flatMap_append]
    exact ⟨_, _, rfl⟩

theorem Grammar.Mode.encodeText_isPrefix_iff (m : Mode) {s t : List Char} :
    m.encodeText s <+: m.encodeText t ↔ s <+: t :=
  flatMap_isPrefix_iff m.encode_ne_nil fun _ _ _ _ => m.eq_of_encode_isPrefix

/-- Read backwards, the encodings are code words too. -/
theorem Grammar.Mode.encodeText_isSuffix_iff (m : Mode) {s t : List Char} :
    m.encodeText s <:+ m.encodeText t ↔ s <:+ t := by
  have hreverse : ∀ t : List Char,
      (m.encodeText t).reverse = t.reverse.flatMap fun c => (m.encode c).reverse :=
    fun t => List.reverse_flatMap
  have hne : ∀ c, (m.encode c).reverse ≠ [] := fun c h =>
    m.encode_ne_nil c (List.reverse_eq_nil_iff.1 h)
  rw [← List.reverse_prefix, hreverse, hreverse, flatMap_isPrefix_iff hne, List.reverse_prefix]
  exact fun _ _ _ _ => m.eq_of_encode_reverse_isPrefix

theorem Grammar.Mode.encodeText_isInfix_iff (m : Mode) {s t : List Char} :
    m.encodeText s <:+: m.encodeText t ↔ s <:+: t :=
  flatMap_isInfix_iff m.encode_ne_nil (fun _ _ _ _ => m.eq_of_encode_isPrefix)
    fun _ _ _ _ _ _ => m.not_encode_isPrefix_tail

theorem Grammar.Mode.encodeText_inj (m : Mode) {s t : List Char} :
    m.encodeText s = m.encodeText t ↔ s = t := by
  constructor
  · intro h
    have hst : s <+: t := m.encodeText_isPrefix_iff.1 (h ▸ List.prefix_rfl)
    have hts : t <+: s := m.encodeText_isPrefix_iff.1 (h ▸ List.prefix_rfl)
    exact hst.eq_of_length_le hts.length_le
  · exact congrArg _

/-! ## 2. Patterns in a mode -/

/-- A code unit as an escape. -/
def unitEscape (n : Nat) : List Char := '\\' :: 'u' :: hexDigitsUpper 4 n

/-- A character of a pattern as a mode reads it.  Without the Unicode flag the two code units of a
supplementary character stand for themselves, one after the other, as their escapes do. -/
def Grammar.Mode.spell : Mode → Char → List Char
  | points, c => [c]
  | units, c => if c.toNat ≤ 0xFFFF then [c] else (units.encode c).flatMap unitEscape

def Grammar.Mode.source (m : Mode) (pattern : List Char) : List Char := pattern.flatMap m.spell

theorem Grammar.Mode.source_append (m : Mode) (p q : List Char) :
    m.source (p ++ q) = m.source p ++ m.source q :=
  List.flatMap_append

/-- Characters that a mode takes as they are. -/
theorem Grammar.Mode.source_eq_self (m : Mode) {p : List Char}
    (h : ∀ c ∈ p, m.takes c = true) : m.source p = p := by
  have hspell : ∀ c ∈ p, m.spell c = [c] := by
    intro c hc
    cases m with
    | points => rfl
    | units => exact if_pos (of_decide_eq_true (h c hc))
  rw [source, List.flatMap_congr hspell, List.flatMap_singleton']

/-- Whether a validator finds a match of a pattern in a text. -/
def Grammar.Mode.Finds (m : Mode) (pattern t : List Char) : Prop :=
  ∃ tree, Reads m false .disjunction (m.source pattern) [] tree ∧
    ∃ i j, tree.Matches (m.encodeText t) i j

/-- A pattern that is read as one tree matches what the tree matches. -/
theorem Grammar.Mode.finds_iff (m : Mode) {pattern t : List Char} {tree : Tree}
    (h : Reads m false .disjunction (m.source pattern) [] tree) :
    m.Finds pattern t ↔ ∃ i j, tree.Matches (m.encodeText t) i j :=
  h.exists_iff

/-! ## 3. Literal texts -/

/-- A row of elements in front of an alternative. -/
def literal (us : List Nat) (t : Tree) : Tree :=
  us.foldr (fun u t => .cons (.leaf (.atom (.code u))) t) t

theorem literal_append (us vs : List Nat) (t : Tree) :
    literal (us ++ vs) t = literal us (literal vs t) :=
  List.foldr_append

section

variable {m : Mode} {lenient : Bool} {i k : List Char} {t : Tree}

theorem reads_code {i' : List Char} {n : Nat} (h : outside? m i' = some (.code n, i))
    (hi : Reads m lenient .alternative i k t) :
    Reads m lenient .alternative i' k (.cons (.leaf (.atom (.code n))) t) :=
  .cons (.bare (.leaf (.atom h))) hi

/-- What is written for a character that a mode takes, the mode takes as it is. -/
theorem takes_escapeChar {special : List Char} {c : Char} (hc : m.takes c = true) :
    ∀ d ∈ escapeChar special c, m.takes d = true := by
  have hexDigits : ∀ n < 0x80, (hexDigitsUpper 2 n).all (·.toNat < 0x80) = true := by decide
  have hlist : ∀ l : List Char, l.all (·.toNat < 0x80) = true → ∀ d ∈ l, m.takes d = true := by
    intro l hl d hd
    have hlt : d.toNat < 0x80 := of_decide_eq_true (List.all_eq_true.1 hl d hd)
    exact m.takes_of_le (by omega)
  unfold escapeChar
  iterate 5
    split
    · exact hlist _ (by decide)
  split
  · rename_i hcontrol
    have hlt : c.toNat < 0x80 := by
      rcases hcontrol with h | rfl
      · omega
      · decide
    exact hlist ('\\' :: 'x' :: _) (hexDigits _ hlt)
  split
  · have hbackslash := hlist ['\\'] (by decide) _ List.mem_cons_self
    exact List.forall_mem_cons.2 ⟨hbackslash, List.forall_mem_singleton.2 hc⟩
  · exact List.forall_mem_singleton.2 hc

/-- A supplementary character is never escaped. -/
theorem escapeChar_supplementary {c : Char} (hc : 0xFFFF < c.toNat) :
    escapeChar metaOutside c = [c] := by
  have hne : ∀ d : Char, d.toNat < 0x80 → c ≠ d := by
    rintro d hd rfl
    omega
  have hmeta : metaOutside.contains c = false := by
    have hall : metaOutside.all (·.toNat < 0x80) = true := by decide
    refine Bool.eq_false_iff.2 fun h => ?_
    have hlt := List.all_eq_true.1 hall c (List.contains_iff_mem.1 h)
    exact hne c (of_decide_eq_true hlt) rfl
  have hcontrol : ¬(c.toNat < 0x20 ∨ c = '\x7f') := by
    rintro (h | h)
    · omega
    · exact hne _ (by decide) h
  unfold escapeChar
  rw [if_neg (hne _ (by decide)), if_neg (hne _ (by decide)), if_neg (hne _ (by decide)),
    if_neg (hne _ (by decide)), if_neg (hne _ (by decide)), if_neg hcontrol, hmeta,
    if_neg Bool.false_ne_true]

/-- A character that is written out is read as its elements. -/
theorem reads_escapeChar (c : Char) (h : Reads m lenient .alternative i k t) :
    Reads m lenient .alternative (m.source (escapeChar metaOutside c) ++ i) k
      (literal (m.encode c) t) := by
  by_cases hc : m.takes c = true
  · have hencode : m.encode c = [c.toNat] := by
      cases m with
      | points => rfl
      | units => exact if_pos (of_decide_eq_true hc)
    rw [m.source_eq_self (takes_escapeChar hc), hencode]
    exact reads_code (covers_outside.atom? hc i) h
  · cases m with
    | points => exact absurd rfl hc
    | units =>
      have hlt : 0xFFFF < c.toNat := Nat.lt_of_not_le fun hle => hc (decide_eq_true hle)
      have hvalid := char_bounds c
      -- Both halves are numbers of four hexadecimal digits.
      have hunit : ∀ {n : Nat} {j : List Char} {u : Tree}, n < 16 ^ 4 →
          Reads .units lenient .alternative j k u →
          Reads .units lenient .alternative (unitEscape n ++ j) k
            (.cons (.leaf (.atom (.code n))) u) :=
        fun hn hj => reads_code (hexCode?_hexDigitsUpper (by decide) hn _) hj
      have hspell : Mode.units.source (escapeChar metaOutside c) ++ i =
          unitEscape (0xD800 + (c.toNat - 0x10000) / 0x400) ++
            (unitEscape (0xDC00 + (c.toNat - 0x10000) % 0x400) ++ i) := by
        rw [escapeChar_supplementary hlt, Mode.source, List.flatMap_singleton, Mode.spell,
          if_neg (by omega), Mode.encode, if_neg (by omega)]
        rw [List.flatMap_cons, List.flatMap_singleton, List.append_assoc]
      rw [hspell, Mode.encode, if_neg (by omega)]
      exact hunit (by omega) (hunit (by omega) h)

/-- A text that is written out is read as its elements. -/
theorem reads_literal (s : List Char) (h : Reads m lenient .alternative i k t) :
    Reads m lenient .alternative (m.source (s.flatMap (escapeChar metaOutside)) ++ i) k
      (literal (m.encodeText s) t) := by
  induction s with
  | nil => exact h
  | cons c s ih =>
    rw [List.flatMap_cons, m.source_append, List.append_assoc, Mode.encodeText, List.flatMap_cons,
      literal_append]
    exact reads_escapeChar c ih

end

/-- A literal text matches where its elements stand. -/
theorem matches_literal {us u : List Nat} {t : Tree} {i j : Nat} :
    (literal us t).Matches u i j ↔ us <+: u.drop i ∧ t.Matches u (i + us.length) j := by
  induction us generalizing i with
  | nil => exact (and_iff_right List.nil_prefix).symm
  | cons x us ih =>
    change (∃ k, TakesOne (· = x) u i k ∧ (literal us t).Matches u k j) ↔ _
    have hhead : x :: us <+: u.drop i ↔ u[i]? = some x ∧ us <+: u.drop (i + 1) := by
      rw [← List.head?_drop, ← List.tail_drop]
      cases u.drop i with
      | nil => simp
      | cons y rest => simp [List.cons_prefix_cons, eq_comm]
    have hlength : i + (x :: us).length = i + 1 + us.length := by
      rw [List.length_cons]
      omega
    rw [hhead, hlength, and_assoc, ← ih]
    constructor
    · rintro ⟨k, ⟨rfl, y, hy, rfl⟩, hrest⟩
      exact ⟨hy, hrest⟩
    · rintro ⟨hx, hrest⟩
      exact ⟨i + 1, ⟨rfl, x, hx, rfl⟩, hrest⟩

end ProtoSchema.Pattern
