import ProtoSchema.Proofs.Pattern.Spelling
import ProtoSchema.Time.Digits

/-!
# Reading the digits of times

Numbers of fixed width are read back as they were written, and so is a fraction of a second.  Digits
of one width and one value are the same digits, so a number of fixed width can be cut into two, and
the groups of zeros that a fraction leaves out are those at the end of its nine digits.
-/

namespace ProtoSchema.Time

open Pattern Text

/-! ## 1. Values of digits -/

theorem decimalValue_append (a b : List Char) :
    decimalValue (a ++ b) = decimalValue a * 10 ^ b.length + decimalValue b := by
  -- The digits on the right are read on from the value of those on the left.
  have step : ∀ n, b.foldl (fun n d => n * 10 + digitValue d) n =
      n * 10 ^ b.length + decimalValue b := by
    induction b with
    | nil => intro n; show n = n * 10 ^ 0 + 0; omega
    | cons c b ih =>
      intro n
      show b.foldl _ (n * 10 + digitValue c) =
        n * 10 ^ (b.length + 1) + b.foldl _ (0 * 10 + digitValue c)
      rw [ih, ih (0 * 10 + digitValue c), pow_succ]
      ring
  rw [decimalValue, List.foldl_append, step]
  rfl

theorem digitValue_lt {c : Char} (h : isDigit c = true) : digitValue c < 10 := by
  rw [isDigit, Bool.and_eq_true, decide_eq_true_eq, decide_eq_true_eq] at h
  have hhi : c.toNat ≤ '9'.toNat := h.2
  have hnine : '9'.toNat = '0'.toNat + 9 := rfl
  rw [digitValue]
  omega

theorem digitValue_inj {c d : Char} (hc : isDigit c = true) (hd : isDigit d = true)
    (h : digitValue c = digitValue d) : c = d := by
  rw [isDigit, Bool.and_eq_true, decide_eq_true_eq, decide_eq_true_eq] at hc hd
  have hclo : '0'.toNat ≤ c.toNat := hc.1
  have hdlo : '0'.toNat ≤ d.toNat := hd.1
  apply Char.toNat_inj.1
  rw [digitValue, digitValue] at h
  omega

theorem decimalValue_lt {ds : List Char} (h : ∀ c ∈ ds, isDigit c = true) :
    decimalValue ds < 10 ^ ds.length := by
  induction ds with
  | nil => decide
  | cons c ds ih =>
    obtain ⟨hc, hds⟩ := List.forall_mem_cons.1 h
    have hvalue := decimalValue_append [c] ds
    have hhead : decimalValue [c] = digitValue c := by
      show 0 * 10 + digitValue c = digitValue c
      omega
    have hlt := ih hds
    have hdigit : digitValue c * 10 ^ ds.length ≤ 9 * 10 ^ ds.length :=
      Nat.mul_le_mul_right _ (Nat.le_of_lt_succ (digitValue_lt hc))
    rw [List.singleton_append, hhead] at hvalue
    rw [hvalue, List.length_cons, pow_succ]
    omega

/-- Digits of one width are told apart by their values. -/
theorem eq_of_decimalValue {a b : List Char} (ha : ∀ c ∈ a, isDigit c = true)
    (hb : ∀ c ∈ b, isDigit c = true) (hlength : a.length = b.length)
    (h : decimalValue a = decimalValue b) : a = b := by
  induction a generalizing b with
  | nil => exact (List.length_eq_zero_iff.1 hlength.symm).symm
  | cons c a ih =>
    cases b with
    | nil => cases hlength
    | cons d b =>
      obtain ⟨hc, ha⟩ := List.forall_mem_cons.1 ha
      obtain ⟨hd, hb⟩ := List.forall_mem_cons.1 hb
      have hlen : a.length = b.length := Nat.succ.inj hlength
      have hva := decimalValue_append [c] a
      have hvb := decimalValue_append [d] b
      have hone : ∀ e, decimalValue [e] = digitValue e := fun e => Nat.zero_add _
      have hla := decimalValue_lt ha
      have hlb := decimalValue_lt hb
      rw [List.singleton_append, hone] at hva hvb
      rw [hva, hvb, hlen] at h
      rw [hlen] at hla
      -- The first digits are the quotients by the power of ten, the rest are the remainders.
      have hfirst : digitValue c = digitValue d := by
        have hc := congrArg (· / 10 ^ b.length) h
        simpa [Nat.add_comm, Nat.add_mul_div_right, Nat.div_eq_of_lt hla, Nat.div_eq_of_lt hlb]
          using hc
      have hrest : decimalValue a = decimalValue b := by
        rw [hfirst] at h
        omega
      rw [digitValue_inj hc hd hfirst, ih ha hb hlen hrest]

/-! ## 2. Numbers of fixed width -/

theorem toList_padded (width n : Nat) : (padded width n).toList =
    List.replicate (width - (Nat.toDigits 10 n).length) '0' ++ Nat.toDigits 10 n :=
  String.toList_ofList

theorem isDigit_padded {width n : Nat} : ∀ c ∈ (padded width n).toList, isDigit c = true := by
  intro c hc
  rw [toList_padded, List.mem_append] at hc
  rcases hc with hc | hc
  · rw [List.eq_of_mem_replicate hc]
    rfl
  · exact isDigit_toDigits hc

theorem decimalValue_padded (width n : Nat) : decimalValue (padded width n).toList = n := by
  have hzeros : ∀ k, decimalValue (List.replicate k '0') = 0 := by
    intro k
    induction k with
    | zero => rfl
    | succ k ih => exact ih
  rw [toList_padded, decimalValue_append, hzeros, Nat.zero_mul, Nat.zero_add,
    decimalValue_toDigits]

theorem length_padded {width n : Nat} (hwidth : 0 < width) (hn : n < 10 ^ width) :
    (padded width n).toList.length = width := by
  have hle : (Nat.toDigits 10 n).length ≤ width :=
    (Nat.length_toDigits_le_iff (by decide) hwidth).2 hn
  rw [toList_padded, List.length_append, List.length_replicate]
  omega

/-- A number of fixed width is written as a quotient and a remainder. -/
theorem padded_append {a b n : Nat} (ha : 0 < a) (hb : 0 < b) (hn : n < 10 ^ (a + b)) :
    (padded (a + b) n).toList =
      (padded a (n / 10 ^ b)).toList ++ (padded b (n % 10 ^ b)).toList := by
  have hquotient : n / 10 ^ b < 10 ^ a := by
    apply Nat.div_lt_of_lt_mul
    rwa [← pow_add, Nat.add_comm]
  have hremainder : n % 10 ^ b < 10 ^ b := Nat.mod_lt _ (by positivity)
  apply eq_of_decimalValue isDigit_padded
  · intro c hc
    exact (List.mem_append.1 hc).elim (isDigit_padded c) (isDigit_padded c)
  · rw [List.length_append, length_padded (by omega) hn, length_padded ha hquotient,
      length_padded hb hremainder]
  · rw [decimalValue_append, length_padded hb hremainder, decimalValue_padded, decimalValue_padded,
      decimalValue_padded, Nat.div_add_mod']

/-! ## 3. Fractions -/

/-- Digits after a point, or nothing if there are none. -/
def pointed (ds : List Char) : List Char := if ds = [] then [] else '.' :: ds

/-- The digits of a fraction of a second: none, three, six or nine, and no more than it takes. -/
structure IsFraction (ds : List Char) (nanos : Nat) : Prop where
  digits : ∀ c ∈ ds, isDigit c = true
  length : ds.length ∈ [0, 3, 6, 9]
  shortest : ∀ k ∈ [0, 3, 6, 9], 10 ^ (9 - k) ∣ nanos → ds.length ≤ k
  value : decimalValue ds * 10 ^ (9 - ds.length) = nanos

theorem pointed_padded {k n : Nat} (hk : 0 < k) (hn : n < 10 ^ k) :
    pointed (padded k n).toList = ("." ++ padded k n).toList := by
  have hlength := length_padded hk hn
  have hne : (padded k n).toList ≠ [] := by
    intro hnil
    rw [hnil, List.length_nil] at hlength
    omega
  rw [pointed, if_neg hne, String.toList_append]
  rfl

/-- Some groups of three digits are a fraction if they take in all of it, and one group less would
not. -/
theorem isFraction_padded {k nanos : Nat} (hk : k ∈ [3, 6, 9]) (hnanos : nanos < nanosPerSecond)
    (hexact : 10 ^ (9 - k) ∣ nanos) (hneeded : ¬ 10 ^ (9 - (k - 3)) ∣ nanos) :
    nanos / 10 ^ (9 - k) < 10 ^ k ∧ IsFraction (padded k (nanos / 10 ^ (9 - k))).toList nanos := by
  have hgroups : 0 < k ∧ k ≤ 9 ∧ k ∈ [0, 3, 6, 9] ∧ ∀ j ∈ [0, 3, 6, 9], j < k → j ≤ k - 3 := by
    simp only [List.mem_cons, List.not_mem_nil, or_false] at hk
    rcases hk with rfl | rfl | rfl <;> decide
  obtain ⟨hpos, hle, hmem, hless⟩ := hgroups
  have hlt : nanos / 10 ^ (9 - k) < 10 ^ k := by
    apply Nat.div_lt_of_lt_mul
    rw [← pow_add, Nat.sub_add_cancel hle]
    exact hnanos
  have hlength := length_padded hpos hlt
  refine ⟨hlt, isDigit_padded, by rwa [hlength], fun j hj hdvd => ?_, ?_⟩
  · -- Fewer digits would be at least one group less.
    rw [hlength]
    by_contra hjk
    have hj3 := hless j hj (by omega)
    exact hneeded ((pow_dvd_pow 10 (by omega)).trans hdvd)
  · rw [hlength, decimalValue_padded, Nat.div_mul_cancel hexact]

theorem exists_fraction {nanos : Nat} (h : nanos < nanosPerSecond) :
    ∃ ds, (fraction nanos).toList = pointed ds ∧ IsFraction ds nanos := by
  unfold fraction
  by_cases hzero : nanos = 0
  · rw [if_pos hzero, hzero]
    exact ⟨[], rfl, nofun, by decide, fun k _ _ => Nat.zero_le k, rfl⟩
  rw [if_neg hzero]
  have hwhole : ¬ 10 ^ 9 ∣ nanos := fun hdvd => by
    have hlt : nanos < 10 ^ 9 := h
    omega
  by_cases hmillis : nanos % 1000000 = 0
  · obtain ⟨hlt, hds⟩ := isFraction_padded (k := 3) (by decide) h (Nat.dvd_of_mod_eq_zero hmillis)
      hwhole
    rw [if_pos hmillis]
    exact ⟨_, (pointed_padded (by decide) hlt).symm, hds⟩
  rw [if_neg hmillis]
  have hmore : ¬ 10 ^ 6 ∣ nanos := fun hdvd => hmillis (Nat.mod_eq_zero_of_dvd hdvd)
  by_cases hmicros : nanos % 1000 = 0
  · obtain ⟨hlt, hds⟩ := isFraction_padded (k := 6) (by decide) h (Nat.dvd_of_mod_eq_zero hmicros)
      hmore
    rw [if_pos hmicros]
    exact ⟨_, (pointed_padded (by decide) hlt).symm, hds⟩
  · rw [if_neg hmicros]
    have hmost : ¬ 10 ^ 3 ∣ nanos := fun hdvd => hmicros (Nat.mod_eq_zero_of_dvd hdvd)
    obtain ⟨hlt, hds⟩ := isFraction_padded (k := 9) (by decide) h (one_dvd nanos) hmost
    rw [Nat.sub_self, pow_zero, Nat.div_one] at hlt hds
    exact ⟨_, (pointed_padded (by decide) hlt).symm, hds⟩

/-! ## 4. Groups of zeros -/

/-- A text without an ending, where it ends so. -/
def without (ending text : List Char) : List Char := (text.dropSuffix? ending).getD text

theorem without_append (text ending : List Char) : without ending (text ++ ending) = text := by
  have hdrop : (text ++ ending).dropSuffix? ending = some text :=
    List.dropSuffix?_eq_some_iff.2 ⟨ending, rfl, beq_self_eq_true ending⟩
  rw [without, hdrop]
  rfl

theorem without_eq_self {ending text : List Char} (h : ¬ ending <:+ text) :
    without ending text = text := by
  have hdrop : text.dropSuffix? ending = none := by
    rw [Option.eq_none_iff_forall_ne_some]
    intro front hfront
    obtain ⟨ending', htext, hsame⟩ := List.dropSuffix?_eq_some_iff.1 hfront
    obtain rfl := eq_of_beq hsame
    exact h ⟨front, htext.symm⟩
  rw [without, hdrop]
  rfl

def zeroGroup : List Char := ['0', '0', '0']

/-- Nine digits after a point, with up to three groups of zeros at their end left out, the point
together with the last one. -/
def withoutZeroGroups (text : List Char) : List Char :=
  [zeroGroup, zeroGroup, '.' :: zeroGroup].foldl (fun text ending => without ending text) text

theorem zeroGroup_isSuffix_iff {front : List Char} {n : Nat} (hn : n < 10 ^ 3) :
    zeroGroup <:+ front ++ (padded 3 n).toList ↔ n = 0 := by
  constructor
  · rintro ⟨rest, hrest⟩
    have hlength := length_padded (by decide) hn
    obtain ⟨-, hsame⟩ := List.append_inj' hrest hlength.symm
    rw [← decimalValue_padded 3 n, ← hsame]
    rfl
  · rintro rfl
    exact List.suffix_append _ _

/-- Three digits with a text in front end in a group of zeros only if they are one. -/
theorem without_padded (front : List Char) {n : Nat} (hn : n < 10 ^ 3) (hne : n ≠ 0) :
    without zeroGroup (front ++ (padded 3 n).toList) = front ++ (padded 3 n).toList ∧
      without ('.' :: zeroGroup) (front ++ (padded 3 n).toList) = front ++ (padded 3 n).toList := by
  have hzeros : ¬ zeroGroup <:+ front ++ (padded 3 n).toList :=
    fun hends => hne ((zeroGroup_isSuffix_iff hn).1 hends)
  exact ⟨without_eq_self hzeros,
    without_eq_self fun hends => hzeros ((List.suffix_cons _ _).trans hends)⟩

/-- The nine digits without their groups of zeros are the fraction. -/
theorem withoutZeroGroups_padded (front : List Char) {nanos : Nat} (h : nanos < nanosPerSecond) :
    withoutZeroGroups (front ++ '.' :: (padded 9 nanos).toList) =
      front ++ (fraction nanos).toList := by
  have hnanos : nanos < 1000000000 := h
  have hnine : (padded 9 nanos).toList =
      (padded 6 (nanos / 1000)).toList ++ (padded 3 (nanos % 1000)).toList :=
    padded_append (a := 6) (b := 3) (by decide) (by decide) hnanos
  have hsix : (padded 6 (nanos / 1000)).toList =
      (padded 3 (nanos / 1000000)).toList ++ (padded 3 (nanos / 1000 % 1000)).toList := by
    rw [show nanos / 1000000 = nanos / 1000 / 10 ^ 3 by omega]
    exact padded_append (a := 3) (b := 3) (by decide) (by decide) (by omega)
  have hzeros : (padded 3 0).toList = zeroGroup := rfl
  have hpoint : ∀ k n, front ++ ("." ++ padded k n).toList = front ++ '.' :: (padded k n).toList :=
    fun k n => by rw [String.toList_append]; rfl
  unfold withoutZeroGroups fraction
  simp only [List.foldl_cons, List.foldl_nil]
  by_cases hmicros : nanos % 1000 = 0
  · -- The last group goes.
    rw [hnine, hmicros, hzeros, ← List.cons_append, ← List.append_assoc, without_append]
    by_cases hmillis : nanos / 1000 % 1000 = 0
    · -- So does the one before it.
      rw [hsix, hmillis, hzeros, ← List.cons_append, ← List.append_assoc, without_append]
      by_cases hzero : nanos / 1000000 = 0
      · rw [hzero, hzeros, without_append, if_pos (by omega)]
        exact (List.append_nil front).symm
      · have hstays := without_padded (front ++ ['.']) (by omega : nanos / 1000000 < 10 ^ 3) hzero
        rw [List.append_assoc, List.singleton_append] at hstays
        rw [hstays.2, if_neg (by omega), if_pos (by omega), hpoint]
    · have hstays := without_padded (front ++ '.' :: (padded 3 (nanos / 1000000)).toList)
        (by omega) hmillis
      rw [List.append_assoc, List.cons_append, ← hsix] at hstays
      rw [hstays.1, hstays.2, if_neg (by omega), if_neg (by omega), if_pos rfl, hpoint]
  · have hstays := without_padded (front ++ '.' :: (padded 6 (nanos / 1000)).toList)
      (by omega) hmicros
    rw [List.append_assoc, List.cons_append, ← hnine] at hstays
    rw [hstays.1, hstays.1, hstays.2, if_neg (by omega), if_neg (by omega), if_neg hmicros, hpoint]

/-! ## 5. Reading -/

/-- The digits of a fraction, up to a mark that ends the text.  No point stands without digits. -/
def fraction? (mark : Char) : List Char → Option (List Char)
  | '.' :: t =>
    if t.takeWhile isDigit ≠ [] ∧ t.dropWhile isDigit = [mark] then some (t.takeWhile isDigit)
    else none
  | t => if t = [mark] then some [] else none

theorem fraction?_pointed {mark : Char} (hpoint : mark ≠ '.') (hmark : isDigit mark = false)
    {ds : List Char} (hds : ∀ c ∈ ds, isDigit c = true) :
    fraction? mark (pointed ds ++ [mark]) = some ds := by
  unfold pointed
  by_cases hnil : ds = []
  · rw [if_pos hnil, hnil, List.nil_append, fraction?, if_pos rfl]
    intro t ht
    exact hpoint (List.cons.inj ht).1
  · have hstop : ¬ isDigit mark = true := by
      rw [hmark]
      decide
    rw [if_neg hnil, List.cons_append, fraction?, List.takeWhile_append_of_pos hds,
      List.dropWhile_append_of_pos hds, List.takeWhile_cons_of_neg hstop,
      List.dropWhile_cons_of_neg hstop, List.append_nil, if_pos ⟨hnil, rfl⟩]

/-- The number that the first characters write, if all of them are digits. -/
def number? (width : Nat) (t : List Char) : Option (Nat × List Char) :=
  if width ≤ t.length ∧ (t.take width).all isDigit then
    some (decimalValue (t.take width), t.drop width)
  else none

theorem number?_padded {width n : Nat} (hwidth : 0 < width) (hn : n < 10 ^ width)
    (t : List Char) : number? width ((padded width n).toList ++ t) = some (n, t) := by
  have hlength := length_padded hwidth hn
  have hle : width ≤ ((padded width n).toList ++ t).length := by
    rw [List.length_append]
    omega
  rw [number?, List.take_left' hlength, List.drop_left' hlength, decimalValue_padded,
    if_pos ⟨hle, List.all_eq_true.2 isDigit_padded⟩]

end ProtoSchema.Time
