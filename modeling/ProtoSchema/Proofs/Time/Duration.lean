import ProtoSchema.Generation.Embedded
import ProtoSchema.Proofs.Pattern.Decimal
import ProtoSchema.Proofs.Time.Digits
import ProtoSchema.Proofs.Time.Range

/-!
# Texts of durations

The text of a duration is read back as the duration, so no two durations have one text.  It matches
the pattern that schemas ask for, and its fraction is as short as it can be.  Computed in machine
words, with the groups of zeros taken off the end of nine digits, the text is the same.
-/

namespace ProtoSchema

open Pattern Pattern.Grammar Generation

open scoped Computability

namespace Duration

/-! ## 1. Parts of a text -/

/-- What a text holds: perhaps a minus sign, digits, and perhaps digits after a point. -/
structure Parts where
  negative : Bool
  whole : List Char
  fraction : List Char

/-- The parts one after the other, with the unit. -/
def Parts.print (p : Parts) : List Char :=
  (if p.negative then ['-'] else []) ++ (p.whole ++ (Time.pointed p.fraction ++ ['s']))

/-- The parts of a text without a sign. -/
def unsigned? (negative : Bool) (t : List Char) : Option Parts :=
  if t.takeWhile Text.isDigit = [] then none
  else (Time.fraction? 's' (t.dropWhile Text.isDigit)).map fun fraction =>
    ⟨negative, t.takeWhile Text.isDigit, fraction⟩

def parts? : List Char → Option Parts
  | '-' :: t => unsigned? true t
  | t => unsigned? false t

def Parts.signed (p : Parts) (n : Nat) : Int := if p.negative then -n else n

/-- The digits in front of the point count seconds, and those after it fractions of one. -/
def Parts.duration (p : Parts) : Duration where
  seconds := p.signed (Text.decimalValue p.whole)
  nanos := p.signed (Text.decimalValue p.fraction * 10 ^ (9 - p.fraction.length))

theorem unsigned?_append (negative : Bool) {whole fraction : List Char} (hne : whole ≠ [])
    (hwhole : ∀ c ∈ whole, Text.isDigit c = true)
    (hfraction : ∀ c ∈ fraction, Text.isDigit c = true) :
    unsigned? negative (whole ++ (Time.pointed fraction ++ ['s'])) =
      some ⟨negative, whole, fraction⟩ := by
  -- Neither the point nor the unit is a digit, so the digits end where the fraction starts.
  have hstop : ∃ c k, Time.pointed fraction ++ ['s'] = c :: k ∧ ¬ Text.isDigit c = true := by
    unfold Time.pointed
    split
    · exact ⟨'s', [], rfl, by decide⟩
    · exact ⟨'.', fraction ++ ['s'], rfl, by decide⟩
  obtain ⟨c, k, hck, hc⟩ := hstop
  have htake : (whole ++ (Time.pointed fraction ++ ['s'])).takeWhile Text.isDigit = whole := by
    rw [List.takeWhile_append_of_pos hwhole, hck, List.takeWhile_cons_of_neg hc, List.append_nil]
  have hdrop : (whole ++ (Time.pointed fraction ++ ['s'])).dropWhile Text.isDigit =
      Time.pointed fraction ++ ['s'] := by
    rw [List.dropWhile_append_of_pos hwhole, hck, List.dropWhile_cons_of_neg hc]
  rw [unsigned?, htake, hdrop, if_neg hne, Time.fraction?_pointed (by decide) (by decide) hfraction]
  rfl

theorem parts?_print {p : Parts} (hne : p.whole ≠ [])
    (hwhole : ∀ c ∈ p.whole, Text.isDigit c = true)
    (hfraction : ∀ c ∈ p.fraction, Text.isDigit c = true) : parts? p.print = some p := by
  obtain ⟨negative, whole, fraction⟩ := p
  cases negative with
  | true => exact unsigned?_append true hne hwhole hfraction
  | false =>
    show parts? (whole ++ (Time.pointed fraction ++ ['s'])) = _
    rw [parts?, unsigned?_append false hne hwhole hfraction]
    -- A digit stands in front, and no minus sign.
    intro t ht
    obtain ⟨c, k, rfl⟩ := List.exists_cons_of_ne_nil hne
    have hc := hwhole c List.mem_cons_self
    rw [(List.cons.inj ht).1] at hc
    exact absurd hc (by decide)

/-- The parts are those of the shortest text of a duration. -/
structure Parts.Spell (p : Parts) (d : Duration) : Prop where
  sign : p.negative = true ↔ d.seconds < 0 ∨ d.nanos < 0
  groups : p.fraction.length ∈ [0, 3, 6, 9]
  shortest : ∀ k ∈ [0, 3, 6, 9], 10 ^ (9 - k) ∣ d.nanos.natAbs → p.fraction.length ≤ k
  value : p.duration = d

/-- The parts of a duration, with the digits of its fraction. -/
def parts (d : Duration) (fraction : List Char) : Parts where
  negative := decide (d.seconds < 0 ∨ d.nanos < 0)
  whole := Nat.toDigits 10 d.seconds.natAbs
  fraction := fraction

theorem negative_parts {d : Duration} {ds : List Char} :
    (d.parts ds).negative = true ↔ d.seconds < 0 ∨ d.nanos < 0 :=
  decide_eq_true_iff

theorem spell_parts {d : Duration} (h : d.InRange) {ds : List Char}
    (hds : Time.IsFraction ds d.nanos.natAbs) : (d.parts ds).Spell d := by
  refine ⟨negative_parts, hds.length, hds.shortest, ?_⟩
  obtain ⟨hpos, hneg⟩ := h.signs
  have hvalue : (d.parts ds).duration =
      ⟨(d.parts ds).signed d.seconds.natAbs, (d.parts ds).signed d.nanos.natAbs⟩ := by
    rw [Parts.duration]
    rw [show (d.parts ds).whole = Nat.toDigits 10 d.seconds.natAbs from rfl,
      show (d.parts ds).fraction = ds from rfl, decimalValue_toDigits, hds.value]
  -- The sign is that of both numbers, as far as they are not zero.
  have hsigned : ∀ n : Int, (d.seconds < 0 ∨ d.nanos < 0 → n ≤ 0) →
      (¬ (d.seconds < 0 ∨ d.nanos < 0) → 0 ≤ n) → (d.parts ds).signed n.natAbs = n := by
    intro n hle hge
    unfold Parts.signed
    by_cases hsign : d.seconds < 0 ∨ d.nanos < 0
    · rw [if_pos (negative_parts.2 hsign)]
      have hn := hle hsign
      omega
    · rw [if_neg (mt negative_parts.1 hsign)]
      have hn := hge hsign
      omega
  rw [hvalue, hsigned d.seconds (by omega) (by omega), hsigned d.nanos (by omega) (by omega)]

/-! ## 2. Texts -/

theorem text_eq_ok {d : Duration} {s : String} (h : d.text = .ok s) :
    d.InRange ∧ s = (if d.seconds < 0 ∨ d.nanos < 0 then "-" else "") ++
      toString d.seconds.natAbs ++ Time.fraction d.nanos.natAbs ++ "s" := by
  have hrange : d.InRange := exists_text_iff.1 ⟨s, h⟩
  refine ⟨hrange, ?_⟩
  rw [text, if_neg (not_lt.2 hrange.seconds), if_neg (not_le.2 hrange.nanos),
    if_neg (not_or.2 hrange.signs)] at h
  exact (Except.ok.inj h).symm

/-- A text is written from its parts. -/
theorem exists_parts {d : Duration} {s : String} (h : d.text = .ok s) :
    ∃ ds, s.toList = (d.parts ds).print ∧ Time.IsFraction ds d.nanos.natAbs ∧
      (d.parts ds).Spell d := by
  obtain ⟨hrange, rfl⟩ := text_eq_ok h
  obtain ⟨ds, hfraction, hds⟩ := Time.exists_fraction hrange.nanos
  refine ⟨ds, ?_, hds, spell_parts hrange hds⟩
  have hsign : (if d.seconds < 0 ∨ d.nanos < 0 then "-" else "").toList =
      if (d.parts ds).negative then ['-'] else [] := by
    by_cases hneg : d.seconds < 0 ∨ d.nanos < 0
    · rw [if_pos hneg, if_pos (negative_parts.2 hneg)]
      rfl
    · rw [if_neg hneg, if_neg (mt negative_parts.1 hneg)]
      rfl
  simp only [String.toList_append]
  rw [hsign, hfraction, Nat.toString_eq_repr, Nat.toList_repr, List.append_assoc, List.append_assoc]
  rfl

/-- The text is read back. -/
theorem parts?_text {d : Duration} {s : String} (h : d.text = .ok s) :
    ∃ p, parts? s.toList = some p ∧ p.Spell d := by
  obtain ⟨ds, hs, hds, hspell⟩ := exists_parts h
  refine ⟨_, ?_, hspell⟩
  rw [hs]
  exact parts?_print Nat.toDigits_ne_nil (fun _ => isDigit_toDigits) hds.digits

/-- Durations with one text are one duration. -/
theorem text_inj {d e : Duration} {s : String} (hd : d.text = .ok s) (he : e.text = .ok s) :
    d = e := by
  obtain ⟨p, hp, hpd⟩ := parts?_text hd
  obtain ⟨q, hq, hqe⟩ := parts?_text he
  obtain rfl := Option.some.inj (hp.symm.trans hq)
  exact hpd.value.symm.trans hqe.value

/-! ## 3. The pattern of durations -/

/-- What stands between the ends of the pattern. -/
def patternPart : Ecma :=
  -- -?(0|[1-9]\d*)(\.\d+)?s
  .concat [.repetition .optional false (.char '-'),
    .group true (.alternation [.char '0',
      .concat [.set false [.range (.char '1') (.char '9')],
        .repetition .any false (.escape .digit)]]),
    .repetition .optional false (.group true (.alternation
      [.concat [.char '.', .repetition .some false (.escape .digit)]])),
    .char 's']

/-- The texts that the pattern is for. -/
def spellings : Language Nat :=
  (1 + letters (· = '-'.toNat)) *
    (Decimal.whole * (Decimal.fraction * letters (· = 's'.toNat)))

theorem selects_durationPattern (m : Mode) :
    ∃ r : Ecma, durationPattern = r.text ∧ r.Selects m (m.encodeText · ∈ spellings) := by
  have hminus := Ecma.spells_optional (spells_char (m := m) (c := '-') (by decide))
  have hunit := (spells_char (m := m) (c := 's') (by decide)).spells
  have hparts := Ecma.spells_concat (.cons hminus (.cons (Decimal.spellsOperand_whole true).spells
    (.cons (Decimal.spells_fraction true) (.cons hunit .nil))))
  have hspellings : [1 + letters (· = '-'.toNat), Decimal.whole, Decimal.fraction,
      letters (· = 's'.toNat)].prod = spellings := by simp [spellings]
  have hpart : patternPart.Spells m spellings := hspellings ▸ hparts
  exact ⟨_, by rfl, Ecma.selects_whole hpart⟩

theorem print_mem_spellings (m : Mode) {d : Duration} {ds : List Char}
    (hds : ∀ c ∈ ds, Text.isDigit c = true) : m.encodeText (d.parts ds).print ∈ spellings := by
  have hletter : ∀ c : Char, c.toNat ≤ 0xFFFF → m.encodeText [c] ∈ letters (· = c.toNat) := by
    intro c hc
    rw [encodeText_eq_map m (List.forall_mem_singleton.2 hc)]
    exact singleton_mem_letters rfl
  have hsign : m.encodeText (if (d.parts ds).negative then ['-'] else []) ∈
      1 + letters (· = '-'.toNat) := by
    split
    · exact .inr (hletter '-' (by decide))
    · exact .inl Language.nil_mem_one
  have hwhole : m.encodeText (d.parts ds).whole ∈ Decimal.whole := by
    show m.encodeText (Nat.toDigits 10 d.seconds.natAbs) ∈ Decimal.whole
    rw [Decimal.encodeText_digits m fun _ => isDigit_toDigits]
    exact Decimal.toDigits_mem_whole _
  have hfraction : m.encodeText (Time.pointed ds) ∈ Decimal.fraction := by
    unfold Time.pointed
    by_cases hnil : ds = []
    · rw [if_pos hnil]
      exact .inl Language.nil_mem_one
    · rw [if_neg hnil, ← List.singleton_append, m.encodeText_append,
        Decimal.encodeText_digits m hds]
      exact .inr (Language.append_mem_mul (hletter '.' (by decide)) (Decimal.digits_mem hds hnil))
  rw [Parts.print, m.encodeText_append, m.encodeText_append, m.encodeText_append]
  exact Language.append_mem_mul hsign (Language.append_mem_mul hwhole
    (Language.append_mem_mul hfraction (hletter 's' (by decide))))

theorem text_mem_spellings (m : Mode) {d : Duration} {s : String} (h : d.text = .ok s) :
    m.encodeText s.toList ∈ spellings := by
  obtain ⟨ds, hs, hds, -⟩ := exists_parts h
  rw [hs]
  exact print_mem_spellings m hds.digits

theorem finds_durationPattern (m : Mode) {d : Duration} {s : String} (h : d.text = .ok s) :
    m.Finds durationPattern.toList s.toList := by
  obtain ⟨r, hr, hselects⟩ := selects_durationPattern m
  obtain ⟨tree, hread, -, hmatch⟩ := hselects.reads
  rw [hr]
  exact (m.finds_iff hread).2 ((hmatch _).2 (text_mem_spellings m h))

/-! ## 4. Machine words -/

def ofWords (seconds : Int64) (nanos : Int32) : Duration := ⟨seconds.toInt, nanos.toInt⟩

/-- The text of a duration in machine words, which wrap around where a number does not fit. -/
def wordText (seconds : Int64) (nanos : Int32) : Except Invalid String :=
  if seconds < -315576000000 ∨ 315576000000 < seconds then .error (.seconds seconds.toInt)
  else if nanos ≤ -1000000000 ∨ 1000000000 ≤ nanos then .error (.nanos nanos.toInt)
  else if (0 < seconds ∧ nanos < 0) ∨ (seconds < 0 ∧ 0 < nanos) then
    .error (.signs (ofWords seconds nanos))
  else
    let sign := if seconds < 0 ∨ nanos < 0 then "-" else ""
    let digits := sign ++ toString seconds.abs.toUInt64 ++ "." ++
      Time.padded 9 nanos.abs.toUInt32.toNat
    .ok (String.ofList (Time.withoutZeroGroups digits.toList) ++ "s")

/-- The magnitude of every word fits into an unsigned one, that of the least word included. -/
theorem toNat_abs {w : Nat} (x : BitVec w) : x.abs.toNat = x.toInt.natAbs := by
  have hx : x.toNat < 2 ^ w := x.isLt
  rw [BitVec.toNat_abs, BitVec.toInt_eq_msb_cond]
  split
  · -- Both powers of two are one number.
    have hpow : ((2 ^ w : Nat) : Int) = 2 ^ w := by push_cast; rfl
    omega
  · omega

theorem wordText_eq (seconds : Int64) (nanos : Int32) :
    wordText seconds nanos = (ofWords seconds nanos).text := by
  have hseconds : toString seconds.abs.toUInt64 = toString seconds.toInt.natAbs :=
    congrArg toString (toNat_abs seconds.toBitVec)
  have hnanos : nanos.abs.toUInt32.toNat = nanos.toInt.natAbs := toNat_abs nanos.toBitVec
  -- The limits are words, and comparing words is comparing the integers.
  have hlow : (-315576000000 : Int64).toInt = -315576000000 := by rfl
  have hhigh : (315576000000 : Int64).toInt = 315576000000 := by rfl
  have hnanoLow : (-1000000000 : Int32).toInt = -1000000000 := by rfl
  have hnanoHigh : (1000000000 : Int32).toInt = 1000000000 := by rfl
  have hzero : (0 : Int64).toInt = 0 := rfl
  have hnanoZero : (0 : Int32).toInt = 0 := rfl
  unfold wordText text ofWords
  simp only [Int64.lt_iff_toInt_lt, Int32.lt_iff_toInt_lt, Int32.le_iff_toInt_le, hlow, hhigh,
    hnanoLow, hnanoHigh, hzero, hnanoZero]
  by_cases hfar : maxSeconds < seconds.toInt.natAbs
  · rw [if_pos hfar, if_pos (by unfold maxSeconds at hfar; omega)]
  rw [if_neg hfar, if_neg (by unfold maxSeconds at hfar; omega)]
  by_cases hmany : Time.nanosPerSecond ≤ nanos.toInt.natAbs
  · rw [if_pos hmany, if_pos (by unfold Time.nanosPerSecond at hmany; omega)]
  rw [if_neg hmany, if_neg (by unfold Time.nanosPerSecond at hmany; omega)]
  by_cases hsigns : 0 < seconds.toInt ∧ nanos.toInt < 0 ∨ seconds.toInt < 0 ∧ 0 < nanos.toInt
  · rw [if_pos hsigns, if_pos hsigns]
  rw [if_neg hsigns, if_neg hsigns, hseconds, hnanos]
  -- The nine digits stand after the point, and what they leave out is what the fraction does.
  have hstripped : ∀ front : String,
      String.ofList (Time.withoutZeroGroups
        (front ++ "." ++ Time.padded 9 nanos.toInt.natAbs).toList) =
        front ++ Time.fraction nanos.toInt.natAbs := by
    intro front
    have hpoint : (front ++ "." ++ Time.padded 9 nanos.toInt.natAbs).toList =
        front.toList ++ '.' :: (Time.padded 9 nanos.toInt.natAbs).toList := by
      rw [String.toList_append, String.toList_append, List.append_assoc]
      rfl
    rw [hpoint, Time.withoutZeroGroups_padded _ (not_le.1 hmany), ← String.toList_append,
      String.ofList_toList]
  show Except.ok _ = Except.ok _
  rw [hstripped]

/-! ## 5. Canonical texts -/

/-- Every duration of machine words has a text exactly if it is in range, whatever the words, and
computing in words gives the same.  The text matches the pattern, is as short as can be, and is read
back as the duration; so no other duration has it. -/
theorem text_canonical (seconds : Int64) (nanos : Int32) :
    wordText seconds nanos = (ofWords seconds nanos).text ∧
      ((∃ s, (ofWords seconds nanos).text = .ok s) ↔ (ofWords seconds nanos).InRange) ∧
      ∀ s, (ofWords seconds nanos).text = .ok s →
        (∀ m : Mode, m.Finds durationPattern.toList s.toList) ∧
        (∃ p, parts? s.toList = some p ∧ p.Spell (ofWords seconds nanos)) ∧
        ∀ seconds' nanos', (ofWords seconds' nanos').text = .ok s →
          seconds' = seconds ∧ nanos' = nanos := by
  refine ⟨wordText_eq seconds nanos, exists_text_iff, fun s h => ⟨fun m => ?_, ?_, ?_⟩⟩
  · exact finds_durationPattern m h
  · exact parts?_text h
  · intro seconds' nanos' h'
    have hsame := text_inj h' h
    exact ⟨Int64.toInt_inj.1 (congrArg Duration.seconds hsame),
      Int32.toInt_inj.1 (congrArg Duration.nanos hsame)⟩

/-- The duration is negative, and one group of digits is enough for its fraction. -/
theorem quarter_canonical :
    (ofWords (-2) (-250000000)).text = .ok "-2.250s" ∧
      (∀ m : Mode, m.Finds durationPattern.toList "-2.250s".toList) ∧
      (∃ p, parts? "-2.250s".toList = some p ∧ p.Spell (ofWords (-2) (-250000000))) ∧
      ∀ seconds nanos, (ofWords seconds nanos).text = .ok "-2.250s" →
        seconds = -2 ∧ nanos = -250000000 := by
  have htext : (ofWords (-2) (-250000000)).text = .ok "-2.250s" := by rfl
  obtain ⟨-, -, hcanonical⟩ := text_canonical (-2) (-250000000)
  exact ⟨htext, hcanonical _ htext⟩

end Duration

end ProtoSchema
