import ProtoSchema.Pattern.Conversion
import ProtoSchema.Proofs.Outcome
import ProtoSchema.Proofs.Pattern.Literal

/-!
# Quoted texts

A text that is written out as a pattern is read by both dialects as its characters, one after the
other: the source dialect reads literals, the target dialect code units or code points.  So the
conversion gives such a pattern back, and it matches the text and nothing else.
-/

namespace ProtoSchema.Pattern

open Grammar

/-! ## 1. Escapes -/

section

variable {pos : Position} {k : List Char}

/-- The character that stands after a backslash for itself or for a control character, and starts
no digits, no name, no class and no assertion. -/
def plainEscape? (x : Char) : Option Char :=
  if Text.isDigit x = true ∨ x ∈ ['x', 'u', 'U', 'p', 'P'] ∨ (shorthand? x).isSome = true then none
  else if isEscapable x then some x
  else controlOfLetter? x

theorem escape_plain {x y : Char} (h : plainEscape? x = some y) :
    ∃ span after, escape false ⟨pos, '\\' :: x :: k⟩ =
      .ok (.literal ⟨span, .plain, y⟩, ⟨after, k⟩) := by
  unfold plainEscape? at h
  split at h
  · cases h
  · rename_i hnot
    simp only [not_or, List.mem_cons, List.not_mem_nil, or_false] at hnot
    obtain ⟨hdigit, ⟨hx, hu, hU, hp, hP⟩, hshort⟩ := hnot
    have hhex : ¬(x = 'x' ∨ x = 'u' ∨ x = 'U') := by
      simp only [hx, hu, hU, or_self, not_false_eq_true]
    have hproperty : ¬(x = 'p' ∨ x = 'P') := by simp only [hp, hP, or_self, not_false_eq_true]
    have hclass : shorthand? x = none := Option.not_isSome_iff_eq_none.1 hshort
    refine ⟨⟨pos, (pos.after '\\').after x⟩, (pos.after '\\').after x, ?_⟩
    simp only [escape, Cursor.bump, Cursor.peek, List.head?_cons, if_neg hdigit, if_neg hhex,
      if_neg hproperty, hclass]
    split at h
    · rename_i hescapable
      cases h
      rw [if_pos hescapable]
      rfl
    · rename_i hescapable
      rw [if_neg hescapable, h]
      rfl

theorem scalar?_toNat (c : Char) : scalar? c.toNat = some c := by
  have hvalid : c.toNat.isValidChar := c.valid
  rw [scalar?, dif_pos hvalid]
  rfl

theorem hexDigits_two {a b : Char} {n : Nat} (ha : Text.hexValue a = some (n / 16))
    (hb : Text.hexValue b = some (n % 16)) :
    hexDigits false 2 0 ⟨pos, a :: b :: k⟩ = .ok (n, ⟨(pos.after a).after b, k⟩) := by
  have hn : (0 * 16 + n / 16) * 16 + n % 16 = n := by omega
  simp only [hexDigits, Cursor.peek, List.head?_cons, ha, Cursor.next, Cursor.bump,
    Cursor.skipBlanks, Bool.false_eq_true, if_false, hb, hn]

theorem hexLiteral_two {a b c : Char} (ha : Text.hexValue a = some (c.toNat / 16))
    (hb : Text.hexValue b = some (c.toNat % 16)) (start : Position) :
    hexLiteral false start 'x' ⟨pos, 'x' :: a :: b :: k⟩ =
      .ok (⟨⟨start, ((pos.after 'x').after a).after b⟩, .byte, c⟩,
        ⟨((pos.after 'x').after a).after b, k⟩) := by
  have hnext : Cursor.next false ⟨pos, 'x' :: a :: b :: k⟩ = ⟨pos.after 'x', a :: b :: k⟩ := rfl
  unfold hexLiteral
  simp only [hnext]
  split
  · rename_i h
    cases h
  · -- A brace is no digit.
    rename_i h
    cases h
    have hnone : Text.hexValue '{' = none := by decide
    rw [hnone] at ha
    cases ha
  · have hcount : hexCount 'x' = 2 := rfl
    rw [hcount, hexDigits_two ha hb]
    simp only [bind, Except.bind, scalar?_toNat]
    rfl

/-- A character of ASCII is read back from its number in two digits. -/
theorem escape_hex {c : Char} (h : c.toNat < 0x80) :
    ∃ span after, escape false ⟨pos, '\\' :: 'x' :: (hexDigitsUpper 2 c.toNat ++ k)⟩ =
      .ok (.literal ⟨span, .byte, c⟩, ⟨after, k⟩) := by
  have digits : ∀ n < 0x80,
      (hexDigitsUpper 2 n).map Text.hexValue = [some (n / 16), some (n % 16)] := by decide
  obtain ⟨a, ds, hcons, ha, hds⟩ := List.map_eq_cons_iff.1 (digits c.toNat h)
  obtain ⟨b, bs, rfl, hb, hnil⟩ := List.map_eq_cons_iff.1 hds
  obtain rfl := List.map_eq_nil_iff.1 hnil
  have hx : escape false ⟨pos, '\\' :: 'x' :: a :: b :: k⟩ =
      (hexLiteral false pos 'x' ⟨pos.after '\\', 'x' :: a :: b :: k⟩ >>= fun x =>
        .ok (.literal x.1, x.2)) := rfl
  rw [hexLiteral_two ha hb] at hx
  rw [hcons]
  exact ⟨_, _, hx⟩

end

/-! ## 2. Literals of the source dialect -/

/-- Whether a text starts with what is read as one character, with `k` after it; it does not start
with an operator. -/
def ReadsChar (c : Char) (pos : Position) (i k : List Char) : Prop :=
  ∃ x l after, i.head? = some x ∧ (x = '\\' ∨ metaOutside.contains x = false) ∧
    primitive false ⟨pos, i⟩ x = .ok (.literal l, ⟨after, k⟩) ∧ l.char = c

theorem readsChar_escape {c : Char} {pos : Position} {i k : List Char} {spelling : Spelling}
    (h : ∃ span after, escape false ⟨pos, '\\' :: i⟩ =
      .ok (.literal ⟨span, spelling, c⟩, ⟨after, k⟩)) : ReadsChar c pos ('\\' :: i) k := by
  obtain ⟨span, after, h⟩ := h
  exact ⟨_, _, after, rfl, .inl rfl, h, rfl⟩

/-- A character without a meaning of its own stands for itself. -/
theorem readsChar_self {c : Char} (h : metaOutside.contains c = false) (pos : Position)
    (k : List Char) : ReadsChar c pos (c :: k) k := by
  refine ⟨c, plainLiteral ⟨pos, c :: k⟩ c, pos.after c, rfl, .inr h, ?_, rfl⟩
  unfold primitive
  split
  case h_5 => rfl
  all_goals exact absurd h (by decide)

/-- A character that is written out is read back, whatever follows it. -/
theorem readsChar_escapeChar (c : Char) (pos : Position) (k : List Char) :
    ReadsChar c pos (escapeChar metaOutside c ++ k) k := by
  unfold escapeChar
  iterate 5
    split
    · rename_i hc
      subst hc
      exact readsChar_escape (escape_plain (by decide))
  split
  · rename_i hcontrol
    have hlt : c.toNat < 0x80 := by
      rcases hcontrol with h | rfl
      · omega
      · decide
    exact readsChar_escape (escape_hex hlt)
  split
  · rename_i hspecial
    have hself : metaOutside.all (fun x => plainEscape? x == some x) = true := by decide
    have hx := List.all_eq_true.1 hself c (List.contains_iff_mem.1 hspecial)
    exact readsChar_escape (escape_plain (beq_iff_eq.1 hx))
  · rename_i hplain
    exact readsChar_self (Bool.eq_false_iff.2 hplain) pos k

/-- What starts with no operator is one part that holds no others. -/
theorem step_primitive {s : State} {x : Char} (h : x = '\\' ∨ metaOutside.contains x = false) :
    step s x = (do
      let (p, c) ← primitive s.blank s.cursor x
      return { s with parts := s.parts.push p.toRegex, cursor := c }) := by
  unfold step
  split
  case h_9 => rfl
  all_goals exact absurd h (by decide)

theorem parseFrom_end {s : State} (hblank : s.blank = false) (hrest : s.cursor.rest = [])
    (fuel : Nat) : parseFrom fuel s = finish s := by
  have hskip : s.cursor.skipBlanks s.blank = s.cursor := by rw [hblank]; rfl
  have hpeek : s.cursor.peek = none := by rw [Cursor.peek, hrest]; rfl
  unfold parseFrom
  dsimp only
  rw [hskip, hpeek]
  cases fuel <;> rfl

theorem parseFrom_step {s : State} {x : Char} (hblank : s.blank = false)
    (hx : s.cursor.rest.head? = some x) (fuel : Nat) :
    parseFrom (fuel + 1) s = step s x >>= parseFrom fuel := by
  have hskip : s.cursor.skipBlanks s.blank = s.cursor := by rw [hblank]; rfl
  have hpeek : s.cursor.peek = some x := hx
  conv_lhs => unfold parseFrom
  dsimp only
  rw [hskip, hpeek]

/-- A text that is written out is read as the literals of its characters.  The induction is on the
text: a round of the reader takes one character of it. -/
theorem parseFrom_quoted {text : List Char} {fuel : Nat} {s : State} (hframes : s.frames = [])
    (hblank : s.blank = false) (hrest : s.cursor.rest = text.flatMap (escapeChar metaOutside))
    (hfuel : text.length ≤ fuel) :
    ∃ (ls : List Literal) (stop : Position), ls.map Literal.char = text ∧
      parseFrom fuel s = .ok (Sequence.finish
        ⟨s.parts.start, (ls.map Regex.literal).reverse ++ s.parts.taken⟩ stop) := by
  induction text generalizing fuel s with
  | nil =>
    refine ⟨[], s.cursor.pos, rfl, ?_⟩
    rw [parseFrom_end hblank hrest, finish, hframes]
    rfl
  | cons c text ih =>
    rw [List.length_cons] at hfuel
    obtain ⟨fuel, rfl⟩ := Nat.exists_eq_add_of_le' (Nat.le_of_add_left_le hfuel)
    rw [List.flatMap_cons] at hrest
    obtain ⟨x, l, after, hx, hplain, hread, rfl⟩ :=
      readsChar_escapeChar c s.cursor.pos (text.flatMap (escapeChar metaOutside))
    rw [← hrest] at hx hread
    have hstep : step s x = .ok { s with
        parts := s.parts.push (.literal l)
        cursor := ⟨after, text.flatMap (escapeChar metaOutside)⟩ } := by
      rw [step_primitive hplain, hblank]
      change (primitive false ⟨s.cursor.pos, s.cursor.rest⟩ x >>= _ : Except _ _) = _
      rw [hread]
      rfl
    obtain ⟨ls, stop, hls, hparse⟩ := ih (s := { s with
        parts := s.parts.push (.literal l)
        cursor := ⟨after, text.flatMap (escapeChar metaOutside)⟩ }) hframes hblank rfl
      (Nat.le_of_add_le_add_right hfuel)
    refine ⟨l :: ls, stop, congrArg _ hls, ?_⟩
    rw [parseFrom_step hblank hx, hstep]
    refine hparse.trans ?_
    rw [List.map_cons, List.reverse_cons, List.append_assoc]
    rfl

/-- The parts of a pattern in the order of the text: several are a row. -/
theorem Sequence.finish_reverse (start stop : Position) (rs : List Regex) :
    Sequence.finish ⟨start, rs.reverse⟩ stop =
      match rs with
      | [] => .empty ⟨start, stop⟩
      | [r] => r
      | rs => .concat ⟨start, stop⟩ rs := by
  match rs with
  | [] | [r] => rfl
  | r :: r' :: rs =>
    unfold Sequence.finish
    split
    · rename_i h
      exact absurd (List.reverse_eq_nil_iff.1 h) (List.cons_ne_nil _ _)
    · rename_i h
      exact absurd (List.reverse_eq_iff.1 h) (by simp)
    · exact congrArg _ (List.reverse_reverse _)

/-! ## 3. Conversion -/

section Literals

variable (ls : List Literal)

theorem checkDepths_literals (depth : Nat) :
    Regex.checkDepths depth (ls.map Regex.literal) = .ok () := by
  induction ls with
  | nil => rfl
  | cons l ls ih => exact ih

theorem checkAll_literals : Regex.checkAll {} (ls.map Regex.literal) = .ok () := by
  induction ls with
  | nil => rfl
  | cons l ls ih => exact ih

theorem partsToEcma_literals :
    Regex.partsToEcma {} (ls.map Regex.literal) = .ok (ls.map fun l => .char l.char) := by
  induction ls with
  | nil => rfl
  | cons l ls ih => exact Except.bind_eq_ok.2 ⟨_, rfl, Except.bind_eq_ok.2 ⟨_, ih, rfl⟩⟩

theorem printParts_literals : Ecma.printParts (ls.map fun l => .char l.char) =
    (ls.map Literal.char).flatMap (escapeChar metaOutside) := by
  induction ls with
  | nil => rfl
  | cons l ls ih => exact congrArg (escapeChar metaOutside l.char ++ ·) ih

/-- Literals in a row mean something, do not nest, and are converted to the text that writes them
out. -/
theorem toEcma_literals (start stop : Position) :
    ∃ e, (Sequence.finish ⟨start, (ls.map Regex.literal).reverse⟩ stop).checkDepth 0 = .ok () ∧
      (Sequence.finish ⟨start, (ls.map Regex.literal).reverse⟩ stop).check {} = .ok () ∧
      (Sequence.finish ⟨start, (ls.map Regex.literal).reverse⟩ stop).toEcma {} = .ok e ∧
      e.print = (ls.map Literal.char).flatMap (escapeChar metaOutside) := by
  rw [Sequence.finish_reverse]
  match ls with
  | [] => exact ⟨.empty, rfl, rfl, rfl, rfl⟩
  | [l] => exact ⟨.char l.char, rfl, rfl, rfl, (List.flatMap_singleton _ _).symm⟩
  | l :: l' :: ls =>
    let several := l :: l' :: ls
    refine ⟨.concat (several.map fun l => .char l.char), checkDepths_literals several 1,
      checkAll_literals several, Except.bind_eq_ok.2 ⟨_, partsToEcma_literals several, rfl⟩, ?_⟩
    rw [Ecma.print]
    exact printParts_literals several

end Literals

/-- A text is at most as long as what writes it out. -/
theorem length_le_length_escaped (text : List Char) :
    text.length ≤ (text.flatMap (escapeChar metaOutside)).length := by
  induction text with
  | nil => exact Nat.le_refl _
  | cons c text ih =>
    obtain ⟨x, _, _, hx, -⟩ := readsChar_escapeChar c .start []
    rw [List.append_nil] at hx
    have hpos := List.length_pos_of_mem (List.mem_of_head? hx)
    rw [List.flatMap_cons, List.length_append, List.length_cons]
    omega

/-- The conversion gives back a text that is written out. -/
theorem convertText_escapeText (s : String) : convertText (escapeText s) = .ok (escapeText s) := by
  have hchars : (escapeText s).toList = s.toList.flatMap (escapeChar metaOutside) :=
    String.toList_ofList
  obtain ⟨ls, stop, hls, hparse⟩ := parseFrom_quoted
    (s := ⟨[], ⟨.start, []⟩, false, [], Cursor.ofPattern (escapeText s)⟩) rfl rfl hchars
    ((length_le_length_escaped _).trans (congrArg List.length hchars).ge)
  rw [List.append_nil] at hparse
  obtain ⟨e, hdepth, hcheck, he, hprint⟩ := toEcma_literals ls .start stop
  have hr : parse (escapeText s) = .ok _ :=
    Except.bind_eq_ok.2 ⟨_, hparse, Except.bind_eq_ok.2 ⟨(), hdepth, rfl⟩⟩
  have hconvert : convert (escapeText s) = .ok e :=
    Except.bind_eq_ok.2 ⟨_, Except.mapError_eq_ok.2 hr,
      Except.bind_eq_ok.2 ⟨(), Except.mapError_eq_ok.2 hcheck, he⟩⟩
  have htext : e.text = escapeText s := by
    rw [Ecma.text, hprint, hls]
    rfl
  exact Except.map_eq_ok.2 ⟨e, hconvert, htext⟩

/-! ## 4. Matches -/

/-- Whether a pattern, as it is read in a mode, can match from one place of a text to another. -/
def Grammar.Mode.MatchesBetween (m : Mode) (pattern : List Char) (u : List Nat) (i j : Nat) :
    Prop :=
  ∃ tree, Reads m false .disjunction (m.source pattern) [] tree ∧ tree.Matches u i j

/-- A text that is written out is its own conversion, and it matches between two places of a text
just if that part of the text is the same. -/
theorem escapeText_fixed (s : String) :
    convertText (escapeText s) = .ok (escapeText s) ∧
      ∀ (m : Mode) (u : List Nat) (i j : Fin (u.length + 1)),
        m.MatchesBetween (escapeText s).toList u i j ↔
          i ≤ j ∧ u.extract i j = m.encodeText s.toList := by
  refine ⟨convertText_escapeText s, fun m u i j => ?_⟩
  have hread : Reads m false .disjunction (m.source (escapeText s).toList) []
      (literal (m.encodeText s.toList) .empty) := by
    have hempty : Reads m false .alternative [] [] .empty := .empty
    have h := reads_literal s.toList hempty
    rw [List.append_nil] at h
    rw [escapeText, String.toList_ofList]
    exact .only h
  have hmatch : m.MatchesBetween (escapeText s).toList u i j ↔
      m.encodeText s.toList <+: u.drop i ∧ i + (m.encodeText s.toList).length = j :=
    hread.exists_iff.trans matches_literal
  have hi := i.isLt
  have hj := j.isLt
  rw [hmatch, List.prefix_iff_eq_take, List.extract_eq_take_drop, Fin.le_def, eq_comm]
  constructor
  · rintro ⟨htake, hlength⟩
    refine ⟨by omega, ?_⟩
    rw [← hlength, Nat.add_sub_cancel_left, htake]
  · rintro ⟨hle, hextract⟩
    have hlength : (m.encodeText s.toList).length = j - i := by
      rw [← hextract, List.length_take, List.length_drop]
      omega
    rw [hlength]
    exact ⟨hextract, by omega⟩

example : escapeText "1.5\u00b5s\n" = "1\\.5\u00b5s\\n" := by decide

end ProtoSchema.Pattern
