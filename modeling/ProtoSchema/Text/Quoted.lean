import ProtoSchema.Unicode.Property

/-!
# Quoted text

The form in which messages show a string: between double quotes, on one line, with everything that
would not show as itself written as an escape.
-/

namespace ProtoSchema.Text

open Unicode

/-- The digits of a number in base sixteen, in lower case. -/
def hex (n : Nat) : String := String.ofList (Nat.toDigits 16 n)

/-- Controls, separators, and code points that are private or unassigned: none of them has a glyph.
The space among them counts as printable all the same. -/
def withoutGlyph : CodeSet :=
  let categories := ["Cc", "Cf", "Cs", "Co", "Cn", "Zl", "Zp", "Zs"]
  (CodeSet.ofRanges (categories.flatMap (generalCategorySet ·|>.ranges))).diff
    (setOfRuns Table.addedCharacters)

/-- Marks that join the character before them.  The two sound marks of halfwidth Katakana extend a
character too, but stand beside it. -/
def joiningMarks : CodeSet :=
  (((binarySet? "Grapheme_Extend").getD .empty).union (setOfRuns Table.addedExtenders)).diff
    ⟨[⟨0xFF9E, 0xFF9F⟩]⟩

/-- Code points that do not show as themselves: those that have no glyph, those that displays
ignore, and those that would join the character before them. -/
def hiddenCodePoints : CodeSet :=
  (withoutGlyph.union joiningMarks).union
    ((binarySet? "Default_Ignorable_Code_Point").getD .empty)

def isPrintable (c : Char) : Bool :=
  if c.toNat < 128 then 0x20 ≤ c.toNat && c.toNat < 0x7F
  else !hiddenCodePoints.contains c.toNat

/-- One character of a quoted text. -/
def quoteChar (c : Char) : String :=
  match c with
  | '"' => "\\\""
  | '\\' => "\\\\"
  | '\n' => "\\n"
  | '\r' => "\\r"
  | '\t' => "\\t"
  | '\x00' => "\\0"
  | c => if isPrintable c then c.toString else "\\u\x7b" ++ hex c.toNat ++ "\x7d"

/-- A string as messages show it. -/
def quote (s : String) : String := "\"" ++ String.join (s.toList.map quoteChar) ++ "\""

end ProtoSchema.Text
