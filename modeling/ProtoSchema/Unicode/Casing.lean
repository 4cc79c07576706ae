import ProtoSchema.Unicode.Runs
import ProtoSchema.Unicode.Table.Casing

/-!
# Case

The full case mappings of single characters, independent of context and language, and the classes
of characters that simple case folding takes to one character.
-/

namespace ProtoSchema.Unicode

/-- Reads one row of a mapping: a code point, `>`, and the code points it becomes. -/
def mappingRow (row : String) : Nat × List Char :=
  match row.splitToList (· == '>') with
  | [source, target] =>
    (decimal source, (target.splitToList (· == '+')).map fun n => Char.ofNat (decimal n))
  | _ => (0, [])

def upperRows : List (Nat × List Char) := (words Table.upper).map mappingRow

def lowerRows : List (Nat × List Char) := (words Table.lower).map mappingRow

/-- The upper-case form of a character, which may have several characters. -/
def toUpper (c : Char) : List Char :=
  if c.toNat < 128 then [c.toUpper] else (upperRows.lookup c.toNat).getD [c]

/-- The lower-case form of a character, which may have several characters. -/
def toLower (c : Char) : List Char :=
  if c.toNat < 128 then [c.toLower] else (lowerRows.lookup c.toNat).getD [c]

/-- The classes of simple case folding that have more than one member. -/
def foldClasses : List (List Nat) := Table.folding

/-- Adds to a set what differs from a member only in case. -/
def CodeSet.caseClosure (s : CodeSet) : CodeSet := s.closeUnder foldClasses

end ProtoSchema.Unicode
