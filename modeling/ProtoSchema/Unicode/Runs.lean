import ProtoSchema.Unicode.CodeSet

/-!
# Reading run tables

The property tables list runs over the code space as words and decimal lengths.  A table of
classes pairs each length with the class of the run; a table of one property lists lengths that
alternate between outside and inside.
-/

namespace ProtoSchema.Unicode

/-- The value of a word of decimal digits. -/
def decimal (word : String) : Nat :=
  word.foldl (fun n c => 10 * n + (c.toNat - '0'.toNat)) 0

/-- The words of a table, which spaces and line ends separate. -/
def words (table : String) : List String :=
  (table.splitToList fun c => c == ' ' || c == '\n').filter (!·.isEmpty)

/-- Pairs each class with the range of its run, the first run starting at `start`. -/
def classRuns (start : Nat) : List String → List (String × CodeRange)
  | name :: length :: rest =>
    let next := start + decimal length
    (name, ⟨start, next - 1⟩) :: classRuns next rest
  | _ => []

/-- The code points whose class satisfies `p`. -/
def setOfClasses (table : String) (p : String → Bool) : CodeSet :=
  ⟨CodeSet.coalesce (((classRuns 0 (words table)).filter (p ·.1)).map (·.2))⟩

/-- The ranges of a table of one property: the lengths alternate outside, inside. -/
def insideRuns (start : Nat) : List String → List CodeRange
  | outside :: inside :: rest =>
    let lo := start + decimal outside
    let next := lo + decimal inside
    ⟨lo, next - 1⟩ :: insideRuns next rest
  | _ => []

def setOfRuns (table : String) : CodeSet := ⟨insideRuns 0 (words table)⟩

end ProtoSchema.Unicode
