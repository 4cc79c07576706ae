import ProtoSchema.Unicode.Runs
import ProtoSchema.Unicode.Table.Additions
import ProtoSchema.Unicode.Table.Age
import ProtoSchema.Unicode.Table.Binary
import ProtoSchema.Unicode.Table.Break
import ProtoSchema.Unicode.Table.GeneralCategory
import ProtoSchema.Unicode.Table.Names
import ProtoSchema.Unicode.Table.Script

/-!
# Unicode properties by name

A query names a property, a general category or a script, or a property and one of its values.
Names are compared loosely: case, spaces, hyphens, underscores and a leading `is` do not count.
A query that names nothing fails, and the failure says whether the property or the value is
unknown.  Queries are answered from Unicode 16, and what follows them, the letters and numbers of
names, from Unicode 17.
-/

namespace ProtoSchema.Unicode

/-- What a pattern may write between the braces of a property class. -/
inductive PropertyQuery
  | ofName (name : String)
  | ofValue (name value : String)
deriving DecidableEq, Repr, Inhabited

inductive PropertyError
  | unknownProperty
  | unknownValue
deriving DecidableEq, Repr, Inhabited

/-- The form in which names are compared.  A leading `is` is dropped, unless `c` alone is left:
`isc` is the short name of a property, and `c` is a general category. -/
def normalizeName (name : String) : String :=
  let kept := fun c : Char => c.toNat < 128 && c != ' ' && c != '_' && c != '-'
  let rec letters : List Char → List Char
    | [] => []
    | c :: cs => if kept c then c.toLower :: letters cs else letters cs
  match name.toList with
  | i :: s :: rest =>
    if i.toLower = 'i' ∧ s.toLower = 's' then
      match letters rest with
      | ['c'] => "isc"
      | cs => String.ofList cs
    else String.ofList (letters (i :: s :: rest))
  | cs => String.ofList (letters cs)

/-- The first name of the row that holds `name`, which is in normal form. -/
def canonicalName? (rows : List (List String)) (name : String) : Option String :=
  (rows.find? (·.any (normalizeName · == name))).bind (·.head?)

/-! ## Sets of one property -/

/-- The code points of a general category, or of a group of categories named by one letter. -/
def generalCategorySet (code : String) : CodeSet :=
  setOfClasses Table.generalCategory fun category =>
    category == code || (code == "LC" && ["Lu", "Ll", "Lt"].contains category) ||
      (code.length == 1 && category.startsWith code)

def scriptSet (code : String) : CodeSet := setOfClasses Table.script (· == code)

/-- Reads the rows of a table of exceptions: first code point, count, classes joined by `+`. -/
def exceptionRuns : List String → List (CodeRange × List String)
  | first :: count :: classes :: rest =>
    let lo := decimal first
    (⟨lo, lo + decimal count - 1⟩, classes.splitToList (· == '+')) :: exceptionRuns rest
  | _ => []

/-- The code points whose script extensions hold the script. -/
def scriptExtensionSet (code : String) : CodeSet :=
  let exceptions := exceptionRuns (words Table.scriptExtensions)
  let others : CodeSet := ⟨exceptions.map (·.1)⟩
  ((scriptSet code).diff others).union
    (.ofRanges ((exceptions.filter (·.2.contains code)).map (·.1)))

/-- The code points assigned in the given version or before it. -/
def ageSet (version : String) : CodeSet :=
  let versions := (Table.ageNames.filterMap (·.head?)).takeWhile (· != version) ++ [version]
  setOfClasses Table.age versions.contains

/-- The code points of a binary property, for those that the tables cover. -/
def binarySet? (property : String) : Option CodeSet :=
  (Table.binary.find? (·.1 == property)).map (setOfRuns ·.2)

/-! ## Queries -/

/-- A category that is no category of the table, but a name for a set of code points. -/
def specialCategory? (name : String) : Option CodeSet :=
  if name == "any" then some .all
  else if name == "ascii" then some ⟨[⟨0, 0x7F⟩]⟩
  else if name == "assigned" then some (generalCategorySet "Cn").compl
  else none

/-- A general category by its normalized name; `none` if no category has the name.  Surrogates are
no scalar values, so the category that holds them has a name but no set. -/
def category? (name : String) : Option (Except PropertyError CodeSet) :=
  match specialCategory? name with
  | some set => some (.ok set)
  | none => (canonicalName? Table.generalCategoryNames name).map fun code =>
    if code == "Cs" then .error .unknownValue else .ok (generalCategorySet code)

/-- A script by its normalized name.  Two scripts have a name and no characters. -/
def script? (name : String) : Option (Except PropertyError CodeSet) :=
  (canonicalName? Table.scriptNames name).map fun code =>
    if code == "Hrkt" || code == "Zzzz" then .error .unknownValue else .ok (scriptSet code)

/-- A value of a property that `table` divides the code points by, from the names in `rows`. -/
def valueSet (rows : List (List String)) (table name : String) : Except PropertyError CodeSet :=
  match canonicalName? rows name with
  | none => .error .unknownValue
  | some code =>
    let set := setOfClasses table (· == code)
    if code == "XX" || set.ranges.isEmpty then .error .unknownValue else .ok set

namespace PropertyQuery

/-- A single name is a binary property, else a general category, else a script.  Three short names
of properties are read as the categories that share them. -/
def resolveName (name : String) : Except PropertyError CodeSet :=
  let property :=
    if ["cf", "sc", "lc"].contains name then none
    else canonicalName? Table.propertyNames name
  match property with
  | some property =>
    match binarySet? property with
    | some set => .ok set
    | none => .error .unknownProperty
  | none => ((category? name).orElse fun _ => script? name).getD (.error .unknownProperty)

def resolveValue (name value : String) : Except PropertyError CodeSet :=
  match canonicalName? Table.propertyNames name with
  | none => .error .unknownProperty
  | some "General_Category" => (category? value).getD (.error .unknownValue)
  | some "Script" => (script? value).getD (.error .unknownValue)
  | some "Script_Extensions" =>
    match canonicalName? Table.scriptNames value with
    | none => .error .unknownValue
    | some code =>
      if code == "Hrkt" || code == "Zzzz" then .error .unknownValue
      else .ok (scriptExtensionSet code)
  | some "Age" =>
    match canonicalName? Table.ageNames value with
    | none | some "NA" => .error .unknownValue
    | some version => .ok (ageSet version)
  | some "Grapheme_Cluster_Break" =>
    valueSet Table.graphemeClusterBreakNames Table.graphemeClusterBreak value
  | some "Word_Break" => valueSet Table.wordBreakNames Table.wordBreak value
  | some "Sentence_Break" => valueSet Table.sentenceBreakNames Table.sentenceBreak value
  | some _ => .error .unknownValue

/-- The code points that a query names. -/
def resolve : PropertyQuery → Except PropertyError CodeSet
  | .ofName name => resolveName (normalizeName name)
  | .ofValue name value => resolveValue (normalizeName name) (normalizeName value)

end PropertyQuery

/-! ## Classes with a short spelling -/

/-- Decimal digits. -/
def digits : CodeSet := generalCategorySet "Nd"

/-- White space. -/
def space : CodeSet := (binarySet? "White_Space").getD .empty

/-- The characters of words: letters, marks, digits, connectors and the two joiners. -/
def wordChars : CodeSet :=
  [(binarySet? "Alphabetic").getD .empty, generalCategorySet "M", digits, generalCategorySet "Pc",
    (binarySet? "Join_Control").getD .empty].foldl CodeSet.union .empty

/-! ## Characters of names -/

/-- Letters, in the wide sense of names. -/
def alphabetic : CodeSet :=
  ((binarySet? "Alphabetic").getD .empty).union (setOfRuns Table.addedAlphabetic)

/-- Letters and numbers. -/
def alphanumeric : CodeSet :=
  (alphabetic.union (generalCategorySet "N")).union (setOfRuns Table.addedNumbers)

end ProtoSchema.Unicode
