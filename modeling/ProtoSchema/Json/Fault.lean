import ProtoSchema.Json.Number
import ProtoSchema.Text.Quoted

/-!
# Faults in JSON text

Reading reports the first thing that is wrong in the order of the text.  A fault is a problem of
the grammar, or a value that is well formed and does not fit.  Its place is an offset in bytes.
-/

namespace ProtoSchema.Json

/-- A problem of the grammar. -/
inductive GrammarFault
  | endInValue
  | endInList
  | endInObject
  | endInString
  | expectedColon
  | expectedCommaOrBracket
  | expectedCommaOrBrace
  | expectedWord
  | expectedValue
  | invalidEscape
  | invalidNumber
  | numberOutOfRange
  | controlInString
  | keyNotString
  | loneSurrogate
  | unfinishedPair
  | trailingComma
  | trailingCharacters
  | nestedTooDeep
deriving DecidableEq, Repr, Inhabited

namespace GrammarFault

def message : GrammarFault → String
  | endInValue => "EOF while parsing a value"
  | endInList => "EOF while parsing a list"
  | endInObject => "EOF while parsing an object"
  | endInString => "EOF while parsing a string"
  | expectedColon => "expected `:`"
  | expectedCommaOrBracket => "expected `,` or `]`"
  | expectedCommaOrBrace => "expected `,` or `\x7d`"
  | expectedWord => "expected ident"
  | expectedValue => "expected value"
  | invalidEscape => "invalid escape"
  | invalidNumber => "invalid number"
  | numberOutOfRange => "number out of range"
  | controlInString => "control character (\\u0000-\\u001F) found while parsing a string"
  | keyNotString => "key must be a string"
  | loneSurrogate => "lone leading surrogate in hex escape"
  | unfinishedPair => "unexpected end of hex escape"
  | trailingComma => "trailing comma"
  | trailingCharacters => "trailing characters"
  | nestedTooDeep => "recursion limit exceeded"

/-- Whether the text ended too early. -/
def isEnd : GrammarFault → Bool
  | endInValue | endInList | endInObject | endInString => true
  | _ => false

end GrammarFault

/-- What stood in the place of the expected value. -/
inductive Found
  | null
  | bool (b : Bool)
  | number (n : Number)
  | string (s : String)
  | sequence
  | map
  | bareVariant
deriving DecidableEq, Repr, Inhabited

def Found.message : Found → String
  | null => "null"
  | bool b => if b then "boolean `true`" else "boolean `false`"
  | number (.int n) => "integer `" ++ toString n ++ "`"
  | number (.float x) => "floating point `" ++ Number.spellFloat x ++ "`"
  | string s => "string " ++ Text.quote s
  | sequence => "sequence"
  | map => "map"
  | bareVariant => "unit variant"

/-- A well-formed value that does not fit. -/
inductive DataFault
  | invalidType (found : Found) (expected : String)
  | invalidInteger (n : Int) (expected : String)
  | invalidLength (length : Nat) (expected : String)
  | unknownField (name : String) (known : List String)
  | duplicateField (name : String)
  | missingField (name : String)
  | unknownVariant (name : String) (known : List String)
deriving DecidableEq, Repr, Inhabited

/-- The names that would have been accepted. -/
def oneOf : List String → String
  | [] => "there are no fields"
  | [a] => "expected `" ++ a ++ "`"
  | [a, b] => "expected `" ++ a ++ "` or `" ++ b ++ "`"
  | names => "expected one of " ++ ", ".intercalate (names.map fun n => "`" ++ n ++ "`")

def DataFault.message : DataFault → String
  | invalidType found expected =>
    "invalid type: " ++ found.message ++ ", expected " ++ expected
  | invalidInteger n expected =>
    "invalid value: integer `" ++ toString n ++ "`, expected " ++ expected
  | invalidLength length expected =>
    "invalid length " ++ toString length ++ ", expected " ++ expected
  | unknownField name known => "unknown field `" ++ name ++ "`, " ++ oneOf known
  | duplicateField name => "duplicate field `" ++ name ++ "`"
  | missingField name => "missing field `" ++ name ++ "`"
  | unknownVariant name known => "unknown variant `" ++ name ++ "`, " ++ oneOf known

inductive Cause
  | grammar (fault : GrammarFault)
  | data (fault : DataFault)
deriving DecidableEq, Repr, Inhabited

def Cause.message : Cause → String
  | grammar fault => fault.message
  | data fault => fault.message

/-- The classes of faults: the text ended, the grammar is broken, or a value does not fit. -/
inductive Category
  | eof
  | grammar
  | data
deriving DecidableEq, Repr, Inhabited

def Cause.category : Cause → Category
  | grammar fault => if fault.isEnd then .eof else .grammar
  | data _ => .data

/-- A line and a column, both counted from one; a column is a number of bytes. -/
structure Position where
  line : Nat
  column : Nat
deriving DecidableEq, Repr, Inhabited

/-- The position of the byte at an offset, for text that starts at offset `start`.  The column is
the number of bytes before it on its line; an offset past the end counts as the end. -/
def positionFrom (target start : Nat) (p : Position) : List Char → Position
  | [] => p
  | c :: cs =>
    if target ≤ start then p
    else if c = '\n' then positionFrom target (start + 1) ⟨p.line + 1, 0⟩ cs
    else
      positionFrom target (start + c.utf8Size)
        ⟨p.line, p.column + min c.utf8Size (target - start)⟩ cs

def positionOf (text : String) (offset : Nat) : Position :=
  positionFrom offset 0 ⟨1, 0⟩ text.toList

/-- A cause with its place, an offset in bytes. -/
structure Fault where
  cause : Cause
  offset : Nat
deriving DecidableEq, Repr, Inhabited

/-- The message of a fault in `text`, with its position. -/
def Fault.describe (text : String) (fault : Fault) : String :=
  let p := positionOf text fault.offset
  fault.cause.message ++ " at line " ++ toString p.line ++ " column " ++ toString p.column

end ProtoSchema.Json
