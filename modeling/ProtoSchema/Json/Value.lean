import ProtoSchema.Json.Number
import ProtoSchema.Text.Quoted

/-!
# JSON values and their text

Members of an object keep their order.  The compact form has no white space; the pretty form puts
every item and member on a line of its own, two spaces deeper than its container, and an empty
container on one line.
-/

namespace ProtoSchema

inductive Json
  | null
  | bool (b : Bool)
  | number (n : Number)
  | string (s : String)
  | array (items : List Json)
  | object (members : List (String × Json))
deriving Repr, Inhabited

namespace Json

/-- One character inside a JSON string: only quotes, backslashes and controls are escaped. -/
def escapeChar (c : Char) : String :=
  match c with
  | '"' => "\\\""
  | '\\' => "\\\\"
  | '\x08' => "\\b"
  | '\x0c' => "\\f"
  | '\n' => "\\n"
  | '\r' => "\\r"
  | '\t' => "\\t"
  | c =>
    if c.toNat < 0x20 then
      "\\u00" ++ (if c.toNat < 0x10 then "0" else "") ++ Text.hex c.toNat
    else c.toString

/-- A JSON string literal. -/
def literal (s : String) : String := "\"" ++ String.join (s.toList.map escapeChar) ++ "\""

/-! ## Compact form -/

mutual

def compact : Json → String
  | null => "null"
  | bool b => if b then "true" else "false"
  | number n => n.spell
  | string s => literal s
  | array items => "[" ++ compactItems items ++ "]"
  | object members => "\x7b" ++ compactMembers members ++ "\x7d"

def compactItems : List Json → String
  | [] => ""
  | [v] => compact v
  | v :: rest => compact v ++ "," ++ compactItems rest

def compactMembers : List (String × Json) → String
  | [] => ""
  | [(k, v)] => literal k ++ ":" ++ compact v
  | (k, v) :: rest => literal k ++ ":" ++ compact v ++ "," ++ compactMembers rest

end

/-! ## Pretty form -/

/-- A line end and the indentation of the next line. -/
def newline (depth : Nat) : String := "\n" ++ String.ofList (List.replicate (2 * depth) ' ')

mutual

def prettyAt (depth : Nat) : Json → String
  | null => "null"
  | bool b => if b then "true" else "false"
  | number n => n.spell
  | string s => literal s
  | array [] => "[]"
  | array (v :: rest) =>
    "[" ++ prettyItems (depth + 1) (v :: rest) ++ newline depth ++ "]"
  | object [] => "\x7b\x7d"
  | object (m :: rest) =>
    "\x7b" ++ prettyMembers (depth + 1) (m :: rest) ++ newline depth ++ "\x7d"

def prettyItems (depth : Nat) : List Json → String
  | [] => ""
  | [v] => newline depth ++ prettyAt depth v
  | v :: rest => newline depth ++ prettyAt depth v ++ "," ++ prettyItems depth rest

def prettyMembers (depth : Nat) : List (String × Json) → String
  | [] => ""
  | [(k, v)] => newline depth ++ literal k ++ ": " ++ prettyAt depth v
  | (k, v) :: rest =>
    newline depth ++ literal k ++ ": " ++ prettyAt depth v ++ "," ++ prettyMembers depth rest

end

def pretty (v : Json) : String := prettyAt 0 v

end Json

end ProtoSchema
