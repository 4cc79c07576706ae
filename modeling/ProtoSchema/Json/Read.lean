import ProtoSchema.Json.Decode

/-!
# Reading any JSON value

A text is read as a value of whatever type it is.  Members keep their order, also where a key is
given again.
-/

namespace ProtoSchema.Json

namespace Decoder

/-- The value of a token that stands for one. -/
def valueOf (t : Token) : Except Failure Json :=
  match t.lexeme with
  | .null => .ok .null
  | .bool b => .ok (.bool b)
  | .number value _ => (value.mapError .placed).map .number
  | .text value _ => (value.mapError .placed).map .string
  | .brokenWord _ fault => .error (.placed fault)
  | .mark _ | .stray | .endOfText => t.reject .endInValue .expectedValue

mutual

def value (levels : Nat) : Node → Except Failure Json
  | .leaf t => valueOf t
  | .list opening items tail => enter opening levels fun levels =>
    (valueItems levels tail items).map .array
  | .dict opening entries tail => enter opening levels fun levels =>
    (valueEntries levels tail entries).map .object

def valueItems (levels : Nat) (tail : Token) : List (Item Node) → Except Failure (List Json)
  | [] => if tail.is .closeBracket then .ok [] else tail.reject .endInList .expectedValue
  | ⟨v, after⟩ :: rest => do
    let x ← value levels v
    if ← goesOn after tail rest then return x :: (← valueItems levels tail rest) else return [x]

def valueEntries (levels : Nat) (tail : Token) :
    List (Entry Node) → Except Failure (List (String × Json))
  | [] => if tail.is .closeBrace then .ok [] else tail.reject .endInObject .keyNotString
  | ⟨key, colon, v, after⟩ :: rest => do
    let k ← textOf key "a string"
    expectColon colon
    let x ← value levels v
    if after.is .closeBrace then return [(k, x)]
    if !after.is .comma then after.reject .endInObject .expectedCommaOrBrace
    if !rest.isEmpty then return (k, x) :: (← valueEntries levels tail rest)
    if tail.is .closeBrace then tail.reject .trailingComma .trailingComma
    tail.reject .endInValue .keyNotString

end

end Decoder

/-- The value that a text holds. -/
def parse (text : String) : Except Failure Json := Decoder.run Decoder.value text

end ProtoSchema.Json
