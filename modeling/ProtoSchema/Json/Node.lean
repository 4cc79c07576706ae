import ProtoSchema.Json.Token
import ProtoSchema.Json.Value

/-!
# The tree of a JSON text

Every sequence of tokens has a tree, whether or not it is grammatical.  The tree keeps each token
at the place where it was met, so that a walk in the order of the text meets the first problem
first: a token that cannot stand where it stands is a leaf, or the tail of the container that it
breaks off.
-/

namespace ProtoSchema.Json

/-- A value in a list, and the token after it. -/
structure Item (ν : Type) where
  value : ν
  after : Token

/-- A member of an object: its key, the token in the place of the colon, its value, and the token
after it. -/
structure Entry (ν : Type) where
  key : Token
  colon : Token
  value : ν
  after : Token

/-- A value.  The tail of a container is the token that ended it: the token after its last item or
entry, or the one after a comma or the opening mark if no item or entry follows. -/
inductive Node
  | leaf (token : Token)
  | list (opening : Token) (items : List (Item Node)) (tail : Token)
  | dict (opening : Token) (entries : List (Entry Node)) (tail : Token)

/-- A container that is being read, up to the value that is read next. -/
inductive Frame
  | list (opening : Token) (items : List (Item Node))
  | dict (opening : Token) (entries : List (Entry Node)) (key colon : Token)

/-- The container once its value has been read, and the token after the value was not a comma. -/
def Frame.finish (value : Node) (after : Token) : Frame → Node
  | list opening items => .list opening (items ++ [⟨value, after⟩]) after
  | dict opening entries key colon => .dict opening (entries ++ [⟨key, colon, value, after⟩]) after

/-- What is read next, inside the containers that are open. -/
inductive Expected
  | value
  | item (opening : Token) (items : List (Item Node))
  | key (opening : Token) (entries : List (Entry Node))
  | colon (opening : Token) (entries : List (Entry Node)) (key : Token)
  | separator (value : Node)

namespace Expected

/-- What is read after the token that starts a value. -/
def ofValue (t : Token) : Expected :=
  if t.is .openBracket then .item t []
  else if t.is .openBrace then .key t []
  else .separator (.leaf t)

/-- One step: the containers that are open, innermost first, and what is read next.  There is no
step after the token that follows the outermost value. -/
def step (outer : List Frame) (t : Token) : Expected → Option (List Frame × Expected)
  | value => some (outer, ofValue t)
  | item opening items =>
    if t.is .closeBracket ∨ t.isEnd then some (outer, .separator (.list opening items t))
    else some (.list opening items :: outer, ofValue t)
  | key opening entries =>
    match t.lexeme with
    | .text .. => some (outer, .colon opening entries t)
    | _ => some (outer, .separator (.dict opening entries t))
  | colon opening entries k => some (.dict opening entries k t :: outer, .value)
  | separator v =>
    match outer with
    | [] => none
    | frame :: rest =>
      if t.is .comma then
        match frame with
        | .list opening items => some (rest, .item opening (items ++ [⟨v, t⟩]))
        | .dict opening entries k c => some (rest, .key opening (entries ++ [⟨k, c, v, t⟩]))
      else some (rest, .separator (frame.finish v t))

/-- The value in progress when the tokens have ended with `last`. -/
def cut (last : Token) : Expected → Node
  | value => .leaf last
  | item opening items => .list opening items last
  | key opening entries => .dict opening entries last
  | colon opening entries k => .dict opening (entries ++ [⟨k, last, .leaf last, last⟩]) last
  | separator v => v

end Expected

/-- Reads tokens into the tree, which comes with the token after it.  Containers that are open when
the tokens have ended all end with the last one. -/
def readTree (last : Token) : List Frame → Expected → List Token → Item Node
  | outer, expected, [] =>
    ⟨outer.foldl (fun v frame => frame.finish v last) (expected.cut last), last⟩
  | outer, expected, t :: ts =>
    match expected.step outer t with
    | some (outer, expected) => readTree last outer expected ts
    | none => ⟨expected.cut t, t⟩

/-- The tree of a text, with the token after it. -/
def Node.ofText (text : String) : Item Node :=
  let (tokens, last) := tokens text
  readTree last [] .value (tokens ++ [last])

end ProtoSchema.Json
