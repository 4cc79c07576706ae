import ProtoSchema.Json.Literal

/-!
# Tokens of JSON text

A text is a sequence of tokens with white space between them.  A token that is broken is kept with
its fault, because whether and how the fault is reported depends on what the token is used for.
Nothing after a token that cannot be skipped is ever looked at, so the sequence ends there.
-/

namespace ProtoSchema.Json

/-- The characters that give a text its structure. -/
inductive Mark
  | openBrace
  | closeBrace
  | openBracket
  | closeBracket
  | colon
  | comma
deriving DecidableEq, Repr, Inhabited

def Mark.ofChar? : Char → Option Mark
  | '{' => some openBrace
  | '}' => some closeBrace
  | '[' => some openBracket
  | ']' => some closeBracket
  | ':' => some colon
  | ',' => some comma
  | _ => none

/-- What a token is.  A number and a string have a value, and a verdict for the case that they are
skipped. -/
inductive Lexeme
  | mark (m : Mark)
  | null
  | bool (b : Bool)
  | number (value : Except Fault Number) (skipped : Except Fault Unit)
  | text (value : Except Fault String) (skipped : Except Fault Unit)
  | brokenWord (first : Char) (fault : Fault)
  | stray
  | endOfText

/-- A lexeme with its place: where it starts, where it stops, and where the next token starts. -/
structure Token where
  lexeme : Lexeme
  start : Nat
  stop : Nat
  next : Nat

def Token.is (t : Token) (m : Mark) : Bool :=
  match t.lexeme with
  | .mark m' => m' = m
  | _ => false

def Token.isEnd (t : Token) : Bool :=
  match t.lexeme with
  | .endOfText => true
  | _ => false

/-- The fault of a token that cannot stand where it stands: one fault if it is the end of the text,
another one otherwise.  A token is seen by its first byte. -/
def Token.rejected (t : Token) (ended other : GrammarFault) : Fault :=
  if t.isEnd then faultAt ended t.start else faultAt other (t.start + 1)

def isBlank (c : Char) : Bool := c = ' ' || c = '\n' || c = '\t' || c = '\r'

/-- The characters after white space, and the offset of the first. -/
def skipBlank (offset : Nat) : List Char → List Char × Nat
  | [] => ([], offset)
  | c :: cs => if isBlank c then skipBlank (offset + 1) cs else (c :: cs, offset)

/-- Compares the text with the rest of a word. -/
def scanWord (offset : Nat) : List Char → List Char → Reading Unit
  | [], cs => .ok ((), cs, offset)
  | _ :: _, [] => .error (faultAt .endInValue offset)
  | w :: ws, c :: cs =>
    if w = c then scanWord (offset + 1) ws cs else .error (faultAt .expectedWord (offset + 1))

/-- The lexeme at the head of a text, and what follows it; nothing follows one that cannot be
skipped. -/
def scanLexeme (offset : Nat) (c : Char) (cs : List Char) : Lexeme × Option (List Char × Nat) :=
  let word := fun (lexeme : Lexeme) (rest : String) =>
    match scanWord (offset + 1) rest.toList cs with
    | .ok ((), cs, offset) => (lexeme, some (cs, offset))
    | .error fault => (.brokenWord c fault, none)
  match Mark.ofChar? c, c with
  | some m, _ => (.mark m, some (cs, offset + 1))
  | none, 'n' => word .null "ull"
  | none, 't' => word (.bool true) "rue"
  | none, 'f' => word (.bool false) "alse"
  | none, '"' =>
    let value := (readString none [] (offset + 1) cs).map (·.1)
    match skipString (offset + 1) cs with
    | .ok ((), cs, offset) => (.text value (.ok ()), some (cs, offset))
    | .error fault => (.text value (.error fault), none)
  | none, c =>
    if c = '-' ∨ Text.isDigit c then
      let value := do
        let (literal, _, stop) ← scanNumber true offset (c :: cs)
        literal.value stop
      match scanNumber false offset (c :: cs) with
      | .ok (_, cs, offset) => (.number value (.ok ()), some (cs, offset))
      | .error fault => (.number value (.error fault), none)
    else (.stray, none)

/-- The tokens of a text and the one that ends it, the end of the text or a token after which
nothing is looked at.  A token takes at least one character, so `fuel` is the number of characters
at most. -/
def tokensFrom : (fuel : Nat) → (offset : Nat) → List Char → List Token × Token
  | fuel, offset, cs =>
    match fuel, skipBlank offset cs with
    | fuel + 1, (c :: cs, start) =>
      match scanLexeme start c cs with
      | (lexeme, some (cs, stop)) =>
        let token := ⟨lexeme, start, stop, (skipBlank stop cs).2⟩
        let (tokens, last) := tokensFrom fuel stop cs
        (token :: tokens, last)
      | (lexeme, none) => ([], ⟨lexeme, start, start, start⟩)
    | _, (_, start) => ([], ⟨.endOfText, start, start, start⟩)

def tokens (text : String) : List Token × Token :=
  let cs := text.toList
  tokensFrom cs.length 0 cs

end ProtoSchema.Json
