import SelectorTutorial.Json.Numeral
import SelectorTutorial.Number.Digits
import SelectorTutorial.Text.Utf8

/-!
Reading a JSON text.  The text is cut into tokens and the tokens are put together; what is
well-formed but holds no value is marked in its place and decides nothing by itself.
-/

namespace SelectorTutorial

namespace Json

/-- What a text between quotes is made of. -/
inductive Piece where
  /-- A character, written as itself or escaped. -/
  | char (c : Char)
  /-- One half of a surrogate pair, escaped. -/
  | half (unit : Nat)
  /-- Bytes that are not a character. -/
  | fault
deriving DecidableEq, Repr

/-- The number written by four hexadecimal digits. -/
def fourHex? (digits : List Symbol) : Option Nat := do
  let values ← digits.mapM fun symbol => symbol.bind Digits.value?
  if values.length = 4 then some (Digits.toNat 16 values) else none

/-- The character for a letter after a backslash. -/
def escape? (c : Char) : Option Char :=
  match c with
  | '"' => some '"'
  | '\\' => some '\\'
  | '/' => some '/'
  | 'b' => some '\x08'
  | 'f' => some '\x0c'
  | 'n' => some '\n'
  | 'r' => some '\r'
  | 't' => some '\t'
  | _ => none

/-- A unit of UTF-16 is a character unless it is half of a pair. -/
def Piece.ofUnit (unit : Nat) : Piece :=
  if 0xD800 ≤ unit ∧ unit ≤ 0xDFFF then .half unit else .char (.ofNat unit)

/-- The pieces up to the closing quote, and what follows it.  Controls have to be escaped. -/
def pieces? : List Symbol → Option (List Piece × List Symbol)
  | [] => none
  | some '"' :: rest => some ([], rest)
  | some '\\' :: some 'u' :: a :: b :: c :: d :: rest => do
    let unit ← fourHex? [a, b, c, d]
    let (pieces, rest) ← pieces? rest
    return (.ofUnit unit :: pieces, rest)
  | some '\\' :: some c :: rest => do
    let escaped ← escape? c
    let (pieces, rest) ← pieces? rest
    return (.char escaped :: pieces, rest)
  | some c :: rest => do
    if c == '\\' || c.toNat < 0x20 then none
    let (pieces, rest) ← pieces? rest
    return (.char c :: pieces, rest)
  | none :: rest => do
    let (pieces, rest) ← pieces? rest
    return (.fault :: pieces, rest)

/-- Halves make a character only as a high one directly before a low one. -/
def joinPieces : List Piece → Option (List Char)
  | [] => some []
  | .char c :: rest => (joinPieces rest).map (c :: ·)
  | .half high :: .half low :: rest =>
    if high < 0xDC00 ∧ 0xDC00 ≤ low then
      (joinPieces rest).map (.ofNat (0x10000 + (high - 0xD800) * 0x400 + (low - 0xDC00)) :: ·)
    else none
  | _ => none

/-- A token of a JSON text. -/
inductive Token where
  | openList
  | closeList
  | openObject
  | closeObject
  | comma
  | colon
  /-- A text, or `none` if it is not Unicode. -/
  | text (value : Option String)
  /-- A word or a number. -/
  | literal (value : Json)
deriving Repr

/-- The blanks of JSON are space, tab, line feed and carriage return. -/
def isSpace (symbol : Symbol) : Bool :=
  symbol == some ' ' || symbol == some '\n' || symbol == some '\t' || symbol == some '\r'

/-- The characters that numbers are made of. -/
def isNumeral (c : Char) : Bool :=
  c.isDigit || c == '-' || c == '+' || c == '.' || c == 'e' || c == 'E'

/-- The characters at the head that satisfy `p`. -/
def leading (p : Char → Bool) : List Symbol → List Char
  | some c :: rest => if p c then c :: leading p rest else []
  | _ => []

/-- A word made of letters. -/
def word? (letters : List Char) : Option Token :=
  if letters = "null".toList then some (.literal .null)
  else if letters = "true".toList then some (.literal (.bool true))
  else if letters = "false".toList then some (.literal (.bool false))
  else none

/-- A number, which may be well-formed without being in range. -/
def numeral? (cs : List Char) : Option Token :=
  (Numeral.ofChars? cs).map fun n =>
    .literal (match n.number? with
      | some value => .number value
      | none => .unreadable)

/-- The token that starts with a character, and what follows it. -/
def token? (c : Char) (rest : List Symbol) : Option (Token × List Symbol) :=
  match c with
  | '[' => some (.openList, rest)
  | ']' => some (.closeList, rest)
  | '{' => some (.openObject, rest)
  | '}' => some (.closeObject, rest)
  | ',' => some (.comma, rest)
  | ':' => some (.colon, rest)
  | '"' => (pieces? rest).map fun (pieces, rest) => (.text ((joinPieces pieces).map .ofList), rest)
  | _ =>
    if c.isAlpha then
      let letters := c :: leading Char.isAlpha rest
      (word? letters).map (·, rest.drop (letters.length - 1))
    else
      let numeral := c :: leading isNumeral rest
      (numeral? numeral).map (·, rest.drop (numeral.length - 1))

/-- The tokens of a text of at most `bound` symbols. -/
def tokensWithin? : (bound : Nat) → List Symbol → Option (List Token)
  | 0, symbols => if symbols.all isSpace then some [] else none
  | bound + 1, symbols =>
    match symbols.dropWhile isSpace with
    | [] => some []
    | none :: _ => none
    | some c :: rest => do
      let (token, rest) ← token? c rest
      let tokens ← tokensWithin? bound rest
      return token :: tokens

/-- The tokens of a text. -/
def tokens? (symbols : List Symbol) : Option (List Token) :=
  tokensWithin? symbols.length symbols

/-- An object one of whose names is not Unicode can be passed over but not read. -/
def ofMembers (members : List (Option String × Json)) : Json :=
  match members.mapM fun (name, value) => name.map (·, value) with
  | some named => .object named
  | none => .unreadable

mutual

/-- The value at the head of some tokens; `bound` is at least the number of its tokens. -/
def value? : (bound : Nat) → List Token → Option (Json × List Token)
  | 0, _ => none
  | bound + 1, tokens =>
    match tokens with
    | .literal value :: rest => some (value, rest)
    | .text (some s) :: rest => some (.text s, rest)
    | .text none :: rest => some (.unreadable, rest)
    | .openList :: .closeList :: rest => some (.list [], rest)
    | .openList :: rest => do
      let (items, rest) ← items? bound rest
      return (.list items, rest)
    | .openObject :: .closeObject :: rest => some (.object [], rest)
    | .openObject :: rest => do
      let (members, rest) ← members? bound rest
      return (ofMembers members, rest)
    | _ => none

/-- The items of a list up to its end. -/
def items? : (bound : Nat) → List Token → Option (List Json × List Token)
  | 0, _ => none
  | bound + 1, tokens => do
    let (item, rest) ← value? bound tokens
    match rest with
    | .closeList :: rest => return ([item], rest)
    | .comma :: rest =>
      let (items, rest) ← items? bound rest
      return (item :: items, rest)
    | _ => none

/-- The members of an object up to its end. -/
def members? : (bound : Nat) → List Token → Option (List (Option String × Json) × List Token)
  | 0, _ => none
  | bound + 1, tokens =>
    match tokens with
    | .text name :: .colon :: rest => do
      let (value, rest) ← value? bound rest
      match rest with
      | .closeObject :: rest => return ([(name, value)], rest)
      | .comma :: rest =>
        let (members, rest) ← members? bound rest
        return ((name, value) :: members, rest)
      | _ => none
    | _ => none

end

/-- The value that some symbols write, with nothing but blanks around it. -/
def ofSymbols? (symbols : List Symbol) : Option Json := do
  let tokens ← tokens? symbols
  match value? (2 * tokens.length + 1) tokens with
  | some (value, []) => some value
  | _ => none

/-- The value that a text writes. -/
def ofText? (s : String) : Option Json :=
  ofSymbols? (s.toList.map some)

/-- The value that some bytes write; bytes that are not UTF-8 may stand only inside of texts. -/
def ofBytes? (bytes : Bytes) : Option Json :=
  ofSymbols? (Utf8.symbols bytes)

end Json

end SelectorTutorial
