import SelectorTutorial.Toml.Scalar

/-! The four ways to write a text in TOML. -/

namespace SelectorTutorial

namespace Toml

/-- Of the controls only a tab may be written as it is. -/
def isPlain (c : Char) : Bool :=
  c == '\t' || (0x20 ≤ c.toNat && c.toNat != 0x7F)

/-- Spaces and tabs. -/
def isSpace (c : Char) : Bool :=
  c == ' ' || c == '\t'

/-- What follows a line break, if there is one. -/
def afterBreak? : List Char → Option (List Char)
  | '\n' :: rest => some rest
  | '\r' :: '\n' :: rest => some rest
  | _ => none

/-- The character for a letter after a backslash. -/
def escape? (c : Char) : Option Char :=
  match c with
  | '"' => some '"'
  | '\\' => some '\\'
  | 'b' => some '\x08'
  | 'f' => some '\x0c'
  | 'n' => some '\n'
  | 'r' => some '\r'
  | 't' => some '\t'
  | _ => none

/-- The character with the code point that some hexadecimal digits write; surrogates are none. -/
def codePoint? (digits : List Char) : Option Char := do
  let values ← digits.mapM Digits.value?
  let n := Digits.toNat 16 values
  if n < 0xD800 ∨ (0xE000 ≤ n ∧ n < 0x110000) then some (.ofNat n) else none

/-- A text on one line up to its closing quote, and what follows it. -/
def quoted? : List Char → Option (List Char × List Char)
  | [] => none
  | '"' :: rest => some ([], rest)
  | '\\' :: 'u' :: a :: b :: c :: d :: rest => do
    let x ← codePoint? [a, b, c, d]
    let (cs, rest) ← quoted? rest
    return (x :: cs, rest)
  | '\\' :: 'U' :: a :: b :: c :: d :: e :: f :: g :: h :: rest => do
    let x ← codePoint? [a, b, c, d, e, f, g, h]
    let (cs, rest) ← quoted? rest
    return (x :: cs, rest)
  | '\\' :: c :: rest => do
    let x ← escape? c
    let (cs, rest) ← quoted? rest
    return (x :: cs, rest)
  | c :: rest => do
    if c == '\\' || !isPlain c then none
    let (cs, rest) ← quoted? rest
    return (c :: cs, rest)

/-- A text on one line in which nothing is escaped. -/
def literal? : List Char → Option (List Char × List Char)
  | [] => none
  | '\'' :: rest => some ([], rest)
  | c :: rest => do
    if !isPlain c then none
    let (cs, rest) ← literal? rest
    return (c :: cs, rest)

/--
A text over several lines up to its three closing quotes, up to two more of which belong to it.  A
backslash at the end of a line takes all blanks after it along, which `skips` says.
-/
def longQuoted? : (skips : Bool) → List Char → Option (List Char × List Char)
  | _, [] => none
  | _, '"' :: '"' :: '"' :: '"' :: '"' :: rest => some (['"', '"'], rest)
  | _, '"' :: '"' :: '"' :: '"' :: rest => some (['"'], rest)
  | _, '"' :: '"' :: '"' :: rest => some ([], rest)
  | _, '\\' :: 'u' :: a :: b :: c :: d :: rest => do
    let x ← codePoint? [a, b, c, d]
    let (cs, rest) ← longQuoted? false rest
    return (x :: cs, rest)
  | _, '\\' :: 'U' :: a :: b :: c :: d :: e :: f :: g :: h :: rest => do
    let x ← codePoint? [a, b, c, d, e, f, g, h]
    let (cs, rest) ← longQuoted? false rest
    return (x :: cs, rest)
  | _, '\\' :: c :: rest =>
    if (afterBreak? ((c :: rest).dropWhile isSpace)).isSome then longQuoted? true (c :: rest)
    else do
      let x ← escape? c
      let (cs, rest) ← longQuoted? false rest
      return (x :: cs, rest)
  | skips, '\r' :: '\n' :: rest => do
    let (cs, rest) ← longQuoted? skips rest
    return (if skips then cs else '\n' :: cs, rest)
  | skips, c :: rest =>
    if c == '\\' || (c != '\n' && !isPlain c) then none
    else if skips && (c == '\n' || isSpace c) then longQuoted? true rest
    else do
      let (cs, rest) ← longQuoted? false rest
      return (c :: cs, rest)

/-- A text over several lines in which nothing is escaped. -/
def longLiteral? : List Char → Option (List Char × List Char)
  | [] => none
  | '\'' :: '\'' :: '\'' :: '\'' :: '\'' :: rest => some (['\'', '\''], rest)
  | '\'' :: '\'' :: '\'' :: '\'' :: rest => some (['\''], rest)
  | '\'' :: '\'' :: '\'' :: rest => some ([], rest)
  | '\r' :: '\n' :: rest => do
    let (cs, rest) ← longLiteral? rest
    return ('\n' :: cs, rest)
  | c :: rest => do
    if c != '\n' && !isPlain c then none
    let (cs, rest) ← longLiteral? rest
    return (c :: cs, rest)

/-- A line break right after the opening quotes does not count. -/
def withoutBreak (cs : List Char) : List Char :=
  (afterBreak? cs).getD cs

/-- A text on one line that starts with a quote, and what follows it. -/
def line? : List Char → Option (String × List Char)
  | '"' :: rest => (quoted? rest).map fun (cs, rest) => (.ofList cs, rest)
  | '\'' :: rest => (literal? rest).map fun (cs, rest) => (.ofList cs, rest)
  | _ => none

/-- A text that starts with a quote or with three, and what follows it. -/
def text? : List Char → Option (String × List Char)
  | '"' :: '"' :: '"' :: rest =>
    (longQuoted? false (withoutBreak rest)).map fun (cs, rest) => (.ofList cs, rest)
  | '\'' :: '\'' :: '\'' :: rest =>
    (longLiteral? (withoutBreak rest)).map fun (cs, rest) => (.ofList cs, rest)
  | cs => line? cs

end Toml

end SelectorTutorial
