import TaskConsole.Json.Number

/-!
# JSON tokens — a text cut into marks, words, numbers and strings

White space is space, tab, line feed and carriage return.  A number is the
longest run of characters that can occur in one; a string is read up to its
closing quote, and its `\u` escapes are joined into characters afterwards, where
a surrogate must stand in a pair.

* `Token` — the lexical units;
* `Token.scan?` — the tokens of a whole text, nothing when it has none. -/

namespace TaskConsole.Json

/-- A lexical unit of a document. -/
inductive Token where
  | openArray
  | closeArray
  | openObject
  | closeObject
  | comma
  | colon
  | null
  | bool (value : Bool)
  | number (value : Number)
  | string (value : String)

namespace Token

/-! ## Strings -/

/-- A part of a string: a character, or a UTF-16 unit from a `\u` escape. -/
inductive StringPart where
  | char (c : Char)
  | unit (n : Nat)

/-- The character that a one-letter escape stands for. -/
def escaped? : Char → Option Char
  | '"' => some '"'
  | '\\' => some '\\'
  | '/' => some '/'
  | 'b' => some (Char.ofNat 0x08)
  | 'f' => some (Char.ofNat 0x0C)
  | 'n' => some '\n'
  | 'r' => some '\r'
  | 't' => some '\t'
  | _ => none

/-- The unit of four hexadecimal digits. -/
def unit? (a b c d : Char) : Option Nat := Text.hexNumber? [a, b, c, d]

/-- The parts of a string up to its closing quote, and the text after that. -/
def stringParts? : List Char → Option (List StringPart × List Char)
  | [] => none
  | '"' :: rest => some ([], rest)
  | '\\' :: 'u' :: a :: b :: c :: d :: rest => do
    let unit ← unit? a b c d
    let (parts, after) ← stringParts? rest
    return (.unit unit :: parts, after)
  | '\\' :: c :: rest => do
    let char ← escaped? c
    let (parts, after) ← stringParts? rest
    return (.char char :: parts, after)
  | c :: rest =>
    if c = '\\' ∨ c.toNat < 0x20 then none
    else do
      let (parts, after) ← stringParts? rest
      return (.char c :: parts, after)

/-- A unit that begins a surrogate pair. -/
def isHighSurrogate (n : Nat) : Bool := 0xD800 ≤ n && n ≤ 0xDBFF

/-- A unit that ends a surrogate pair. -/
def isLowSurrogate (n : Nat) : Bool := 0xDC00 ≤ n && n ≤ 0xDFFF

/-- The characters of the parts of a string; a surrogate outside a pair is refused. -/
def joinParts? : List StringPart → Option (List Char)
  | [] => some []
  | .char c :: rest => (joinParts? rest).map (c :: ·)
  | .unit high :: .unit low :: rest =>
    if isHighSurrogate high then
      if isLowSurrogate low then
        let code := 0x10000 + (high - 0xD800) * 0x400 + (low - 0xDC00)
        (joinParts? rest).map (Char.ofNat code :: ·)
      else none
    else if isLowSurrogate high then none
    else (joinParts? (.unit low :: rest)).map (Char.ofNat high :: ·)
  | .unit n :: rest =>
    if isHighSurrogate n || isLowSurrogate n then none
    else (joinParts? rest).map (Char.ofNat n :: ·)

/-! ## Scanning -/

/-- White space between tokens. -/
def isSpace (c : Char) : Bool := c == ' ' || c == '\t' || c == '\n' || c == '\r'

/-- A character that can occur in a number. -/
def isNumberChar (c : Char) : Bool :=
  Text.isDigit c || c == '-' || c == '+' || c == '.' || c == 'e' || c == 'E'

/-- The token of a single character. -/
def mark? : Char → Option Token
  | '[' => some openArray
  | ']' => some closeArray
  | '\x7b' => some openObject
  | '\x7d' => some closeObject
  | ',' => some comma
  | ':' => some colon
  | _ => none

/-- The first token of a text that starts with no white space, and what follows it. -/
def first? : List Char → Option (Token × List Char)
  | '"' :: rest => do
    let (parts, after) ← stringParts? rest
    let chars ← joinParts? parts
    return (string (String.ofList chars), after)
  | 'n' :: 'u' :: 'l' :: 'l' :: rest => some (null, rest)
  | 't' :: 'r' :: 'u' :: 'e' :: rest => some (bool true, rest)
  | 'f' :: 'a' :: 'l' :: 's' :: 'e' :: rest => some (bool false, rest)
  | c :: rest =>
    match mark? c with
    | some token => some (token, rest)
    | none => do
      let text := (c :: rest).takeWhile isNumberChar
      let numeral ← Numeral.read? text
      let value ← numeral.number?
      return (number value, (c :: rest).dropWhile isNumberChar)
  | [] => none

/-- The tokens of a text, in at most so many steps. -/
def scanWithin? : Nat → List Char → Option (List Token)
  | 0, _ => none
  | steps + 1, cs =>
    match cs.dropWhile isSpace with
    | [] => some []
    | rest => do
      let (token, after) ← first? rest
      let tokens ← scanWithin? steps after
      return token :: tokens

/-- The tokens of a whole text. Every token takes a character, so a text has fewer
tokens than the steps allowed. -/
def scan? (cs : List Char) : Option (List Token) := scanWithin? (cs.length + 1) cs

end Token

end TaskConsole.Json
