import ResponseGate.Json.Value

/-!
Tokens of JSON documents, and the automaton that reads them one character at a time. White space
separates tokens and is dropped.
-/

namespace ResponseGate.Json

inductive Token where
  | openArray
  | closeArray
  | openObject
  | closeObject
  | comma
  | colon
  | null
  | boolean (value : Bool)
  | number (value : Number)
  | string (value : String)
  deriving DecidableEq, Repr

namespace Token

def punctuation? : Char → Option Token
  | '[' => some openArray
  | ']' => some closeArray
  | '\x7b' => some openObject
  | '\x7d' => some closeObject
  | ',' => some comma
  | ':' => some colon
  | _ => none

/-- The token of an unbroken run of letters, digits, signs and points. -/
def ofWord? : List Char → Option Token
  | ['n', 'u', 'l', 'l'] => some null
  | ['t', 'r', 'u', 'e'] => some (boolean true)
  | ['f', 'a', 'l', 's', 'e'] => some (boolean false)
  | word => do
    let numeral ← Numeral.ofChars? word
    return number (← numeral.number?)

end Token

/-- What the automaton is in the middle of. Characters read so far come latest first. -/
inductive Scan where
  | between
  | word (read : List Char)
  | text (read : List Char)
  /-- After the backslash of an escape. -/
  | escape (read : List Char)
  /-- Inside a code unit of four digits, after a high surrogate if one is given. -/
  | unit (read : List Char) (high : Option Nat) (digits value : Nat)
  /-- After a high surrogate, which only an escaped low surrogate may follow. -/
  | surrogate (read : List Char) (high : Nat)
  | surrogateEscape (read : List Char) (high : Nat)
  deriving DecidableEq, Repr

/-- The automaton's state: what it is reading, and the finished tokens, latest first. -/
structure Lexer where
  scan : Scan := .between
  tokens : List Token := []
  deriving DecidableEq, Repr

namespace Lexer

def isSpace (c : Char) : Bool := c == ' ' || c == '\t' || c == '\n' || c == '\r'

def isWordPart (c : Char) : Bool := c.isAlphanum || c == '+' || c == '-' || c == '.'

/-- The character a one-letter escape stands for. -/
def simpleEscape? : Char → Option Char
  | '"' => some '"'
  | '\\' => some '\\'
  | '/' => some '/'
  | 'b' => some '\x08'
  | 'f' => some '\x0c'
  | 'n' => some '\n'
  | 'r' => some '\r'
  | 't' => some '\t'
  | _ => none

def hexDigit? (c : Char) : Option Nat :=
  if '0' ≤ c ∧ c ≤ '9' then some (c.toNat - '0'.toNat)
  else if 'a' ≤ c ∧ c ≤ 'f' then some (c.toNat - 'a'.toNat + 10)
  else if 'A' ≤ c ∧ c ≤ 'F' then some (c.toNat - 'A'.toNat + 10)
  else none

def isHighSurrogate (unit : Nat) : Bool := 0xD800 ≤ unit && unit < 0xDC00

def isLowSurrogate (unit : Nat) : Bool := 0xDC00 ≤ unit && unit < 0xE000

/-- The character a pair of surrogates stands for. -/
def joinSurrogates (high low : Nat) : Char :=
  Char.ofNat (0x10000 + (high - 0xD800) * 0x400 + (low - 0xDC00))

/-- Ends an escaped code unit. A surrogate counts only as part of a pair. -/
def closeUnit? (read : List Char) (high : Option Nat) (unit : Nat) : Option Scan :=
  match high with
  | some high =>
    if isLowSurrogate unit then some (.text (joinSurrogates high unit :: read)) else none
  | none =>
    if isHighSurrogate unit then some (.surrogate read unit)
    else if isLowSurrogate unit then none
    else some (.text (Char.ofNat unit :: read))

/-- Reads a character that no token is waiting for. -/
def begin? (tokens : List Token) (c : Char) : Option Lexer :=
  if isSpace c then some ⟨.between, tokens⟩
  else if c == '"' then some ⟨.text [], tokens⟩
  else if isWordPart c then some ⟨.word [c], tokens⟩
  else (Token.punctuation? c).map fun token => ⟨.between, token :: tokens⟩

/-- Reads one more character of a string. Controls must be escaped. -/
def continueText? (tokens : List Token) (read : List Char) (c : Char) : Option Lexer :=
  if c == '"' then some ⟨.between, .string (String.ofList read.reverse) :: tokens⟩
  else if c == '\\' then some ⟨.escape read, tokens⟩
  else if c.toNat < 0x20 then none
  else some ⟨.text (c :: read), tokens⟩

def continueUnit? (tokens : List Token) (read : List Char) (high : Option Nat)
    (digits value : Nat) (c : Char) : Option Lexer := do
  let digit ← hexDigit? c
  let value := value * 16 + digit
  if digits + 1 < 4 then return ⟨.unit read high (digits + 1) value, tokens⟩
  else return ⟨← closeUnit? read high value, tokens⟩

def step? (lexer : Lexer) (c : Char) : Option Lexer :=
  let tokens := lexer.tokens
  match lexer.scan with
  | .between => begin? tokens c
  | .word read =>
    if isWordPart c then some ⟨.word (c :: read), tokens⟩
    else (Token.ofWord? read.reverse).bind fun token => begin? (token :: tokens) c
  | .text read => continueText? tokens read c
  | .escape read =>
    if c == 'u' then some ⟨.unit read none 0 0, tokens⟩
    else (simpleEscape? c).map fun meant => ⟨.text (meant :: read), tokens⟩
  | .unit read high digits value => continueUnit? tokens read high digits value c
  | .surrogate read high => if c == '\\' then some ⟨.surrogateEscape read high, tokens⟩ else none
  | .surrogateEscape read high =>
    if c == 'u' then some ⟨.unit read (some high) 0 0, tokens⟩ else none

/-- The tokens of a text that ends here. A string must have been closed. -/
def finish? (lexer : Lexer) : Option (List Token) :=
  match lexer.scan with
  | .between => some lexer.tokens.reverse
  | .word read => (Token.ofWord? read.reverse).map fun token => (token :: lexer.tokens).reverse
  | _ => none

def run? (lexer : Lexer) (text : List Char) : Option Lexer := text.foldlM step? lexer

theorem run?_append (lexer : Lexer) (front back : List Char) :
    lexer.run? (front ++ back) = (lexer.run? front).bind (run? · back) := by
  simp only [run?, List.foldlM_append]
  rfl

theorem run?_cons (lexer : Lexer) (c : Char) (text : List Char) :
    lexer.run? (c :: text) = (lexer.step? c).bind (run? · text) := by
  simp only [run?, List.foldlM_cons]
  rfl

end Lexer

def tokens? (text : List Char) : Option (List Token) := (Lexer.run? {} text).bind Lexer.finish?

end ResponseGate.Json
