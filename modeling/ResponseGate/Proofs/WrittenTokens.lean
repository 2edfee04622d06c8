import ResponseGate.Proofs.CodeUnits
import ResponseGate.Proofs.WrittenNumerals

/-!
How tokens are written. A string may be written in many ways, and white space may stand around every
token; whatever the choice, the automaton gives the tokens back.
-/

namespace ResponseGate.Json

/-! ### Characters of strings -/

/-- The ways to write a character of a string. Those beyond the first plane take two code units. -/
inductive CharWritten (c : Char) : List Char → Prop where
  | raw (quote : c ≠ '"') (backslash : c ≠ '\\') (printed : 0x20 ≤ c.toNat) : CharWritten c [c]
  | short {letter : Char} (escape : (letter, c) ∈ shortEscapes) : CharWritten c ['\\', letter]
  | unit {digits : List Char} (value : UnitWritten c.toNat digits) :
      CharWritten c ('\\' :: 'u' :: digits)
  | pair {high low : List Char} (beyond : 0x10000 ≤ c.toNat)
      (first : UnitWritten (0xD800 + (c.toNat - 0x10000) / 0x400) high)
      (second : UnitWritten (0xDC00 + (c.toNat - 0x10000) % 0x400) low) :
      CharWritten c ('\\' :: 'u' :: high ++ '\\' :: 'u' :: low)

/-- A text as it is written between the quotes of a string. -/
inductive TextWritten : List Char → List Char → Prop where
  | nil : TextWritten [] []
  | cons {c : Char} {text piece written : List Char} (first : CharWritten c piece)
      (others : TextWritten text written) : TextWritten (c :: text) (piece ++ written)

/-- A character that may stand for itself. -/
def isPlain (c : Char) : Bool := c != '"' && c != '\\' && 0x20 ≤ c.toNat

/-- A text of such characters may be written as it is. -/
theorem TextWritten.self {text : List Char} (plain : text.all isPlain = true) :
    TextWritten text text := by
  induction text with
  | nil => exact .nil
  | cons c text ih =>
    rw [List.all_cons, Bool.and_eq_true] at plain
    obtain ⟨first, others⟩ := plain
    simp only [isPlain, Bool.and_eq_true, bne_iff_ne, decide_eq_true_eq] at first
    obtain ⟨⟨quote, backslash⟩, high⟩ := first
    exact .cons (.raw quote backslash high) (ih others)

theorem codeUnits_of_lt {c : Char} (first : c.toNat < 0x10000) : codeUnits c = [c.toNat] :=
  if_pos first

/-- A written text is its code units as they are written. -/
theorem TextWritten.units {text written : List Char} (value : TextWritten text written) :
    UnitsWritten (unitsOf text) written := by
  induction value with
  | nil => exact .nil
  | @cons c text piece written first others ih =>
    rw [unitsOf, List.flatMap_cons]
    cases first with
    | raw quote backslash printed => exact .raw quote backslash printed ih
    | short escape => exact .short escape ih
    | unit value =>
      rw [codeUnits_of_lt value.lt]
      exact .unit value ih
    | pair beyond first second =>
      rw [codeUnits, if_neg (Nat.not_lt.mpr beyond), List.append_assoc]
      exact .unit first (.unit second ih)

/-- A text of plain characters may be written as it is. -/
theorem UnitsWritten.self {text : List Char} (plain : text.all isPlain = true) :
    UnitsWritten (unitsOf text) text := (TextWritten.self plain).units

/-- A written text is read as that text. -/
theorem Lexer.run?_text {text written rest : List Char} {tokens : List Token}
    (value : TextWritten text written) :
    run? ⟨.text [], tokens⟩ (written ++ rest) = run? ⟨.text text.reverse, tokens⟩ rest := by
  have read : run? ⟨.text [], tokens⟩ (written ++ rest) = _ := run?_units value.units ⟨[], none⟩
  rw [read, Paired.foldlM_unitsOf, Option.bind_some, List.append_nil]
  rfl

/-! ### Whole documents -/

/-- Tokens that are one unbroken word. A number must be one that a document can hold. -/
inductive WordWritten : Token → List Char → Prop where
  | null : WordWritten .null ['n', 'u', 'l', 'l']
  | yes : WordWritten (.boolean true) ['t', 'r', 'u', 'e']
  | no : WordWritten (.boolean false) ['f', 'a', 'l', 's', 'e']
  | number {numeral : Numeral} {number : Number} {written : List Char}
      (value : NumeralWritten numeral written) (size : numeral.number? = some number) :
      WordWritten (.number number) written

def marks : List (Char × Token) :=
  [('[', .openArray), (']', .closeArray), ('\x7b', .openObject), ('\x7d', .closeObject),
    (',', .comma), (':', .colon)]

def blanks : List Char := [' ', '\t', '\n', '\r']

/-- A word ends where no character of a word follows. -/
def NoWordPart (rest : List Char) : Prop := ∀ c ∈ rest.head?, Lexer.isWordPart c = false

/-- Tokens as they are written one after the other, with blanks in front of any and at the end. -/
inductive TokensWritten : List Token → List Char → Prop where
  | nil : TokensWritten [] []
  | blank {tokens : List Token} {c : Char} {rest : List Char} (space : c ∈ blanks)
      (others : TokensWritten tokens rest) : TokensWritten tokens (c :: rest)
  | mark {tokens : List Token} {c : Char} {token : Token} {rest : List Char}
      (mark : (c, token) ∈ marks) (others : TokensWritten tokens rest) :
      TokensWritten (token :: tokens) (c :: rest)
  | text {tokens : List Token} {text written rest : List Char} (value : TextWritten text written)
      (others : TokensWritten tokens rest) :
      TokensWritten (.string (String.ofList text) :: tokens) ('"' :: (written ++ '"' :: rest))
  | word {tokens : List Token} {token : Token} {written rest : List Char}
      (value : WordWritten token written) (apart : NoWordPart rest)
      (others : TokensWritten tokens rest) : TokensWritten (token :: tokens) (written ++ rest)

theorem TokensWritten.raw (text : String) {tokens : List Token} {rest : List Char}
    (plain : text.toList.all isPlain = true) (others : TokensWritten tokens rest) :
    TokensWritten (.string text :: tokens) ('"' :: (text.toList ++ '"' :: rest)) := by
  have written := TokensWritten.text (.self plain) others
  rwa [String.ofList_toList] at written

/-- A numeral is read as the number it has the size of, or not at all. -/
theorem Token.ofWord?_of_numeral {numeral : Numeral} {written : List Char}
    (value : NumeralWritten numeral written) : ofWord? written = numeral.number?.map .number := by
  obtain ⟨c, others, same, first⟩ := Numeral.exists_cons_of_numeral value
  have read := Numeral.ofChars?_of_written value
  unfold ofWord?
  split
  · cases same
    simp at first
  · cases same
    simp at first
  · cases same
    simp at first
  · simp only [read, Option.bind_eq_bind, Option.bind_some, Option.pure_def, Option.map_eq_bind]
    rfl

namespace WordWritten

variable {token : Token} {written : List Char}

theorem ofWord?_eq_some (value : WordWritten token written) :
    Token.ofWord? written = some token := by
  cases value with
  | null => rfl
  | yes => rfl
  | no => rfl
  | number value size =>
    rw [Token.ofWord?_of_numeral value, size]
    rfl

theorem ne_nil (value : WordWritten token written) : written ≠ [] := by
  cases value with
  | number value size =>
    obtain ⟨c, others, rfl, _⟩ := Numeral.exists_cons_of_numeral value
    simp
  | _ => simp

theorem isWordPart (value : WordWritten token written) :
    ∀ c ∈ written, Lexer.isWordPart c = true := by
  cases value with
  | number value size => exact Numeral.isWordPart_of_numeral value
  | _ => exact List.all_eq_true.mp rfl

end WordWritten

namespace Lexer

variable {tokens : List Token} {read written rest : List Char} {c : Char} {token : Token}

theorem begin?_of_blank_char (space : c ∈ blanks) : begin? tokens c = some ⟨.between, tokens⟩ := by
  simp only [blanks, List.mem_cons, List.not_mem_nil, or_false] at space
  rcases space with rfl | rfl | rfl | rfl
  all_goals rfl

theorem begin?_of_mark (mark : (c, token) ∈ marks) :
    begin? tokens c = some ⟨.between, token :: tokens⟩ := by
  simp only [marks, List.mem_cons, List.not_mem_nil, or_false, Prod.mk.injEq] at mark
  rcases mark with ⟨rfl, rfl⟩ | ⟨rfl, rfl⟩ | ⟨rfl, rfl⟩ | ⟨rfl, rfl⟩ | ⟨rfl, rfl⟩ | ⟨rfl, rfl⟩
  all_goals rfl

theorem begin?_of_wordPart (part : isWordPart c = true) :
    begin? tokens c = some ⟨.word [c], tokens⟩ := by
  have space : isSpace c = false := by
    cases spaced : isSpace c with
    | false => rfl
    | true =>
      simp only [isSpace, Bool.or_eq_true, beq_iff_eq] at spaced
      rcases spaced with ((rfl | rfl) | rfl) | rfl
      all_goals cases part
  have quote : c ≠ '"' := by
    rintro rfl
    cases part
  simp [begin?, space, quote, part]

theorem run?_word (parts : ∀ c ∈ written, isWordPart c = true) :
    run? ⟨.word read, tokens⟩ (written ++ rest) =
      run? ⟨.word (written.reverse ++ read), tokens⟩ rest := by
  induction written generalizing read with
  | nil => rfl
  | cons c written ih =>
    have part : step? ⟨.word read, tokens⟩ c = some ⟨.word (c :: read), tokens⟩ := by
      simp [step?, parts c (by simp)]
    have others : ∀ c ∈ written, isWordPart c = true := fun c member => parts c (by simp [member])
    rw [List.cons_append, run?_cons, part, Option.bind_some, ih others, List.reverse_cons,
      List.append_assoc]
    rfl

/-- A word is read as its token, or not at all. -/
theorem finish_of_whole_word (filled : written ≠ []) (parts : ∀ c ∈ written, isWordPart c = true)
    (apart : NoWordPart rest) :
    (run? ⟨.between, tokens⟩ (written ++ rest)).bind finish? =
      (Token.ofWord? written).bind fun token =>
        (run? ⟨.between, token :: tokens⟩ rest).bind finish? := by
  obtain ⟨c, more, rfl⟩ := List.exists_cons_of_ne_nil filled
  have first : step? ⟨.between, tokens⟩ c = some ⟨.word [c], tokens⟩ :=
    begin?_of_wordPart (parts c (by simp))
  rw [List.cons_append, run?_cons, first, Option.bind_some,
    run?_word fun c member => parts c (by simp [member])]
  cases rest with
  | nil =>
    have ends : finish? ⟨.word (more.reverse ++ [c]), tokens⟩ =
        (Token.ofWord? (c :: more)).map fun token => (token :: tokens).reverse := by
      simp [finish?]
    exact ends.trans (Option.map_eq_bind ..)
  | cons d rest =>
    have other : isWordPart d = false := apart d rfl
    have ends : step? ⟨.word (more.reverse ++ [c]), tokens⟩ d =
        (Token.ofWord? (c :: more)).bind fun token => step? ⟨.between, token :: tokens⟩ d := by
      simp [step?, other]
    simp only [run?_cons, ends, Option.bind_assoc]

end Lexer

/-- What is written is read, token by token. -/
theorem finish_of_tokensWritten {tokens : List Token} {text : List Char}
    (written : TokensWritten tokens text) (before : List Token) :
    (Lexer.run? ⟨.between, before⟩ text).bind Lexer.finish? = some (before.reverse ++ tokens) := by
  induction written generalizing before with
  | nil =>
    rw [List.append_nil]
    rfl
  | blank space others ih =>
    rw [Lexer.run?_cons, Lexer.step?, Lexer.begin?_of_blank_char space, Option.bind_some, ih]
  | mark mark others ih =>
    rw [Lexer.run?_cons, Lexer.step?, Lexer.begin?_of_mark mark, Option.bind_some, ih,
      List.reverse_cons, List.append_assoc, List.singleton_append]
  | @text tokens text written rest value others ih =>
    have opened : Lexer.step? ⟨.between, before⟩ '"' = some ⟨.text [], before⟩ := rfl
    have closed : Lexer.step? ⟨.text text.reverse, before⟩ '"' =
        some ⟨.between, .string (String.ofList text) :: before⟩ := by
      simp [Lexer.step?, Lexer.continueText?]
    rw [Lexer.run?_cons, opened, Option.bind_some, Lexer.run?_text value, Lexer.run?_cons, closed,
      Option.bind_some, ih, List.reverse_cons, List.append_assoc, List.singleton_append]
  | @word tokens token written rest value apart others ih =>
    rw [Lexer.finish_of_whole_word value.ne_nil value.isWordPart apart, value.ofWord?_eq_some,
      Option.bind_some, ih, List.reverse_cons, List.append_assoc, List.singleton_append]

theorem tokens?_of_written {tokens : List Token} {text : List Char}
    (written : TokensWritten tokens text) : tokens? text = some tokens :=
  finish_of_tokensWritten written []

end ResponseGate.Json
