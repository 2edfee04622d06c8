import ResponseGate.Proofs.WrittenTokens

/-!
The pieces a document of the grammar is written in. Any code units make a string and any numeral a
number; the automaton reads the pieces one by one and stops at the first that stands for nothing.
-/

namespace ResponseGate.Json

/-! ### Lexemes -/

/-- The pieces of a document as the grammar has them. -/
inductive Lexeme where
  | plain (token : Token)
  | number (numeral : Numeral)
  | string (units : List Nat)

namespace Lexeme

/-- The token a lexeme is read as. -/
def token? : Lexeme → Option Token
  | plain token => some token
  | number numeral => numeral.number?.map .number
  | string units => (textOf? units).map fun text => .string (String.ofList text)

/-- A string is readable when its code units are those of a text, a number when it has a size. -/
def Readable : Lexeme → Prop
  | plain _ => True
  | number numeral => ∃ number, numeral.number? = some number
  | string units => ∃ text, units = unitsOf text

theorem isSome_token?_iff (lexeme : Lexeme) : lexeme.token?.isSome = true ↔ lexeme.Readable := by
  cases lexeme with
  | plain token => simp [Readable, token?]
  | number numeral => simp [Readable, token?, Option.isSome_iff_exists]
  | string units => simp [Readable, token?, Option.isSome_iff_exists, textOf?_eq_some_iff]

theorem map_mapM_token?_cons (before : List Token) (lexeme : Lexeme) (others : List Lexeme) :
    ((lexeme :: others).mapM token?).map (before.reverse ++ ·) =
      lexeme.token?.bind fun token =>
        (others.mapM token?).map ((token :: before).reverse ++ ·) := by
  rw [List.mapM_cons]
  cases lexeme.token? with
  | none => rfl
  | some token => cases others.mapM token? <;> simp

/-- Lexemes that are one unbroken word. -/
def isWord : Lexeme → Bool
  | plain .null => true
  | plain (.boolean _) => true
  | number _ => true
  | _ => false

end Lexeme

/-- The words that stand for themselves. -/
def names : List (List Char × Token) :=
  [(['n', 'u', 'l', 'l'], .null), (['t', 'r', 'u', 'e'], .boolean true),
    (['f', 'a', 'l', 's', 'e'], .boolean false)]

/-- Lexemes as they are written one after the other, with blanks in front of any and at the end. -/
inductive LexemesWritten : List Lexeme → List Char → Prop where
  | nil : LexemesWritten [] []
  | blank {lexemes : List Lexeme} {c : Char} {rest : List Char} (space : c ∈ blanks)
      (others : LexemesWritten lexemes rest) : LexemesWritten lexemes (c :: rest)
  | mark {lexemes : List Lexeme} {c : Char} {token : Token} {rest : List Char}
      (mark : (c, token) ∈ marks) (others : LexemesWritten lexemes rest) :
      LexemesWritten (.plain token :: lexemes) (c :: rest)
  | name {lexemes : List Lexeme} {written : List Char} {token : Token} {rest : List Char}
      (name : (written, token) ∈ names) (others : LexemesWritten lexemes rest) :
      LexemesWritten (.plain token :: lexemes) (written ++ rest)
  | number {lexemes : List Lexeme} {numeral : Numeral} {written rest : List Char}
      (value : NumeralWritten numeral written) (others : LexemesWritten lexemes rest) :
      LexemesWritten (.number numeral :: lexemes) (written ++ rest)
  | string {lexemes : List Lexeme} {units : List Nat} {written rest : List Char}
      (value : UnitsWritten units written) (others : LexemesWritten lexemes rest) :
      LexemesWritten (.string units :: lexemes) ('"' :: (written ++ '"' :: rest))

/-- Nothing that would go on with a word. -/
def NoWord (lexemes : List Lexeme) : Prop := ∀ next ∈ lexemes.head?, next.isWord = false

/-- No two words stand side by side. -/
inductive Spaced : List Lexeme → Prop where
  | nil : Spaced []
  | cons {lexeme : Lexeme} {others : List Lexeme} (apart : lexeme.isWord = true → NoWord others)
      (spaced : Spaced others) : Spaced (lexeme :: others)

theorem isWord_of_name {written : List Char} {token : Token} (name : (written, token) ∈ names) :
    (Lexeme.plain token).isWord = true ∧ written ≠ [] ∧
      ∀ c ∈ written, Lexer.isWordPart c = true := by
  simp only [names, List.mem_cons, List.not_mem_nil, or_false, Prod.mk.injEq] at name
  rcases name with ⟨rfl, rfl⟩ | ⟨rfl, rfl⟩ | ⟨rfl, rfl⟩
  all_goals exact ⟨rfl, List.cons_ne_nil _ _, List.all_eq_true.mp rfl⟩

/-- Where no word follows, no character of a word does. -/
theorem LexemesWritten.noWordPart {lexemes : List Lexeme} {text : List Char}
    (written : LexemesWritten lexemes text) (apart : NoWord lexemes) : NoWordPart text := by
  have blank : ∀ c ∈ blanks, (!Lexer.isWordPart c) = true := List.all_eq_true.mp rfl
  have single : ∀ mark ∈ marks, (!Lexer.isWordPart mark.1) = true := List.all_eq_true.mp rfl
  cases written with
  | nil => simp [NoWordPart]
  | blank space others =>
    rintro _ ⟨⟩
    simpa using blank _ space
  | mark mark others =>
    rintro _ ⟨⟩
    simpa using single _ mark
  | name name others => exact absurd (apart _ rfl) (by simp [(isWord_of_name name).1])
  | number value others => exact absurd (apart _ rfl) (by simp [Lexeme.isWord])
  | string value others =>
    rintro _ ⟨⟩
    rfl

/-! ### Reading lexemes -/

theorem Token.ofWord?_of_name {written : List Char} {token : Token}
    (name : (written, token) ∈ names) :
    ofWord? written = some token := by
  simp only [names, List.mem_cons, List.not_mem_nil, or_false, Prod.mk.injEq] at name
  rcases name with ⟨rfl, rfl⟩ | ⟨rfl, rfl⟩ | ⟨rfl, rfl⟩
  all_goals rfl

namespace Lexer

variable {tokens : List Token} {rest : List Char}

/-- A closing quote ends a string unless a high surrogate still waits. -/
theorem run?_close (paired : Paired) :
    run? ⟨paired.scan, tokens⟩ ('"' :: rest) =
      paired.finish?.bind fun text =>
        run? ⟨.between, .string (String.ofList text) :: tokens⟩ rest := by
  rw [run?_cons]
  obtain ⟨read, _ | high⟩ := paired
  · rfl
  · rfl

end Lexer

/-- Lexemes are read one by one, and one that is not readable ends the reading. -/
theorem finish_of_lexemesWritten {lexemes : List Lexeme} {text : List Char}
    (written : LexemesWritten lexemes text) (spaced : Spaced lexemes) (before : List Token) :
    (Lexer.run? ⟨.between, before⟩ text).bind Lexer.finish? =
      (lexemes.mapM Lexeme.token?).map (before.reverse ++ ·) := by
  induction written generalizing before with
  | nil =>
    rw [List.mapM_nil]
    exact congrArg some (List.append_nil _).symm
  | blank space others ih =>
    rw [Lexer.run?_cons, Lexer.step?, Lexer.begin?_of_blank_char space, Option.bind_some, ih spaced]
  | @mark lexemes c token rest mark others ih =>
    cases spaced with
    | cons apart spaced =>
      rw [Lexer.run?_cons, Lexer.step?, Lexer.begin?_of_mark mark, Option.bind_some, ih spaced]
      exact (Lexeme.map_mapM_token?_cons before (.plain token) lexemes).symm
  | @name lexemes written token rest name others ih =>
    cases spaced with
    | cons apart spaced =>
      obtain ⟨word, filled, parts⟩ := isWord_of_name name
      rw [Lexer.finish_of_whole_word filled parts (others.noWordPart (apart word)),
        Token.ofWord?_of_name name, Option.bind_some, ih spaced]
      exact (Lexeme.map_mapM_token?_cons before (.plain token) lexemes).symm
  | @number lexemes numeral written rest value others ih =>
    cases spaced with
    | cons apart spaced =>
      have filled : written ≠ [] := by
        obtain ⟨c, more, rfl, _⟩ := Numeral.exists_cons_of_numeral value
        exact List.cons_ne_nil c more
      rw [Lexer.finish_of_whole_word filled (Numeral.isWordPart_of_numeral value)
        (others.noWordPart (apart rfl)), Token.ofWord?_of_numeral value,
        Lexeme.map_mapM_token?_cons]
      exact congrArg _ (funext fun token => ih spaced (token :: before))
  | @string lexemes units written rest value others ih =>
    cases spaced with
    | cons apart spaced =>
      have opened : Lexer.step? ⟨.between, before⟩ '"' = some ⟨Paired.scan ⟨[], none⟩, before⟩ :=
        rfl
      rw [Lexer.run?_cons, opened, Option.bind_some, Lexer.run?_units value,
        Lexeme.map_mapM_token?_cons, Lexeme.token?, textOf?]
      simp only [Lexer.run?_close, Option.bind_assoc, Option.bind_map]
      refine congrArg _ (funext fun paired => congrArg _ (funext fun text => ?_))
      exact ih spaced _

end ResponseGate.Json
