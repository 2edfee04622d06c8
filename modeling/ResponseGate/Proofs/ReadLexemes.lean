import ResponseGate.Proofs.Lexemes
import ResponseGate.Proofs.ReadNumerals

/-!
Texts that the automaton reads are written in lexemes. Whatever it reads to the end of a text, the
characters it took for a token are one of the ways the grammar has to write that token.
-/

namespace ResponseGate.Json

/-! ### Strings -/

namespace Lexer

variable {tokens result : List Token} {read text : List Char} {c : Char}

theorem hexDigit_of_hexDigit? {value : Nat} (read : hexDigit? c = some value) :
    HexDigit value c := by
  have digits : ∀ value < 10, Nat.digitChar value = Char.ofNat (48 + value) := by decide
  have small : ∀ value < 6, Nat.digitChar (value + 10) = Char.ofNat (97 + value) := by decide
  have large : ∀ value < 6, (Nat.digitChar (value + 10)).toUpper = Char.ofNat (65 + value) := by
    decide
  have same {base : Nat} (above : base ≤ c.toNat) : c = Char.ofNat (base + (c.toNat - base)) := by
    rw [Nat.add_sub_cancel' above, Char.ofNat_toNat]
  unfold hexDigit? at read
  split at read
  · rename_i range
    have low : 48 ≤ c.toNat := range.1
    have high : c.toNat ≤ 57 := range.2
    obtain rfl : c.toNat - 48 = value := Option.some.inj read
    exact ⟨by omega, .inl ((same low).trans (digits _ (by omega)).symm)⟩
  · split at read
    · rename_i range
      have low : 97 ≤ c.toNat := range.1
      have high : c.toNat ≤ 102 := range.2
      obtain rfl : c.toNat - 97 + 10 = value := Option.some.inj read
      exact ⟨by omega, .inl ((same low).trans (small _ (by omega)).symm)⟩
    · obtain ⟨range, made⟩ := Option.ite_none_right_eq_some.mp read
      have low : 65 ≤ c.toNat := range.1
      have high : c.toNat ≤ 70 := range.2
      obtain rfl : c.toNat - 65 + 10 = value := Option.some.inj made
      exact ⟨by omega, .inr ((same low).trans (large _ (by omega)).symm)⟩

/-- Inside a code unit another digit must follow. -/
theorem exists_digit_of_run?_unit {high : Option Nat} {digits value : Nat}
    (ran : (run? ⟨.unit read high digits value, tokens⟩ text).bind finish? = some result) :
    ∃ c rest digit, text = c :: rest ∧ HexDigit digit c ∧
      (digits + 1 < 4 → (run? ⟨.unit read high (digits + 1) (value * 16 + digit), tokens⟩ rest).bind
        finish? = some result) := by
  cases text with
  | nil => cases ran
  | cons c rest =>
    rw [run?_cons] at ran
    cases known : hexDigit? c with
    | none =>
      have stuck : step? ⟨.unit read high digits value, tokens⟩ c = none := by
        simp [step?, continueUnit?, known]
      rw [stuck] at ran
      cases ran
    | some digit =>
      have hex := hexDigit_of_hexDigit? known
      refine ⟨c, rest, digit, rfl, hex, ?_⟩
      intro more
      have stepped : step? ⟨.unit read high digits value, tokens⟩ c =
          some ⟨.unit read high (digits + 1) (value * 16 + digit), tokens⟩ :=
        (continueUnit?_of_hexDigit hex).trans (if_pos more)
      rwa [stepped] at ran

theorem exists_unit_of_run?_unit {high : Option Nat}
    (ran : (run? ⟨.unit read high 0 0, tokens⟩ text).bind finish? = some result) :
    ∃ unit digits rest, text = digits ++ rest ∧ UnitWritten unit digits := by
  obtain ⟨first, text, a, rfl, ha, ran⟩ := exists_digit_of_run?_unit ran
  obtain ⟨second, text, b, rfl, hb, ran⟩ := exists_digit_of_run?_unit (ran (by decide))
  obtain ⟨third, text, c, rfl, hc, ran⟩ := exists_digit_of_run?_unit (ran (by decide))
  obtain ⟨fourth, text, d, rfl, hd, ran⟩ := exists_digit_of_run?_unit (ran (by decide))
  exact ⟨_, _, text, rfl, .digits ha hb hc hd⟩

theorem mem_shortEscapes_of_simpleEscape? {letter meant : Char}
    (escape : simpleEscape? letter = some meant) :
    (letter, meant) ∈ shortEscapes := by
  unfold simpleEscape? at escape
  split at escape
  all_goals cases escape
  all_goals simp [shortEscapes]

/-- A high surrogate waits for an escaped code unit. -/
theorem exists_escape_of_waiting {high : Nat}
    (ran : (run? ⟨.surrogate read high, tokens⟩ text).bind finish? = some result) :
    ∃ rest, text = '\\' :: 'u' :: rest := by
  cases text with
  | nil => cases ran
  | cons c text =>
    rw [run?_cons] at ran
    by_cases backslash : c = '\\'
    · subst backslash
      cases text with
      | nil => cases ran
      | cons d text =>
        by_cases letter : d = 'u'
        · exact ⟨text, by rw [letter]⟩
        · have stuck : step? ⟨.surrogateEscape read high, tokens⟩ d = none := by
            simp [step?, letter]
          have ran :
            (((step? ⟨.surrogateEscape read high, tokens⟩ d).bind (run? · text)).bind finish?) =
              some result := ran
          rw [stuck] at ran
          cases ran
    · have stuck : step? ⟨.surrogate read high, tokens⟩ c = none := by
        simp [step?, backslash]
      rw [stuck] at ran
      cases ran

/-- The pieces of a string: an escaped code unit, a short escape, or a character for itself. -/
inductive Piece : List Char → Prop where
  | unit {unit : Nat} {digits : List Char} (value : UnitWritten unit digits) :
      Piece ('\\' :: 'u' :: digits)
  | short {letter c : Char} (escape : (letter, c) ∈ shortEscapes) : Piece ['\\', letter]
  | raw {c : Char} (quote : c ≠ '"') (backslash : c ≠ '\\') (printed : 0x20 ≤ c.toNat) : Piece [c]

theorem Piece.append {piece written : List Char} {units : List Nat} (first : Piece piece)
    (others : UnitsWritten units written) : ∃ more, UnitsWritten more (piece ++ written) := by
  cases first with
  | unit value => exact ⟨_, .unit value others⟩
  | short escape => exact ⟨_, .short escape others⟩
  | raw quote backslash printed => exact ⟨_, .raw quote backslash printed others⟩

/-- A string goes on with another piece, or a quote closes it. -/
theorem exists_piece_of_run? {paired : Paired}
    (ran : (run? ⟨paired.scan, tokens⟩ text).bind finish? = some result) :
    (∃ rest, text = '"' :: rest) ∨
      ∃ piece rest later, text = piece ++ rest ∧ Piece piece ∧
        (run? ⟨Paired.scan later, tokens⟩ rest).bind finish? = some result := by
  obtain ⟨read, high⟩ := paired
  have escaped {rest : List Char} (same : text = '\\' :: 'u' :: rest) :
      ∃ piece rest later, text = piece ++ rest ∧ Piece piece ∧
        (run? ⟨Paired.scan later, tokens⟩ rest).bind finish? = some result := by
    subst same
    have opened : run? ⟨Paired.scan ⟨read, high⟩, tokens⟩ ('\\' :: 'u' :: rest) =
        run? ⟨.unit read high 0 0, tokens⟩ rest := by
      cases high <;> rfl
    rw [opened] at ran
    obtain ⟨unit, digits, rest, rfl, value⟩ := exists_unit_of_run?_unit ran
    rw [run?_unit high value, closeUnit?_eq value.lt, Option.bind_map, Option.bind_assoc] at ran
    obtain ⟨later, _, ran⟩ := Option.bind_eq_some_iff.mp ran
    exact ⟨'\\' :: 'u' :: digits, rest, later, rfl, .unit value, ran⟩
  cases high with
  | some high =>
    obtain ⟨rest, same⟩ := exists_escape_of_waiting ran
    exact .inr (escaped same)
  | none =>
    cases text with
    | nil => cases ran
    | cons c text =>
      by_cases quote : c = '"'
      · exact .inl ⟨text, by rw [quote]⟩
      · right
        by_cases backslash : c = '\\'
        · subst backslash
          cases text with
          | nil => cases ran
          | cons letter text =>
            by_cases unit : letter = 'u'
            · exact escaped (by rw [unit])
            · cases escape : simpleEscape? letter with
              | none =>
                have stuck : step? ⟨.escape read, tokens⟩ letter = none := by
                  simp [step?, unit, escape]
                have ran : ((step? ⟨.escape read, tokens⟩ letter).bind (run? · text)).bind finish? =
                    some result := ran
                rw [stuck] at ran
                cases ran
              | some c =>
                have known := mem_shortEscapes_of_simpleEscape? escape
                rw [Paired.scan, run?_short known] at ran
                exact ⟨_, text, ⟨c :: read, none⟩, rfl, .short known, ran⟩
        · rw [run?_cons] at ran
          by_cases control : c.toNat < 0x20
          · have stuck : step? ⟨.text read, tokens⟩ c = none := by
              simp [step?, continueText?, quote, backslash, control]
            rw [Paired.scan, stuck] at ran
            cases ran
          · have kept : step? ⟨.text read, tokens⟩ c = some ⟨.text (c :: read), tokens⟩ := by
              simp [step?, continueText?, quote, backslash, control]
            rw [Paired.scan, kept] at ran
            exact ⟨[c], text, ⟨c :: read, none⟩, rfl,
              .raw quote backslash (Nat.not_lt.mp control), ran⟩

theorem Piece.ne_nil {piece : List Char} (is : Piece piece) : piece ≠ [] := by
  cases is <;> simp

/-- A string that is read to its end is written in code units, up to the quote that closes it. -/
theorem exists_units_of_run? {paired : Paired} {tokens result : List Token} {text : List Char}
    (ran : (run? ⟨paired.scan, tokens⟩ text).bind finish? = some result) :
    ∃ units written rest, text = written ++ '"' :: rest ∧ UnitsWritten units written := by
  rcases exists_piece_of_run? ran with ⟨rest, rfl⟩ | ⟨piece, rest, later, split, first, ran⟩
  · exact ⟨[], [], rest, rfl, .nil⟩
  · have shorter : rest.length < text.length := by
      have filled := List.length_pos_iff.mpr first.ne_nil
      rw [split, List.length_append]
      omega
    obtain ⟨units, written, rest, same, others⟩ := exists_units_of_run? ran
    obtain ⟨more, value⟩ := first.append others
    exact ⟨more, piece ++ written, rest, by rw [split, same, List.append_assoc], value⟩
termination_by text.length

/-- Behind an opening quote stands a text, however it is spelled, and a closing quote. -/
theorem exists_text_of_run?
    (ran : (run? ⟨.text [], tokens⟩ text).bind finish? = some result) :
    ∃ units written rest found, text = written ++ '"' :: rest ∧ UnitsWritten units written ∧
      textOf? units = some found ∧
      (run? ⟨.between, .string (String.ofList found) :: tokens⟩ rest).bind finish? =
        some result := by
  obtain ⟨units, written, rest, rfl, value⟩ :=
    @exists_units_of_run? ⟨[], none⟩ tokens result text ran
  have spelled : (run? ⟨Paired.scan ⟨[], none⟩, tokens⟩ (written ++ '"' :: rest)).bind finish? =
      some result := ran
  rw [run?_units value, Option.bind_assoc] at spelled
  obtain ⟨later, folded, closed⟩ := Option.bind_eq_some_iff.mp spelled
  rw [run?_close, Option.bind_assoc] at closed
  obtain ⟨found, finished, closed⟩ := Option.bind_eq_some_iff.mp closed
  refine ⟨units, written, rest, found, rfl, value, ?_, closed⟩
  rw [textOf?, folded, Option.bind_some, finished]

end Lexer

/-! ### Words -/

/-- A word that is read is a name or a numeral that has a size. -/
theorem Token.exists_lexeme_of_ofWord? {word : List Char} {token : Token}
    (read : ofWord? word = some token) :
    ∃ lexeme, lexeme.token? = some token ∧ ∀ lexemes rest, LexemesWritten lexemes rest →
      LexemesWritten (lexeme :: lexemes) (word ++ rest) := by
  have named {written : List Char} {token : Token} (name : (written, token) ∈ names) :
      ∃ lexeme : Lexeme, lexeme.token? = some token ∧ ∀ lexemes rest, LexemesWritten lexemes rest →
        LexemesWritten (lexeme :: lexemes) (written ++ rest) :=
    ⟨.plain token, rfl, fun _ _ others => .name name others⟩
  unfold ofWord? at read
  split at read
  case h_1 =>
    obtain rfl := Option.some.inj read
    exact named (by simp [names])
  case h_2 =>
    obtain rfl := Option.some.inj read
    exact named (by simp [names])
  case h_3 =>
    obtain rfl := Option.some.inj read
    exact named (by simp [names])
  case h_4 =>
    obtain ⟨numeral, spelled, read⟩ := Option.bind_eq_some_iff.mp read
    obtain ⟨number, size, made⟩ := Option.bind_eq_some_iff.mp read
    obtain rfl := Option.some.inj made
    have value := Numeral.ofChars?_eq_some_iff.mp spelled
    refine ⟨.number numeral, ?_, fun _ _ others => .number value others⟩
    rw [Lexeme.token?, size, Option.map_some]

/-! ### Texts -/

theorem mem_marks_of_punctuation? {c : Char} {token : Token}
    (mark : Token.punctuation? c = some token) : (c, token) ∈ marks := by
  unfold Token.punctuation? at mark
  split at mark
  case h_7 => cases mark
  all_goals
    obtain rfl := Option.some.inj mark
    simp [marks]

theorem mem_blanks_of_isSpace {c : Char} (space : Lexer.isSpace c = true) : c ∈ blanks := by
  simpa [Lexer.isSpace, blanks, or_assoc] using space

theorem noWordPart_dropWhile (text : List Char) : NoWordPart (text.dropWhile Lexer.isWordPart) := by
  intro c first
  have stops := List.head?_dropWhile_not Lexer.isWordPart text
  rw [Option.mem_def.mp first] at stops
  exact stops

/-- A lexeme that is written in front of others, and read as its token. -/
theorem exists_cons {lexemes : List Lexeme} {lexeme : Lexeme} {token : Token}
    {before read tokens : List Token} {text : List Char}
    (written : LexemesWritten (lexeme :: lexemes) text)
    (known : lexeme.token? = some token) (others : lexemes.mapM Lexeme.token? = some read)
    (same : tokens = (token :: before).reverse ++ read) :
    ∃ lexemes read, LexemesWritten lexemes text ∧ lexemes.mapM Lexeme.token? = some read ∧
      tokens = before.reverse ++ read := by
  refine ⟨lexeme :: lexemes, token :: read, written, ?_, by simp [same]⟩
  rw [List.mapM_cons, known, others]
  rfl

/-- What is read between tokens is written in lexemes, and they are read as its tokens. -/
theorem exists_lexemes_of_run? {before tokens : List Token} {text : List Char}
    (ran : (Lexer.run? ⟨.between, before⟩ text).bind Lexer.finish? = some tokens) :
    ∃ lexemes read, LexemesWritten lexemes text ∧ lexemes.mapM Lexeme.token? = some read ∧
      tokens = before.reverse ++ read := by
  cases text with
  | nil =>
    obtain rfl := Option.some.inj ran
    exact ⟨[], [], .nil, List.mapM_nil, (List.append_nil _).symm⟩
  | cons c rest =>
    by_cases part : Lexer.isWordPart c = true
    · have filled : (c :: rest).takeWhile Lexer.isWordPart ≠ [] := by simp [part]
      have parts : ∀ d ∈ (c :: rest).takeWhile Lexer.isWordPart, Lexer.isWordPart d = true :=
        List.all_eq_true.mp List.all_takeWhile
      have whole := List.takeWhile_append_dropWhile (p := Lexer.isWordPart) (l := c :: rest)
      have shorter : ((c :: rest).dropWhile Lexer.isWordPart).length < (c :: rest).length := by
        have size := congrArg List.length whole
        rw [List.length_append] at size
        have positive := List.length_pos_iff.mpr filled
        omega
      rw [← whole,
        Lexer.finish_of_whole_word filled parts (noWordPart_dropWhile (c :: rest))] at ran
      obtain ⟨token, read, ran⟩ := Option.bind_eq_some_iff.mp ran
      obtain ⟨lexemes, later, written, others, same⟩ := exists_lexemes_of_run? ran
      obtain ⟨lexeme, known, extend⟩ := Token.exists_lexeme_of_ofWord? read
      have all := extend lexemes _ written
      rw [whole] at all
      exact exists_cons all known others same
    · rw [Lexer.run?_cons, Lexer.step?, Lexer.begin?] at ran
      by_cases space : Lexer.isSpace c = true
      · rw [if_pos space] at ran
        obtain ⟨lexemes, later, written, others⟩ := exists_lexemes_of_run? ran
        exact ⟨lexemes, later, .blank (mem_blanks_of_isSpace space) written, others⟩
      · rw [if_neg space] at ran
        by_cases quote : c = '"'
        · subst quote
          obtain ⟨units, written, rest, found, split, value, read, ran⟩ :=
            Lexer.exists_text_of_run? ran
          have shorter : rest.length < ('"' :: (written ++ '"' :: rest)).length := by
            simp only [List.length_cons, List.length_append]
            omega
          rw [split]
          obtain ⟨lexemes, later, spelled, others, same⟩ := exists_lexemes_of_run? ran
          have known : (Lexeme.string units).token? = some (.string (String.ofList found)) := by
            rw [Lexeme.token?, read, Option.map_some]
          exact exists_cons (.string value spelled) known others same
        · rw [if_neg (by simpa using quote), if_neg part, Option.bind_map, Option.bind_assoc] at ran
          obtain ⟨token, mark, ran⟩ := Option.bind_eq_some_iff.mp ran
          obtain ⟨lexemes, later, written, others, same⟩ := exists_lexemes_of_run? ran
          exact exists_cons (.mark (mem_marks_of_punctuation? mark) written) rfl others same
termination_by text.length

/-- A text that is read is written in lexemes that can all be read. -/
theorem exists_lexemes_of_tokens? {tokens : List Token} {text : List Char}
    (read : tokens? text = some tokens) :
    ∃ lexemes, LexemesWritten lexemes text ∧ lexemes.mapM Lexeme.token? = some tokens := by
  obtain ⟨lexemes, later, written, known, same⟩ := @exists_lexemes_of_run? [] tokens text read
  rw [List.reverse_nil, List.nil_append] at same
  exact ⟨lexemes, written, same ▸ known⟩

end ResponseGate.Json
