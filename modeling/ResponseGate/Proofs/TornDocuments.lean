import ResponseGate.Json.Document
import ResponseGate.Proofs.Utf8Text

/-!
Cut documents. An object that is written from its opening brace to its closing one is a document,
and no part of it that ends earlier is: not inside a string or a word, and not between two tokens
either.
-/

namespace ResponseGate.Json

namespace Lexer

variable {lexer later : Lexer} {tokens : List Token} {c : Char}

/-! ### Tokens are never taken back -/

theorem tokens_of_begin? (begun : begin? tokens c = some later) : tokens <:+ later.tokens := by
  unfold begin? at begun
  split at begun
  · cases begun
    exact List.suffix_refl _
  · split at begun
    · cases begun
      exact List.suffix_refl _
    · split at begun
      · cases begun
        exact List.suffix_refl _
      · obtain ⟨token, _, rfl⟩ := Option.map_eq_some_iff.mp begun
        exact List.suffix_cons _ _

theorem tokens_of_continueText? {read : List Char}
    (continued : continueText? tokens read c = some later) : tokens <:+ later.tokens := by
  unfold continueText? at continued
  split at continued
  · cases continued
    exact List.suffix_cons _ _
  · split at continued
    · cases continued
      exact List.suffix_refl _
    · split at continued
      · cases continued
      · cases continued
        exact List.suffix_refl _

theorem tokens_of_continueUnit? {read : List Char} {high : Option Nat} {digits value : Nat}
    (continued : continueUnit? tokens read high digits value c = some later) :
    later.tokens = tokens := by
  unfold continueUnit? at continued
  obtain ⟨digit, _, continued⟩ := Option.bind_eq_some_iff.mp continued
  split at continued
  · cases continued
    rfl
  · obtain ⟨scan, _, closed⟩ := Option.bind_eq_some_iff.mp continued
    cases closed
    rfl

theorem tokens_of_step? (stepped : lexer.step? c = some later) : lexer.tokens <:+ later.tokens := by
  obtain ⟨scan, tokens⟩ := lexer
  cases scan with
  | between => exact tokens_of_begin? stepped
  | word read =>
    unfold step? at stepped
    dsimp only at stepped
    split at stepped
    · cases stepped
      exact List.suffix_refl _
    · obtain ⟨token, _, begun⟩ := Option.bind_eq_some_iff.mp stepped
      exact (List.suffix_cons _ _).trans (tokens_of_begin? begun)
  | text read => exact tokens_of_continueText? stepped
  | escape read =>
    unfold step? at stepped
    dsimp only at stepped
    split at stepped
    · cases stepped
      exact List.suffix_refl _
    · obtain ⟨meant, _, rfl⟩ := Option.map_eq_some_iff.mp stepped
      exact List.suffix_refl _
  | unit read high digits value =>
    have same : later.tokens = tokens := tokens_of_continueUnit? stepped
    exact same ▸ List.suffix_refl _
  | surrogate read high =>
    obtain ⟨_, same⟩ := Option.ite_none_right_eq_some.mp stepped
    cases same
    exact List.suffix_refl _
  | surrogateEscape read high =>
    obtain ⟨_, same⟩ := Option.ite_none_right_eq_some.mp stepped
    cases same
    exact List.suffix_refl _

theorem tokens_of_run? {text : List Char} (ran : lexer.run? text = some later) :
    lexer.tokens <:+ later.tokens := by
  induction text generalizing lexer with
  | nil =>
    cases ran
    exact List.suffix_refl _
  | cons c text ih =>
    rw [run?_cons] at ran
    obtain ⟨middle, stepped, ran⟩ := Option.bind_eq_some_iff.mp ran
    exact (tokens_of_step? stepped).trans (ih ran)

/-- An opening brace is a token at once. -/
theorem tokens_ne_nil_of_opened {text : List Char} (opened : text.head? = some '\x7b')
    (ran : run? {} text = some later) : later.tokens ≠ [] := by
  obtain ⟨rest, rfl⟩ := List.head?_eq_some_iff.mp opened
  rw [run?_cons] at ran
  have seen : [Token.openObject] <:+ later.tokens := tokens_of_run? ran
  exact List.ne_nil_of_mem (seen.subset List.mem_cons_self)

/-- A closing brace that ends a document is a token of its own, for no string is open there. -/
theorem closing_brace_ends {tokens : List Token} (stepped : lexer.step? '\x7d' = some later)
    (finished : later.finish? = some tokens) :
    ∃ read, lexer.tokens <:+ read ∧ tokens = (Token.closeObject :: read).reverse := by
  obtain ⟨scan, before⟩ := lexer
  cases scan with
  | between =>
    cases stepped
    cases finished
    exact ⟨before, List.suffix_refl _, rfl⟩
  | word read =>
    obtain ⟨token, _, begun⟩ := Option.bind_eq_some_iff.mp stepped
    cases begun
    cases finished
    exact ⟨token :: before, List.suffix_cons _ _, rfl⟩
  | text read =>
    cases stepped
    cases finished
  | escape read => cases stepped
  | unit read high digits value => cases stepped
  | surrogate read high => cases stepped
  | surrogateEscape read high => cases stepped

end Lexer

namespace Builder

variable {builder later : Builder} {token : Token} {value : Value}

/-- Nothing may follow a finished document. -/
theorem finish?_of_run?_cons {tokens : List Token}
    (ran : builder.run? (token :: tokens) = some later) : builder.finish? = none := by
  rw [run?_cons] at ran
  cases builder with
  | finished value => cases ran
  | _ => rfl

/-! ### Where a document can end -/

theorem frames_of_complete_eq_finished {found : Value} {frames : List Frame}
    (ends : complete found frames = finished value) : frames = [] := by
  cases frames with
  | nil => rfl
  | cons frame frames => cases frame <;> cases ends

theorem complete_ne_awaitValue (found : Value) (frames others : List Frame) :
    complete found frames ≠ awaitValue others := by
  cases frames with
  | nil => simp [complete]
  | cons frame frames => cases frame <;> simp [complete]

/-- The first token of a value is all of it, or opens it. -/
theorem begin?_cases {frames : List Frame} (begun : begin? frames token = some later) :
    (∃ found, later = complete found frames) ∨ later = awaitFirstItem frames ∨
      later = awaitFirstKey frames := by
  unfold begin? at begun
  split at begun
  case h_5 =>
    obtain ⟨_, same⟩ := Option.ite_none_right_eq_some.mp begun
    exact .inr (.inl (Option.some.inj same).symm)
  case h_6 =>
    obtain ⟨_, same⟩ := Option.ite_none_right_eq_some.mp begun
    exact .inr (.inr (Option.some.inj same).symm)
  case h_7 => cases begun
  all_goals exact .inl ⟨_, (Option.some.inj begun).symm⟩

/-- A step begins a value, ends one with a closing bracket, or goes on to the next part of one. -/
theorem step?_cases (stepped : builder.step? token = some later) :
    (∃ frames, builder = awaitValue frames ∧ begin? frames token = some later) ∨
      (∃ frames, builder = awaitFirstItem frames ∧
        begin? (.items [] :: frames) token = some later) ∨
      ((token = .closeArray ∨ token = .closeObject) ∧
        ∃ found frames, later = complete found frames) ∨
      (∃ frame frames, later = awaitValue (frame :: frames)) ∨
      (∃ members frames, later = awaitKey members frames) ∨
      ∃ members key frames, later = afterKey members key frames := by
  unfold step? at stepped
  split at stepped
  case h_1 => exact .inl ⟨_, rfl, stepped⟩
  case h_3 => exact .inr (.inl ⟨_, rfl, stepped⟩)
  case h_2 | h_5 | h_6 | h_11 =>
    exact .inr (.inr (.inl ⟨by simp, _, _, (Option.some.inj stepped).symm⟩))
  all_goals cases stepped
  all_goals simp

theorem frames_of_begin?_eq_finished {frames : List Frame}
    (begun : begin? frames token = some (finished value)) : frames = [] := by
  rcases begin?_cases begun with ⟨found, same⟩ | same | same
  · exact frames_of_complete_eq_finished same.symm
  · cases same
  · cases same

/-- A document ends with a closing bracket, or it was just to begin. -/
theorem finished_of_step? (stepped : builder.step? token = some (finished value)) :
    builder = awaitValue [] ∨ token = .closeArray ∨ token = .closeObject := by
  rcases step?_cases stepped with ⟨frames, rfl, begun⟩ | ⟨frames, rfl, begun⟩ | ⟨close, _⟩ |
    ⟨_, _, same⟩ | ⟨_, _, same⟩ | ⟨_, _, _, same⟩
  · left
    rw [frames_of_begin?_eq_finished begun]
  · cases frames_of_begin?_eq_finished begun
  · exact .inr close
  · cases same
  · cases same
  · cases same

theorem begin?_ne_awaitValue {frames others : List Frame} :
    begin? frames token ≠ some (awaitValue others) := by
  intro begun
  rcases begin?_cases begun with ⟨found, same⟩ | same | same
  · exact complete_ne_awaitValue _ _ _ same.symm
  · cases same
  · cases same

/-- After the first token a value stands inside something. -/
theorem step?_ne_awaitValue_nil : builder.step? token ≠ some (awaitValue []) := by
  intro stepped
  rcases step?_cases stepped with ⟨_, _, begun⟩ | ⟨_, _, begun⟩ | ⟨_, _, _, same⟩ |
    ⟨_, _, same⟩ | ⟨_, _, same⟩ | ⟨_, _, _, same⟩
  · exact begin?_ne_awaitValue begun
  · exact begin?_ne_awaitValue begun
  · exact complete_ne_awaitValue _ _ _ same.symm
  · cases same
  · cases same
  · cases same

theorem run?_ne_awaitValue_nil {tokens : List Token} (nonempty : tokens ≠ []) :
    builder.run? tokens ≠ some (awaitValue []) := by
  intro ran
  rcases List.eq_nil_or_concat tokens with empty | ⟨before, last, split⟩
  · exact nonempty empty
  · rw [split, List.concat_eq_append, run?_append] at ran
    obtain ⟨middle, _, ran⟩ := Option.bind_eq_some_iff.mp ran
    rw [run?_cons] at ran
    obtain ⟨later, stepped, same⟩ := Option.bind_eq_some_iff.mp ran
    cases same
    exact step?_ne_awaitValue_nil stepped

end Builder

theorem Token.ofWord?_ne_close {word : List Char} {token : Token}
    (read : ofWord? word = some token) :
    token ≠ .closeArray ∧ token ≠ .closeObject := by
  unfold ofWord? at read
  split at read
  · cases read
    simp
  · cases read
    simp
  · cases read
    simp
  · obtain ⟨numeral, _, read⟩ := Option.bind_eq_some_iff.mp read
    obtain ⟨number, _, read⟩ := Option.bind_eq_some_iff.mp read
    cases read
    simp

/-- Up to a cut before its closing brace a document has some of its tokens, and not all of them. -/
theorem exists_tokens_before_cut {front rest : List Char} {tokens : List Token}
    (read : tokens? (front ++ (rest ++ ['\x7d'])) = some tokens) :
    ∃ cut more, Lexer.run? {} front = some cut ∧ more ≠ [] ∧
      tokens = cut.tokens.reverse ++ more := by
  obtain ⟨last, ran, finished⟩ := Option.bind_eq_some_iff.mp read
  rw [Lexer.run?_append] at ran
  obtain ⟨cut, first, ran⟩ := Option.bind_eq_some_iff.mp ran
  rw [Lexer.run?_append] at ran
  obtain ⟨before, second, stepped⟩ := Option.bind_eq_some_iff.mp ran
  rw [Lexer.run?_cons] at stepped
  obtain ⟨after, stepped, same⟩ := Option.bind_eq_some_iff.mp stepped
  cases same
  obtain ⟨read, kept, rfl⟩ := Lexer.closing_brace_ends stepped finished
  obtain ⟨new, rfl⟩ := (Lexer.tokens_of_run? second).trans kept
  refine ⟨cut, new.reverse ++ [.closeObject], first, by simp, by simp⟩

namespace Value

theorem ofTokens?_eq_finish? {tokens : List Token} {builder : Builder}
    (ran : (Builder.awaitValue []).run? tokens = some builder) :
    ofTokens? tokens = builder.finish? := by
  rw [ofTokens?, ran, Option.bind_some]

/-- Tokens that begin a document and are not all of it build no value. -/
theorem exists_builder_before_end {before after : List Token} {value : Value} (more : after ≠ [])
    (accepted : ofTokens? (before ++ after) = some value) :
    ∃ builder, (Builder.awaitValue []).run? before = some builder ∧ builder.finish? = none := by
  obtain ⟨last, ran, _⟩ := Option.bind_eq_some_iff.mp accepted
  rw [Builder.run?_append] at ran
  obtain ⟨builder, first, ran⟩ := Option.bind_eq_some_iff.mp ran
  obtain ⟨token, others, rfl⟩ := List.exists_cons_of_ne_nil more
  exact ⟨builder, first, Builder.finish?_of_run?_cons ran⟩

/-- No word completes a value that stands inside something. -/
theorem ofTokens?_of_word {before : List Token} {builder : Builder} {word : List Char}
    {token : Token} (nonempty : before ≠ [])
    (ran : (Builder.awaitValue []).run? before = some builder)
    (read : Token.ofWord? word = some token) : ofTokens? (before ++ [token]) = none := by
  rw [ofTokens?, Builder.run?_append, ran, Option.bind_some, Builder.run?_cons]
  cases stepped : builder.step? token with
  | none => rfl
  | some later =>
    cases later with
    | finished value =>
      obtain ⟨array, object⟩ := Token.ofWord?_ne_close read
      rcases Builder.finished_of_step? stepped with start | close | close
      · rw [start] at ran
        exact absurd ran (Builder.run?_ne_awaitValue_nil nonempty)
      · exact absurd close array
      · exact absurd close object
    | _ => rfl

/-- An object that is cut short is no document. -/
theorem ofChars?_of_prefix {whole front : List Char} {value : Value}
    (opened : whole.head? = some '\x7b') (closed : whole.getLast? = some '\x7d')
    (accepted : ofChars? whole = some value) (begins : front <+: whole) (proper : front ≠ whole) :
    ofChars? front = none := by
  obtain ⟨rest, split⟩ := begins
  obtain ⟨rest, rfl⟩ : ∃ others, rest = others ++ ['\x7d'] := by
    rcases List.eq_nil_or_concat rest with rfl | ⟨others, last, same⟩
    · rw [List.append_nil] at split
      exact absurd split proper
    · rw [List.concat_eq_append] at same
      rw [← split, same, ← List.append_assoc, List.getLast?_concat, Option.some.injEq] at closed
      exact ⟨others, by rw [same, closed]⟩
  rw [← split] at accepted
  obtain ⟨tokens, read, built⟩ := Option.bind_eq_some_iff.mp accepted
  obtain ⟨⟨scan, seen⟩, more, ran, nonempty, rfl⟩ := exists_tokens_before_cut read
  obtain ⟨builder, first, unfinished⟩ := exists_builder_before_end nonempty built
  cases scan with
  | between =>
    have lexed : tokens? front = some seen.reverse := by rw [tokens?, ran]; rfl
    rw [ofChars?, lexed, Option.bind_some, ofTokens?_eq_finish? first, unfinished]
  | word word =>
    have inside : seen.reverse ≠ [] := by
      cases front with
      | nil => cases ran
      | cons c front =>
        rw [← split] at opened
        have first : (c :: front).head? = some '\x7b' := opened
        simpa using Lexer.tokens_ne_nil_of_opened first ran
    have lexed : tokens? front =
        (Token.ofWord? word.reverse).map fun token => (token :: seen).reverse := by
      rw [tokens?, ran]
      rfl
    rw [ofChars?, lexed]
    cases last : Token.ofWord? word.reverse with
    | none => rfl
    | some token =>
      rw [Option.map_some, Option.bind_some, List.reverse_cons]
      exact ofTokens?_of_word inside first last
  | _ =>
    have unlexed : tokens? front = none := by rw [tokens?, ran]; rfl
    rw [ofChars?, unlexed]
    rfl

/-- The same for its bytes, where the cut may also go through a character. -/
theorem parseBytes?_of_prefix {whole front : List UInt8} {value : Value}
    (opened : whole.head? = some 0x7B) (closed : whole.getLast? = some 0x7D)
    (accepted : parseBytes? whole = some value) (begins : front <+: whole)
    (proper : front ≠ whole) :
    parseBytes? front = none := by
  obtain ⟨text, decoded, accepted⟩ := Option.bind_eq_some_iff.mp accepted
  have encoded := Text.fromUTF8?_list_eq_some_iff.mp decoded
  rw [← encoded] at opened closed begins proper
  unfold parseBytes?
  cases cut : String.fromUTF8? ⟨front.toArray⟩ with
  | none => rfl
  | some part =>
    have same := Text.fromUTF8?_list_eq_some_iff.mp cut
    rw [← same] at begins proper
    have different : part.toList ≠ text.toList := by
      intro equal
      rw [equal] at proper
      exact proper rfl
    exact ofChars?_of_prefix (Text.head?_of_ascii_byte opened (by decide))
      (Text.getLast?_of_ascii_byte closed (by decide)) accepted
      (Text.prefix_of_flatMap_prefix begins)
      different

end Value

end ResponseGate.Json
