import ResponseGate.Json.Token

/-!
How numbers are written, and that a written number is one word that is read as its parts.
-/

namespace ResponseGate.Json

/-- Decimal digits, at least one. -/
def DigitsWritten (digits : List Nat) (written : List Char) : Prop :=
  digits ≠ [] ∧ (∀ digit ∈ digits, digit < 10) ∧ written = digits.map Nat.digitChar

inductive FractionWritten : Option (List Nat) → List Char → Prop where
  | none : FractionWritten none []
  | some {digits : List Nat} {written : List Char} (value : DigitsWritten digits written) :
      FractionWritten (some digits) ('.' :: written)

inductive PowerWritten : Option Int → List Char → Prop where
  | none : PowerWritten none []
  | plain {letter : Char} {digits : List Nat} {written : List Char} (mark : letter ∈ ['e', 'E'])
      (value : DigitsWritten digits written) :
      PowerWritten (some (Numeral.valueOf digits)) (letter :: written)
  | plus {letter : Char} {digits : List Nat} {written : List Char} (mark : letter ∈ ['e', 'E'])
      (value : DigitsWritten digits written) :
      PowerWritten (some (Numeral.valueOf digits)) (letter :: '+' :: written)
  | minus {letter : Char} {digits : List Nat} {written : List Char} (mark : letter ∈ ['e', 'E'])
      (value : DigitsWritten digits written) :
      PowerWritten (some (-Numeral.valueOf digits)) (letter :: '-' :: written)

/-- A sign if there is one, a whole part without zeros in front, and what may follow it. -/
inductive NumeralWritten : Numeral → List Char → Prop where
  | parts {negative : Bool} {whole : List Nat} {fraction : Option (List Nat)} {power : Option Int}
      {first second third : List Char} (value : DigitsWritten whole first)
      (leading : whole.head? = some 0 → whole = [0]) (decimals : FractionWritten fraction second)
      (scale : PowerWritten power third) :
      NumeralWritten ⟨negative, whole, fraction, power⟩
        ((if negative then ['-'] else []) ++ (first ++ (second ++ third)))

namespace Numeral

variable {digits : List Nat} {written rest : List Char}

/-- Nothing that would go on with digits. -/
def NoDigit (rest : List Char) : Prop := ∀ c ∈ rest.head?, c.isDigit = false

theorem isDigit_of_written (value : DigitsWritten digits written) :
    ∀ c ∈ written, c.isDigit = true := by
  have all : ∀ digit < 10, digit.digitChar.isDigit = true := by decide
  obtain ⟨_, bound, rfl⟩ := value
  intro c member
  obtain ⟨digit, inside, rfl⟩ := List.mem_map.mp member
  exact all digit (bound digit inside)

theorem exists_cons_of_written (value : DigitsWritten digits written) :
    ∃ c others, written = c :: others ∧ c.isDigit = true := by
  have each := isDigit_of_written value
  obtain ⟨nonempty, _, rfl⟩ := value
  obtain ⟨digit, others, rfl⟩ := List.exists_cons_of_ne_nil nonempty
  exact ⟨digit.digitChar, others.map Nat.digitChar, rfl, each _ (by simp)⟩

/-- Written digits are taken as a whole, up to what follows them. -/
theorem digits_of_written (value : DigitsWritten digits written) (apart : NoDigit rest) :
    Numeral.digits (written ++ rest) = (digits, rest) := by
  have all : ∀ digit < 10, digit.digitChar.toNat - '0'.toNat = digit := by decide
  have each := isDigit_of_written value
  have stops : rest.takeWhile Char.isDigit = [] ∧ rest.dropWhile Char.isDigit = rest := by
    cases rest with
    | nil => exact ⟨rfl, rfl⟩
    | cons c rest =>
      have other : c.isDigit = false := apart c rfl
      simp [other]
  obtain ⟨_, bound, rfl⟩ := value
  have same : (digits.map Nat.digitChar).map (fun c => c.toNat - '0'.toNat) = digits := by
    rw [List.map_map]
    exact (List.map_congr_left fun digit member => all digit (bound digit member)).trans
      (List.map_id' digits)
  rw [Numeral.digits, List.takeWhile_append_of_pos each, List.dropWhile_append_of_pos each, stops.1,
    stops.2, List.append_nil, same]

theorem wholePart?_of_written (value : DigitsWritten digits written)
    (leading : digits.head? = some 0 → digits = [0]) (apart : NoDigit rest) :
    wholePart? (written ++ rest) = some (digits, rest) := by
  have nonempty := value.1
  rw [wholePart?, digits_of_written value apart]
  split
  · rename_i same
    cases same
    exact absurd rfl nonempty
  · rename_i same
    cases same
    cases leading rfl
  · rfl

theorem fractionPart?_of_written {fraction : Option (List Nat)}
    (value : FractionWritten fraction written) (apart : NoDigit rest)
    (point : rest.head? ≠ some '.') :
    fractionPart? (written ++ rest) = some (fraction, rest) := by
  cases value with
  | none =>
    rw [List.nil_append, fractionPart?]
    intro text same
    rw [same] at point
    exact point rfl
  | @some digits written value =>
    have nonempty := value.1
    rw [List.cons_append, fractionPart?, digits_of_written value apart]
    cases digits with
    | nil => exact absurd rfl nonempty
    | cons digit digits => rfl

theorem exponent?_of_written (value : DigitsWritten digits written) :
    exponent? written = some (valueOf digits : Int) ∧
      exponent? ('+' :: written) = some (valueOf digits : Int) ∧
      exponent? ('-' :: written) = some (-(valueOf digits : Int)) := by
  have nonempty := value.1
  have whole : Numeral.digits written = (digits, []) := by
    have read := @digits_of_written digits written [] value (by simp [NoDigit])
    rwa [List.append_nil] at read
  obtain ⟨c, others, same, digit⟩ := exists_cons_of_written value
  obtain ⟨first, more, rfl⟩ := List.exists_cons_of_ne_nil nonempty
  refine ⟨?_, ?_, ?_⟩
  · rw [exponent?, whole]
    · rfl
    · rintro text rfl
      cases same
      cases digit
    · rintro text rfl
      cases same
      cases digit
  · rw [exponent?, whole]
    rfl
  · rw [exponent?, whole]
    rfl

theorem powerPart?_of_written {power : Option Int} (value : PowerWritten power written) :
    powerPart? written = some power := by
  have letters : ∀ letter ∈ ['e', 'E'], (letter == 'e' || letter == 'E') = true :=
    List.all_eq_true.mp rfl
  cases value with
  | none => rfl
  | plain mark value =>
    rw [powerPart?, if_pos (letters _ mark), (exponent?_of_written value).1, Option.map_some]
  | plus mark value =>
    rw [powerPart?, if_pos (letters _ mark), (exponent?_of_written value).2.1, Option.map_some]
  | minus mark value =>
    rw [powerPart?, if_pos (letters _ mark), (exponent?_of_written value).2.2, Option.map_some]

/-- A power begins with its letter, so it goes on with neither digits nor decimals. -/
theorem apart_of_power {power : Option Int} (value : PowerWritten power written) :
    NoDigit written ∧ written.head? ≠ some '.' := by
  have letters : ∀ letter ∈ ['e', 'E'], letter.isDigit = false ∧ letter ≠ '.' := by
    rintro letter (_ | ⟨_, _ | ⟨_, ⟨⟩⟩⟩)
    all_goals decide
  cases value with
  | none => exact ⟨by simp [NoDigit], by simp⟩
  | plain mark | plus mark | minus mark =>
    exact ⟨by simpa [NoDigit] using (letters _ mark).1, by simpa using (letters _ mark).2⟩

theorem apart_of_fraction {fraction : Option (List Nat)} (value : FractionWritten fraction written)
    (apart : NoDigit rest) : NoDigit (written ++ rest) := by
  cases value with
  | none => exact apart
  | some value => simp [NoDigit]

/-- A written numeral is read as its parts. -/
theorem ofChars?_of_written {numeral : Numeral} (value : NumeralWritten numeral written) :
    ofChars? written = some numeral := by
  cases value with
  | @parts negative whole fraction power first second third value leading decimals scale =>
    obtain ⟨apart, point⟩ := apart_of_power scale
    have wholePart := wholePart?_of_written value leading (apart_of_fraction decimals apart)
    have fractionPart := fractionPart?_of_written decimals apart point
    have powerPart := powerPart?_of_written scale
    cases negative with
    | true => simp [ofChars?, wholePart, fractionPart, powerPart]
    | false =>
      obtain ⟨c, others, rfl, digit⟩ := exists_cons_of_written value
      have unsigned : c ≠ '-' := by
        rintro rfl
        cases digit
      rw [List.cons_append] at wholePart
      simp [ofChars?, unsigned, wholePart, fractionPart, powerPart]

/-! ### Numerals as words -/

theorem exists_cons_of_numeral {numeral : Numeral} (value : NumeralWritten numeral written) :
    ∃ c others, written = c :: others ∧ (c = '-' ∨ c.isDigit = true) := by
  cases value with
  | @parts negative whole fraction power first second third value leading decimals scale =>
    obtain ⟨c, others, rfl, digit⟩ := exists_cons_of_written value
    cases negative with
    | true => exact ⟨'-', _, rfl, .inl rfl⟩
    | false => exact ⟨c, _, rfl, .inr digit⟩

theorem isWordPart_of_digits (value : DigitsWritten digits written) :
    ∀ c ∈ written, Lexer.isWordPart c = true := by
  intro c member
  simp [Lexer.isWordPart, Char.isAlphanum, isDigit_of_written value c member]

theorem isWordPart_of_fraction {fraction : Option (List Nat)}
    (value : FractionWritten fraction written) : ∀ c ∈ written, Lexer.isWordPart c = true := by
  cases value with
  | none => simp
  | some value =>
    rintro c (_ | ⟨_, member⟩)
    · rfl
    · exact isWordPart_of_digits value c member

theorem isWordPart_of_power {power : Option Int} (value : PowerWritten power written) :
    ∀ c ∈ written, Lexer.isWordPart c = true := by
  have letters : ∀ letter ∈ ['e', 'E'], Lexer.isWordPart letter = true :=
    List.all_eq_true.mp rfl
  cases value with
  | none => simp
  | plain mark value =>
    rintro c (_ | ⟨_, member⟩)
    · exact letters _ mark
    · exact isWordPart_of_digits value c member
  | plus mark value | minus mark value =>
    rintro c (_ | ⟨_, _ | ⟨_, member⟩⟩)
    · exact letters _ mark
    · rfl
    · exact isWordPart_of_digits value c member

theorem isWordPart_of_numeral {numeral : Numeral} (value : NumeralWritten numeral written) :
    ∀ c ∈ written, Lexer.isWordPart c = true := by
  cases value with
  | @parts negative whole fraction power first second third value leading decimals scale =>
    intro c member
    simp only [List.mem_append] at member
    rcases member with sign | inside | inside | inside
    · cases negative with
      | true =>
        rw [List.mem_singleton.mp sign]
        rfl
      | false => cases sign
    · exact isWordPart_of_digits value c inside
    · exact isWordPart_of_fraction decimals c inside
    · exact isWordPart_of_power scale c inside

end Numeral

end ResponseGate.Json
