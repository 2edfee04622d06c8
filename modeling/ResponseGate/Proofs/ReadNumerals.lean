import ResponseGate.Proofs.WrittenNumerals

/-!
Numerals that are read are written by the grammar. The parts a word is taken apart into are the
parts it is written with, so a word is read exactly when the grammar allows it.
-/

namespace ResponseGate.Json.Numeral

variable {text rest : List Char} {found : List Nat}

theorem digitChar_of_isDigit {c : Char} (digit : c.isDigit = true) :
    c.toNat - '0'.toNat < 10 ∧ Nat.digitChar (c.toNat - '0'.toNat) = c := by
  have zero : '0'.toNat = 48 := rfl
  have nine : '9'.toNat = 57 := rfl
  obtain ⟨low, high⟩ := Char.isDigit_iff_toNat.mp digit
  have bound : c.toNat - '0'.toNat < 10 := by omega
  refine ⟨bound, Char.toNat_inj.mp ?_⟩
  rw [Nat.toNat_digitChar_of_lt_ten bound]
  omega

/-- The digits a text begins with are written as they stand there. -/
theorem digitsWritten_of_digits (read : digits text = (found, rest)) (filled : found ≠ []) :
    ∃ written, text = written ++ rest ∧ DigitsWritten found written := by
  obtain ⟨rfl, rfl⟩ := Prod.mk.inj read
  have each : ∀ c ∈ text.takeWhile Char.isDigit, c.isDigit = true :=
    List.all_eq_true.mp List.all_takeWhile
  refine ⟨text.takeWhile Char.isDigit, List.takeWhile_append_dropWhile.symm, filled, ?_, ?_⟩
  · intro digit member
    obtain ⟨c, inside, rfl⟩ := List.mem_map.mp member
    exact (digitChar_of_isDigit (each c inside)).1
  · rw [List.map_map]
    have same := List.map_congr_left fun c member => (digitChar_of_isDigit (each c member)).2
    exact (same.trans (List.map_id' _)).symm

theorem digitsWritten_of_wholePart? (read : wholePart? text = some (found, rest)) :
    ∃ written, text = written ++ rest ∧ DigitsWritten found written ∧
      (found.head? = some 0 → found = [0]) := by
  unfold wholePart? at read
  split at read
  case h_1 => cases read
  case h_2 => cases read
  case h_3 empty leading =>
    have parts := Option.some.inj read
    have filled : found ≠ [] := by
      rintro rfl
      exact empty rest parts
    obtain ⟨written, split, value⟩ := digitsWritten_of_digits parts filled
    refine ⟨written, split, value, ?_⟩
    intro first
    obtain ⟨others, rfl⟩ := List.head?_eq_some_iff.mp first
    cases others with
    | nil => rfl
    | cons second others => exact absurd parts (leading second others rest)

theorem fractionWritten_of_fractionPart? {fraction : Option (List Nat)}
    (read : fractionPart? text = some (fraction, rest)) :
    ∃ written, text = written ++ rest ∧ FractionWritten fraction written := by
  unfold fractionPart? at read
  split at read
  · rename_i after
    split at read
    · cases read
    · rename_i found rest empty parts
      obtain ⟨rfl, rfl⟩ := Prod.mk.inj (Option.some.inj read)
      have filled : found ≠ [] := by
        rintro rfl
        exact empty rfl
      obtain ⟨written, rfl, value⟩ := digitsWritten_of_digits parts filled
      exact ⟨'.' :: written, rfl, .some value⟩
  · obtain ⟨rfl, rfl⟩ := Prod.mk.inj (Option.some.inj read)
    exact ⟨[], rfl, .none⟩

/-- An exponent is digits to the end of the text, behind a sign or none. -/
theorem exists_digits_of_exponent? {power : Int} (read : exponent? text = some power) :
    ∃ found written, DigitsWritten found written ∧
      (text = written ∧ power = valueOf found ∨ text = '+' :: written ∧ power = valueOf found ∨
        text = '-' :: written ∧ power = -valueOf found) := by
  unfold exponent? at read
  dsimp only at read
  split at read
  case h_1 => cases read
  case h_2 => cases read
  case h_3 found empty parts =>
    have filled : found ≠ [] := by
      rintro rfl
      exact empty rfl
    obtain ⟨written, whole, value⟩ := digitsWritten_of_digits parts filled
    rw [List.append_nil] at whole
    refine ⟨found, written, value, ?_⟩
    have signed := Option.some.inj read
    split at whole
    · exact .inr (.inr ⟨by rw [← whole], by simpa using signed.symm⟩)
    · exact .inr (.inl ⟨by rw [← whole], by simpa using signed.symm⟩)
    · exact .inl ⟨whole, by simpa using signed.symm⟩

theorem powerWritten_of_powerPart? {power : Option Int} (read : powerPart? text = some power) :
    PowerWritten power text := by
  cases text with
  | nil =>
    cases read
    exact .none
  | cons letter after =>
    rw [powerPart?] at read
    obtain ⟨mark, mapped⟩ := Option.ite_none_right_eq_some.mp read
    obtain ⟨exponent, inner, rfl⟩ := Option.map_eq_some_iff.mp mapped
    have letters : letter ∈ ['e', 'E'] := by simpa using mark
    obtain ⟨found, written, value, parts⟩ := exists_digits_of_exponent? inner
    rcases parts with ⟨rfl, rfl⟩ | ⟨rfl, rfl⟩ | ⟨rfl, rfl⟩
    · exact .plain letters value
    · exact .plus letters value
    · exact .minus letters value

/-- A word is read as a numeral exactly when it is one of the ways to write it. -/
theorem ofChars?_eq_some_iff {numeral : Numeral} :
    ofChars? text = some numeral ↔ NumeralWritten numeral text := by
  constructor
  · intro read
    have unsigned (negative : Bool) {text : List Char}
        (read : ((wholePart? text).bind fun first => (fractionPart? first.2).bind fun second =>
          (powerPart? second.2).bind fun power =>
            some (Numeral.mk negative first.1 second.1 power)) = some numeral) :
        NumeralWritten numeral ((if negative then ['-'] else []) ++ text) := by
      obtain ⟨⟨whole, afterWhole⟩, first, read⟩ := Option.bind_eq_some_iff.mp read
      obtain ⟨⟨fraction, afterFraction⟩, second, read⟩ := Option.bind_eq_some_iff.mp read
      obtain ⟨power, third, made⟩ := Option.bind_eq_some_iff.mp read
      obtain rfl := Option.some.inj made
      obtain ⟨written, rfl, value, leading⟩ := digitsWritten_of_wholePart? first
      obtain ⟨decimals, rfl, fractional⟩ := fractionWritten_of_fractionPart? second
      exact .parts value leading fractional (powerWritten_of_powerPart? third)
    unfold ofChars? at read
    dsimp only at read
    split at read
    · exact unsigned true read
    · exact unsigned false read
  · exact ofChars?_of_written

end ResponseGate.Json.Numeral
