import ResponseGate.Text.Character

/-!
Letters in any case. Two characters count as the same letter when they are equal or both belong to
the cases of one ASCII letter; no other characters fold together. The classes of characters that
patterns know do not look at the case of a letter.
-/

namespace ResponseGate.Text

/-- The cases of a small ASCII letter: beside the two ASCII ones, the long s and the kelvin sign. -/
def letterCases (letter : Char) : List Char :=
  [letter, letter.toUpper] ++
    if letter = 's' then ['\u017f'] else if letter = 'k' then ['\u212a'] else []

inductive SameCase (c d : Char) : Prop where
  | same (same : c = d)
  | cases (letter : Char) (small : letter.isLower = true) (left : c ∈ letterCases letter)
      (right : d ∈ letterCases letter)

private theorem ascii_forall {P : Char → Prop} (all : ∀ code : Fin 128, P (Char.ofNat code))
    (c : Char) (ascii : c.toNat < 128) : P c := by
  have here := all ⟨c.toNat, ascii⟩
  rwa [Char.ofNat_toNat] at here

private theorem ascii_of_isLower {c : Char} (small : c.isLower = true) : c.toNat < 128 := by
  have range := Bool.and_eq_true_iff.mp small
  have bound : c.val.toNat ≤ 'z'.val.toNat := UInt32.le_iff_toNat_le.mp (of_decide_eq_true range.2)
  exact Nat.lt_of_le_of_lt bound (by decide)

private theorem toLower_of_not_ascii {c : Char} (high : ¬ c.toNat < 128) : c.toLower = c := by
  unfold Char.toLower
  rw [dif_neg]
  intro range
  have bound : c.val.toNat ≤ 'Z'.val.toNat := UInt32.le_iff_toNat_le.mp range.2
  exact high (Nat.lt_of_le_of_lt bound (by decide))

/-- Beyond ASCII only the long s and the kelvin sign fold to something else. -/
theorem fold_of_not_ascii {c : Char} (high : ¬ c.toNat < 128) :
    c = '\u017f' ∨ c = '\u212a' ∨ fold c = c := by
  by_cases longS : c = '\u017f'
  · exact .inl longS
  · by_cases kelvin : c = '\u212a'
    · exact .inr (.inl kelvin)
    · simp [fold, longS, kelvin, toLower_of_not_ascii high]

theorem fold_of_mem_letterCases {letter c : Char} (small : letter.isLower = true)
    (member : c ∈ letterCases letter) : fold c = letter := by
  -- `all` keeps the check to the cases of the letter; a quantifier might run through all
  -- characters.
  have folds : letter.isLower = true → (letterCases letter).all (fold · = letter) = true := by
    apply ascii_forall (P := fun letter =>
      letter.isLower = true → (letterCases letter).all (fold · = letter) = true)
    · decide +kernel
    · exact ascii_of_isLower small
  exact of_decide_eq_true (List.all_eq_true.mp (folds small) c member)

theorem isWord_of_mem_letterCases {letter c : Char} (small : letter.isLower = true)
    (member : c ∈ letterCases letter) : isWord c = true := by
  have words : letter.isLower = true → (letterCases letter).all isWord = true := by
    apply ascii_forall (P := fun letter =>
      letter.isLower = true → (letterCases letter).all isWord = true)
    · decide +kernel
    · exact ascii_of_isLower small
  exact List.all_eq_true.mp (words small) c member

/-- A character that folds to a small letter is a case of it, and any other one is its own
folding. -/
theorem mem_letterCases_or_fold_eq (c : Char) :
    ((fold c).isLower = true ∧ c ∈ letterCases (fold c)) ∨
      ((fold c).isLower = false ∧ fold c = c) := by
  by_cases ascii : c.toNat < 128
  · apply ascii_forall (P := fun c => ((fold c).isLower = true ∧ c ∈ letterCases (fold c)) ∨
      ((fold c).isLower = false ∧ fold c = c)) _ c ascii
    decide +kernel
  · rcases fold_of_not_ascii ascii with rfl | rfl | own
    · decide +kernel
    · decide +kernel
    · right
      rw [own]
      exact ⟨Bool.eq_false_iff.mpr fun small => ascii (ascii_of_isLower small), rfl⟩

theorem sameLetter_iff {c d : Char} : sameLetter c d = true ↔ SameCase c d := by
  rw [sameLetter, beq_iff_eq]
  constructor
  · intro folds
    rcases mem_letterCases_or_fold_eq c with ⟨small, left⟩ | ⟨big, left⟩
    · rcases mem_letterCases_or_fold_eq d with ⟨_, right⟩ | ⟨big, _⟩
      · rw [← folds] at right
        exact .cases _ small left right
      · rw [← folds, small] at big
        simp at big
    · rcases mem_letterCases_or_fold_eq d with ⟨small, _⟩ | ⟨_, right⟩
      · rw [← folds, big] at small
        simp at small
      · exact .same (left.symm.trans (folds.trans right))
  · rintro (same | ⟨letter, small, left, right⟩)
    · rw [same]
    · rw [fold_of_mem_letterCases small left, fold_of_mem_letterCases small right]

/-- Every other character stands for itself alone. -/
theorem SameCase.eq_of_not_ascii {c d : Char} (same : SameCase c d) (high : ¬ c.toNat < 128)
    (longS : c ≠ '\u017f') (kelvin : c ≠ '\u212a') : d = c := by
  rcases same with same | ⟨letter, small, left, _⟩
  · exact same.symm
  · have folded := fold_of_mem_letterCases small left
    rcases fold_of_not_ascii high with same | same | own
    · exact absurd same longS
    · exact absurd same kelvin
    · rw [own] at folded
      subst letter
      exact absurd (ascii_of_isLower small) high

theorem SameCase.symm {c d : Char} (same : SameCase c d) : SameCase d c := by
  cases same with
  | same same => exact .same same.symm
  | cases letter small left right => exact .cases letter small right left

theorem SameCase.trans {c d e : Char} (one : SameCase c d) (two : SameCase d e) : SameCase c e := by
  rw [← sameLetter_iff, sameLetter, beq_iff_eq] at *
  exact Eq.trans one two

instance : DecidableRel SameCase := fun _ _ => decidable_of_iff _ sameLetter_iff

/-- What folds to a character is that character or a case of the letter that it is a case of. -/
theorem SameCase.eq_or_mem {c d : Char} (same : SameCase c d) :
    c = d ∨ c ∈ letterCases (fold d) := by
  cases same with
  | same same => exact .inl same
  | cases letter small left right =>
    right
    rwa [fold_of_mem_letterCases small right]

/-- A small letter other than s and k, or a mark, is met in the two ASCII cases alone. -/
theorem sameCase_iff_toLower_eq {c letter : Char} (own : fold letter = letter) (notS : letter ≠ 's')
    (notK : letter ≠ 'k') : SameCase c letter ↔ c.toLower = letter := by
  rw [← sameLetter_iff, sameLetter, beq_iff_eq, own]
  by_cases longS : c = '\u017f'
  · subst c
    constructor
    · intro folds
      exact absurd folds.symm notS
    · rintro rfl
      exact absurd own (by decide)
  · by_cases kelvin : c = '\u212a'
    · subst c
      constructor
      · intro folds
        exact absurd folds.symm notK
      · rintro rfl
        exact absurd own (by decide)
    · simp [fold, longS, kelvin]

/-! ### Classes of characters -/

/-- White space is no part of a word. -/
theorem isWord_of_isBlank {c : Char} (blank : isBlank c = true) : isWord c = false := by
  have apart : (blankPoints.all fun point => !isWord (Char.ofNat point)) = true := by decide +kernel
  have outside := List.all_eq_true.mp apart c.toNat (List.contains_iff_mem.mp blank)
  rwa [Char.ofNat_toNat, Bool.not_eq_true'] at outside

theorem SameCase.isWord_eq {c d : Char} (same : SameCase c d) : isWord c = isWord d := by
  cases same with
  | same same => rw [same]
  | cases letter small left right =>
    rw [isWord_of_mem_letterCases small left, isWord_of_mem_letterCases small right]

theorem SameCase.isBlank_eq {c d : Char} (same : SameCase c d) : isBlank c = isBlank d := by
  cases same with
  | same same => rw [same]
  | cases letter small left right =>
    have unspaced {form : Char} (member : form ∈ letterCases letter) : isBlank form = false := by
      rw [Bool.eq_false_iff]
      intro blank
      have word := isWord_of_mem_letterCases small member
      rw [isWord_of_isBlank blank] at word
      cases word
    rw [unspaced left, unspaced right]

end ResponseGate.Text
