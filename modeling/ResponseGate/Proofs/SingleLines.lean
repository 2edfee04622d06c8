import ResponseGate.Payload
import ResponseGate.Proofs.ReportedLabels

/-!
Texts on one line. Whatever a payload holds, its error is told on one line, since the values in it
are written without line breaks; and reports name labels of the catalogue, which have none either.
-/

namespace ResponseGate

/-- Pieces are joined from nothing but themselves and what is put between them. -/
theorem not_mem_intercalate {α : Type} {item : α} {separator : List α} {pieces : List (List α)}
    (between : item ∉ separator) (each : ∀ piece ∈ pieces, item ∉ piece) :
    item ∉ separator.intercalate pieces := by
  induction pieces with
  | nil => exact List.not_mem_nil
  | cons piece pieces ih =>
    have one := each piece List.mem_cons_self
    have others := ih fun piece member => each piece (List.mem_cons_of_mem _ member)
    cases pieces with
    | nil =>
      rw [List.intercalate_singleton]
      exact one
    | cons next pieces =>
      rw [List.intercalate_cons_cons, List.mem_append, List.mem_append, not_or, not_or]
      exact ⟨⟨one, between⟩, others⟩

/-- The text has no line break in it. -/
def SingleLine (text : String) : Prop := '\n' ∉ text.toList

instance (text : String) : Decidable (SingleLine text) := inferInstanceAs (Decidable (¬ _))

namespace SingleLine

theorem append {first second : String} (one : SingleLine first) (other : SingleLine second) :
    SingleLine (first ++ second) := by
  rw [SingleLine, String.toList_append, List.mem_append]
  exact not_or.mpr ⟨one, other⟩

theorem intercalate {separator : String} {texts : List String} (between : SingleLine separator)
    (each : ∀ text ∈ texts, SingleLine text) : SingleLine (separator.intercalate texts) := by
  rw [SingleLine, String.toList_intercalate]
  exact not_mem_intercalate between (List.forall_mem_map.mpr each)

end SingleLine

/-! ### Digits -/

theorem newline_ne_digitChar (value : Nat) : '\n' ≠ value.digitChar := by
  have digits : ∀ value < 16, '\n' ≠ value.digitChar := by decide
  rcases Nat.lt_or_ge value 16 with small | large
  · exact digits value small
  · rw [Nat.digitChar_eq_star.mpr large]
    decide

theorem newline_not_mem_toDigits {base : Nat} (positive : 1 < base) (value : Nat) :
    '\n' ∉ Nat.toDigits base value := by
  induction value using Nat.strongRecOn with
  | ind value ih =>
    rw [Nat.toDigits_eq_if positive]
    split
    · rw [List.mem_singleton]
      exact newline_ne_digitChar value
    · rename_i large
      have smaller : value / base < value := Nat.div_lt_self (by omega) positive
      rw [List.mem_append, List.mem_singleton]
      exact not_or.mpr ⟨ih _ smaller, newline_ne_digitChar _⟩

theorem Decimal.Figures.newline_not_mem_written {figures : Figures}
    (plain : '\n' ∉ figures.digits) :
    '\n' ∉ figures.written := by
  have zeros (count : Int) : '\n' ∉ Decimal.zeros count := by
    intro member
    cases List.eq_of_mem_replicate member
  have exponent := newline_not_mem_toDigits (by decide : 1 < 10) figures.exponent.natAbs
  have begun (count : Nat) : '\n' ∉ figures.digits.take count :=
    fun member => plain (List.mem_of_mem_take member)
  have ended (count : Nat) : '\n' ∉ figures.digits.drop count :=
    fun member => plain (List.mem_of_mem_drop member)
  have others : '\n' ∉ figures.digits.tail := fun member => plain (List.mem_of_mem_tail member)
  unfold written
  simp only [List.splitAt_eq]
  split
  · split
    · simp [zeros, plain]
    · split
      · simp [zeros, plain]
      · simp [begun, ended]
  · split <;> split <;> simp [begun, others, exponent]

theorem Decimal.singleLine_write (x : Float) : SingleLine (Decimal.write x) := by
  have digits (decimal : Decimal) : '\n' ∉ (Figures.ofDecimal decimal).digits := by
    intro member
    rw [Figures.ofDecimal, List.mem_reverse] at member
    have inside := (List.dropWhile_sublist _).subset member
    exact newline_not_mem_toDigits (by decide) _ (List.mem_reverse.mp inside)
  unfold SingleLine write
  simp only [String.toList_ofList, List.mem_append, not_or]
  constructor
  · split <;> decide
  · split
    · decide
    · exact Figures.newline_not_mem_written (digits _)

/-! ### Values in error texts -/

theorem Text.newline_not_mem_quotedChar (c : Char) : '\n' ∉ Text.quotedChar c := by
  have digits := newline_not_mem_toDigits (by decide : 1 < 16) c.toNat
  unfold Text.quotedChar
  split
  · rename_i letter escape
    unfold Text.shortEscape? at escape
    split at escape <;> cases escape <;> decide
  · rename_i none
    split
    · rw [List.mem_singleton]
      rintro rfl
      cases none
    · simp [digits]

/-- Quotes keep every text on one line. -/
theorem Text.singleLine_quote (text : String) : SingleLine (Text.quote text) := by
  rw [SingleLine, Text.quote, String.toList_ofList]
  simp [Text.newline_not_mem_quotedChar]

theorem singleLine_toString (value : Int) : SingleLine (toString value) := by
  have digits (value : Nat) : SingleLine value.repr := by
    rw [SingleLine, Nat.toList_repr]
    exact newline_not_mem_toDigits (by decide) value
  cases value with
  | ofNat value => exact digits value
  | negSucc value => exact SingleLine.append (by decide) (digits _)

namespace Json

theorem Number.singleLine_description (number : Number) : SingleLine number.description := by
  cases number with
  | integer value =>
    exact (SingleLine.append (by decide) (singleLine_toString value)).append (by decide)
  | decimal value =>
    exact (SingleLine.append (by decide) (Decimal.singleLine_write value)).append (by decide)

theorem Value.singleLine_description (value : Value) : SingleLine value.description := by
  cases value with
  | boolean value => cases value <;> decide
  | number value => exact value.singleLine_description
  | string value => exact SingleLine.append (by decide) (Text.singleLine_quote value)
  | null | array _ | object _ =>
    rw [description]
    decide

theorem Mismatch.singleLine_message (mismatch : Mismatch) : SingleLine mismatch.message := by
  have wanted : SingleLine mismatch.wanted.description := by
    cases mismatch.wanted <;> decide
  exact ((SingleLine.append (by decide) mismatch.found.singleLine_description).append
    (by decide)).append wanted

end Json

/-! ### Reports -/

theorem Report.singleLine_message {report : Report}
    (each : ∀ label ∈ report.labels, SingleLine label) :
    SingleLine report.message :=
  (SingleLine.append (by decide +kernel) (SingleLine.intercalate (by decide) each)).append
    (by decide +kernel)

theorem Catalogue.singleLine_label {rule : Rule} (member : rule ∈ Catalogue.rules) :
    SingleLine rule.label := by
  have all : (Catalogue.rules.all fun rule => decide (SingleLine rule.label)) = true := by
    decide +kernel
  exact of_decide_eq_true (List.all_eq_true.mp all rule member)

/-- A report names labels of rules that match. -/
theorem Decision.exists_rule_of_label {rules : List Rule} {text label : String} {report : Report}
    (rejected : scanWith rules text = .reject report) (named : label ∈ report.labels) :
    ∃ rule ∈ rules, rule.isMatch text = true ∧ rule.label = label :=
  (tells_of_reject rejected).raised label named

theorem Decision.singleLine_of_scan {text : String} {report : Report}
    (rejected : scan text = .reject report) : SingleLine report.message := by
  apply Report.singleLine_message
  intro label named
  obtain ⟨rule, member, _, rfl⟩ := exists_rule_of_label rejected named
  exact Catalogue.singleLine_label member

end ResponseGate
