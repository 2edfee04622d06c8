import Mathlib.Data.Finset.Basic
import Mathlib.Data.Finset.Range
import ResponseGate.Proofs.CatalogueMatching
import ResponseGate.Proofs.PatternContext

/-!
Separators: the characters that no pattern of the catalogue reads. What stands before such a
character and what stands behind it are matched as two texts of their own, exemptions included, so
the rules that match the whole are those that match either part.
-/

namespace ResponseGate

open Text

/-- The marks that patterns of the catalogue spell out. -/
def spelledMarks : List Char := ['\'', ',', '/', '#']

/-- A full stop, a bracket, an emoji: no word character, no white space and none of those marks. -/
def isSeparator (c : Char) : Bool := !isWord c && !isBlank c && !spelledMarks.contains c

theorem isSeparator_iff {c : Char} :
    isSeparator c = true ↔ isWord c = false ∧ isBlank c = false ∧ c ∉ spelledMarks := by
  simp [isSeparator, and_assoc]

/-- Letters that fold together are word characters all, so folding makes nothing a separator. -/
theorem isSeparator_of_sameCase {c d : Char} (same : SameCase c d)
    (separates : isSeparator c = true) :
    isSeparator d = true := by
  cases same with
  | same same => rwa [← same]
  | cases letter small left right =>
    have word := isWord_of_mem_letterCases small left
    rw [(isSeparator_iff.mp separates).1] at word
    cases word

theorem not_admits_of_separator {c : Char} (separates : isSeparator c = true) (kind : CharKind) :
    kind.admits c = false := by
  obtain ⟨word, blank, _⟩ := isSeparator_iff.mp separates
  cases kind with
  | blank => exact blank
  | word => exact word

/-! ### Patterns -/

/-- The letters a pattern spells out. -/
def Pattern.letters : Pattern → List Char
  | literal letters => letters
  | seq first second => first.letters ++ second.letters
  | either left right => left.letters ++ right.letters
  | _ => []

/-- A pattern that spells out no separator. -/
def Pattern.Unseparated (pattern : Pattern) : Prop :=
  ∀ letter ∈ pattern.letters, isSeparator letter = false

namespace Pattern

variable {text first second : List Char} {pattern : Pattern} {start finish position : Nat}
  {c : Char}

/-- No separator stands where a run of characters goes on. -/
theorem ne_of_admits (separates : isSeparator c = true) (here : text[position]? = some c)
    {kind : CharKind} {d : Char} (found : text[start]? = some d) (admits : kind.admits d = true) :
    position ≠ start := by
  rintro rfl
  rw [here, Option.some_inj] at found
  rw [← found, not_admits_of_separator separates kind] at admits
  cases admits

/-- No such pattern runs across a separator. -/
theorem Denotes.spares_separator (denotes : pattern.Denotes text start finish)
    (plain : pattern.Unseparated) (separates : isSeparator c = true)
    (here : text[position]? = some c) : position < start ∨ finish ≤ position := by
  induction denotes with
  | empty => omega
  | edge => omega
  | noLetters => omega
  | @letter start finish d letter letters found same others ih =>
    have rest := ih fun letter member => plain letter (List.mem_cons_of_mem _ member)
    have elsewhere : position ≠ start := by
      rintro rfl
      have spelled := plain letter List.mem_cons_self
      rw [here, Option.some_inj] at found
      rw [← found] at same
      rw [isSeparator_of_sameCase same separates] at spelled
      cases spelled
    omega
  | @one kind start d found admits =>
    have elsewhere := ne_of_admits separates here found admits
    omega
  | noMore => omega
  | @more kind start finish d found admits others ih =>
    have rest := ih plain
    have elsewhere := ne_of_admits separates here found admits
    omega
  | seq begun ended left right =>
    have before := left fun letter member => plain letter (List.mem_append_left _ member)
    have behind := right fun letter member => plain letter (List.mem_append_right _ member)
    have forward := begun.bounds.1
    have further := ended.bounds.1
    omega
  | left _ ih => exact ih fun letter member => plain letter (List.mem_append_left _ member)
  | right _ ih => exact ih fun letter member => plain letter (List.mem_append_right _ member)

/-- A match lies on one side of a separator. -/
theorem Denotes.beside_separator (denotes : pattern.Denotes (first ++ c :: second) start finish)
    (plain : pattern.Unseparated) (separates : isSeparator c = true) :
    finish ≤ first.length ∨ first.length < start :=
  (denotes.spares_separator plain separates (by simp)).symm

/-- Seen from before a separator the text ends there. -/
theorem denotes_before_separator (separates : isSeparator c = true)
    (before : finish ≤ first.length) :
    pattern.Denotes (first ++ c :: second) start finish ↔ pattern.Denotes first start finish := by
  have secluded : Secluded [] (c :: second) := by
    constructor
    · simp
    · simpa using (isSeparator_iff.mp separates).1
  obtain ⟨begins, ends⟩ := secluded.parted first
  constructor
  · intro denotes
    simpa using Denotes.in_part secluded (Nat.zero_le _) (by simpa using before) denotes
  · intro denotes
    simpa using denotes.in_whole begins ends

/-- Seen from behind a separator the text begins there. -/
theorem denotes_behind_separator (separates : isSeparator c = true) :
    pattern.Denotes (first ++ c :: second) (first.length + 1 + start) (first.length + 1 + finish) ↔
      pattern.Denotes second start finish := by
  have secluded : Secluded (first ++ [c]) [] := by
    constructor
    · simpa using (isSeparator_iff.mp separates).1
    · simp
  have length : (first ++ [c]).length = first.length + 1 := by simp
  have whole : (first ++ [c]) ++ (second ++ []) = first ++ c :: second := by simp
  obtain ⟨begins, ends⟩ := secluded.parted second
  rw [← whole, ← length]
  constructor
  · intro denotes
    have inside : (first ++ [c]).length + finish ≤ (first ++ [c]).length + second.length := by
      simpa only [List.append_nil, List.length_append] using denotes.bounds.2
    simpa using Denotes.in_part secluded (Nat.le_add_right _ _) inside denotes
  · intro denotes
    exact denotes.in_whole begins ends

theorem exists_denotes_before_separator (plain : pattern.Unseparated)
    (separates : isSeparator c = true) :
    (∃ reached, pattern.Denotes (first ++ c :: second) 0 reached) ↔
      ∃ reached, pattern.Denotes first 0 reached := by
  constructor
  · rintro ⟨reached, denotes⟩
    rcases denotes.beside_separator plain separates with before | behind
    · exact ⟨reached, (denotes_before_separator separates before).mp denotes⟩
    · omega
  · rintro ⟨reached, denotes⟩
    exact ⟨reached, (denotes_before_separator separates denotes.bounds.2).mpr denotes⟩

end Pattern

/-! ### Rules -/

/-- Neither the pattern nor the exemption spells out a separator. -/
structure Rule.Unseparated (rule : Rule) : Prop where
  pattern : rule.pattern.Unseparated
  exemption : ∀ exemption, rule.unlessFollowedBy = some exemption → exemption.Unseparated

namespace Rule

variable {rule : Rule} {first second : List Char} {c : Char}

/-- What stands behind a separator neither makes nor breaks an exemption before it. -/
theorem exempted_before_separator_iff (plain : rule.Unseparated) (separates : isSeparator c = true)
    {finish : Nat} (before : finish ≤ first.length) {exemption : Pattern}
    (exempts : rule.unlessFollowedBy = some exemption) :
    (∃ reached, exemption.Denotes ((first ++ c :: second).drop finish) 0 reached) ↔
      ∃ reached, exemption.Denotes (first.drop finish) 0 reached := by
  rw [List.drop_append_of_le_length before]
  exact Pattern.exists_denotes_before_separator (plain.exemption exemption exempts) separates

theorem drop_behind_separator (finish : Nat) :
    (first ++ c :: second).drop (first.length + 1 + finish) = second.drop finish := by
  rw [List.append_cons, List.drop_append]
  simp

/-- A rule occurs in two texts with a separator between them when it occurs in one of them. -/
theorem occurs_append_separator_iff (plain : rule.Unseparated) (separates : isSeparator c = true) :
    rule.Occurs (first ++ c :: second) ↔ rule.Occurs first ∨ rule.Occurs second := by
  have length : (first ++ c :: second).length = first.length + 1 + second.length := by
    simp only [List.length_append, List.length_cons]
    omega
  constructor
  · rintro ⟨start, finish, forward, inside, denotes, unexempt⟩
    rcases denotes.beside_separator plain.pattern separates with before | behind
    · left
      have alone := (Pattern.denotes_before_separator separates before).mp denotes
      refine ⟨start, finish, forward, before, alone, ?_⟩
      intro exemption exempts exempted
      exact unexempt exemption exempts
        ((exempted_before_separator_iff plain separates before exempts).mpr exempted)
    · right
      obtain ⟨start, rfl⟩ : ∃ later, start = first.length + 1 + later :=
        Nat.exists_eq_add_of_le behind
      obtain ⟨finish, rfl⟩ : ∃ later, finish = first.length + 1 + later :=
        Nat.exists_eq_add_of_le (Nat.le_trans behind forward)
      have alone := (Pattern.denotes_behind_separator separates).mp denotes
      refine ⟨start, finish, by omega, by omega, alone, ?_⟩
      intro exemption exempts
      have other := unexempt exemption exempts
      rwa [drop_behind_separator] at other
  · rintro (⟨start, finish, forward, inside, denotes, unexempt⟩ |
      ⟨start, finish, forward, inside, denotes, unexempt⟩)
    · have whole : rule.pattern.Denotes (first ++ c :: second) start finish :=
        (Pattern.denotes_before_separator separates inside).mpr denotes
      refine ⟨start, finish, forward, by omega, whole, ?_⟩
      intro exemption exempts exempted
      exact unexempt exemption exempts
        ((exempted_before_separator_iff plain separates inside exempts).mp exempted)
    · have whole : rule.pattern.Denotes (first ++ c :: second) (first.length + 1 + start)
          (first.length + 1 + finish) := (Pattern.denotes_behind_separator separates).mpr denotes
      refine ⟨first.length + 1 + start, first.length + 1 + finish, by omega, by omega, whole, ?_⟩
      intro exemption exempts
      rw [drop_behind_separator]
      exact unexempt exemption exempts

end Rule

/-! ### The catalogue -/

theorem Catalogue.unseparated {rule : Rule} (member : rule ∈ Catalogue.rules) :
    rule.Unseparated := by
  have patterns : (Catalogue.rules.all fun rule =>
      rule.pattern.letters.all fun letter => !isSeparator letter) = true := by decide +kernel
  have exemptions : (Catalogue.rules.all fun rule => rule.unlessFollowedBy.all fun exemption =>
      exemption.letters.all fun letter => !isSeparator letter) = true := by decide +kernel
  simp only [List.all_eq_true, Bool.not_eq_true', Option.all_eq_true] at patterns exemptions
  exact ⟨patterns rule member, fun exemption exempts => exemptions rule member exemption exempts⟩

/-- The places in the catalogue of the rules that match a text. -/
def Catalogue.matching (text : String) : Finset Nat :=
  (Finset.range Catalogue.rules.length).filter fun index =>
    Catalogue.rules[index]?.any fun rule => rule.isMatch text

theorem toList_append_separator (first second : String) (c : Char) :
    (first ++ String.singleton c ++ second).toList = first.toList ++ c :: second.toList := by
  simp [String.toList_append]

/-- The two sides of a separator are judged apart. The rules that match the whole are those that
match one of the sides, the whole is rejected exactly when a side is, and neither a match nor an
exemption reaches across. -/
theorem matching_append_separator (first second : String) {c : Char}
    (separates : isSeparator c = true) :
    let whole := first ++ String.singleton c ++ second
    Catalogue.matching whole = Catalogue.matching first ∪ Catalogue.matching second ∧
    ((∃ report, Decision.scan whole = .reject report) ↔
      (∃ report, Decision.scan first = .reject report) ∨
        ∃ report, Decision.scan second = .reject report) ∧
    ∀ rule ∈ Catalogue.rules,
      (∀ start finish, rule.pattern.Denotes whole.toList start finish →
        finish ≤ first.toList.length ∨ first.toList.length < start) ∧
      ∀ exemption, rule.unlessFollowedBy = some exemption →
        ∀ finish ≤ first.toList.length, ∀ reached,
          exemption.Denotes (whole.toList.drop finish) 0 reached →
            finish + reached ≤ first.toList.length := by
  intro whole
  have letters : whole.toList = first.toList ++ c :: second.toList :=
    toList_append_separator first second c
  have occurs (rule : Rule) (member : rule ∈ Catalogue.rules) :
      rule.Occurs whole.toList ↔ rule.Occurs first.toList ∨ rule.Occurs second.toList := by
    rw [letters]
    exact Rule.occurs_append_separator_iff (Catalogue.unseparated member) separates
  refine ⟨?_, ?_, ?_⟩
  · ext index
    simp only [Catalogue.matching, Finset.mem_union, Finset.mem_filter, ← and_or_left]
    cases found : Catalogue.rules[index]? with
    | none => simp
    | some rule =>
      have one := occurs rule (List.mem_of_getElem? found)
      simp only [Option.any_some, Rule.isMatch, Rule.occursIn_iff, one]
  · simp only [Decision.exists_scan_eq_reject_iff, Offends]
    constructor
    · rintro ⟨rule, member, found⟩
      rcases (occurs rule member).mp found with before | behind
      · exact .inl ⟨rule, member, before⟩
      · exact .inr ⟨rule, member, behind⟩
    · rintro (⟨rule, member, found⟩ | ⟨rule, member, found⟩)
      · exact ⟨rule, member, (occurs rule member).mpr (.inl found)⟩
      · exact ⟨rule, member, (occurs rule member).mpr (.inr found)⟩
  · intro rule member
    have plain := Catalogue.unseparated member
    rw [letters]
    constructor
    · intro start finish denotes
      exact denotes.beside_separator plain.pattern separates
    · intro exemption exempts finish before reached denotes
      rw [List.drop_append_of_le_length before] at denotes
      rcases denotes.beside_separator (plain.exemption exemption exempts) separates with near | far
      · rw [List.length_drop] at near
        omega
      · omega

/-- A symbol between the phrase and the plan that would excuse it takes the excuse away. -/
theorem excuse_is_cut_off :
    let first := "Good enough for now"
    let second := " I stop here, more if needed"
    isSeparator '😀' = true ∧
      Catalogue.matching (first ++ String.singleton '😀' ++ second) = {10, 22} ∧
      Catalogue.matching (first ++ second) = {10} ∧
      ∃ report, Decision.scan (first ++ String.singleton '😀' ++ second) = .reject report := by
  intro first second
  have separates : isSeparator '😀' = true := by decide +kernel
  obtain ⟨both, rejected, _⟩ := matching_append_separator first second separates
  have before : Catalogue.matching first = {22} := by decide +kernel
  have behind : Catalogue.matching second = {10} := by decide +kernel
  have report : ∃ report, Decision.scan first = .reject report :=
    ⟨⟨["Minimization: \"for now\""]⟩, by decide +kernel⟩
  refine ⟨separates, ?_, by decide +kernel, rejected.mpr (.inl report)⟩
  rw [both, before, behind]
  decide

end ResponseGate
