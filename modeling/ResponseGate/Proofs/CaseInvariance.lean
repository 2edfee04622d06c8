import Mathlib.Data.List.Forall2
import ResponseGate.Proofs.CatalogueMatching

/-!
Texts that differ in the cases of letters alone. Patterns denote the same in both, whatever room the
letters take up in bytes, so the same rules match them and they are judged alike.
-/

namespace ResponseGate

open Text

/-- Two texts with the same letters, each in any of its cases. -/
def SameLetters (text other : List Char) : Prop := List.Forall₂ SameCase text other

variable {text other : List Char} {pattern : Pattern} {rule : Rule} {start finish index : Nat}
  {c : Char}

instance (text other : List Char) : Decidable (SameLetters text other) :=
  inferInstanceAs (Decidable (List.Forall₂ _ _ _))

namespace SameLetters

theorem symm (same : SameLetters text other) : SameLetters other text :=
  List.Forall₂.flip (same.imp fun _ _ => SameCase.symm)

theorem drop (same : SameLetters text other) (count : Nat) :
    SameLetters (text.drop count) (other.drop count) :=
  List.forall₂_drop count same

theorem length_eq (same : SameLetters text other) : text.length = other.length :=
  List.Forall₂.length_eq same

theorem getElem? (same : SameLetters text other) (here : text[index]? = some c) :
    ∃ d, other[index]? = some d ∧ SameCase c d := by
  obtain ⟨inside, rfl⟩ := List.getElem?_eq_some_iff.mp here
  have bound : index < other.length := by rwa [← same.length_eq]
  exact ⟨other[index], List.getElem?_eq_getElem bound, List.Forall₂.get same inside bound⟩

theorem wordAt (same : SameLetters text other) (word : WordAt text index) : WordAt other index := by
  obtain ⟨c, here, isWord⟩ := word
  obtain ⟨d, there, alike⟩ := same.getElem? here
  exact ⟨d, there, by rwa [← alike.isWord_eq]⟩

theorem wordAt_iff (same : SameLetters text other) : WordAt text index ↔ WordAt other index :=
  ⟨same.wordAt, same.symm.wordAt⟩

end SameLetters

theorem CharKind.admits_eq (kind : CharKind) {c d : Char} (same : SameCase c d) :
    kind.admits c = kind.admits d := by
  cases kind with
  | blank => exact same.isBlank_eq
  | word => exact same.isWord_eq

/-- A pattern denotes the same positions in both texts. -/
theorem Pattern.Denotes.of_sameLetters (same : SameLetters text other)
    (denotes : pattern.Denotes text start finish) : pattern.Denotes other start finish := by
  have inside {position : Nat} (bound : position ≤ text.length) : position ≤ other.length := by
    rwa [← same.length_eq]
  induction denotes with
  | empty bound => exact .empty (inside bound)
  | edge bound between =>
    rw [same.wordAt_iff, same.wordAt_iff] at between
    exact .edge (inside bound) between
  | noLetters bound => exact .noLetters (inside bound)
  | letter here spelled _ ih =>
    obtain ⟨d, there, alike⟩ := same.getElem? here
    exact .letter there (alike.symm.trans spelled) ih
  | one here admits =>
    obtain ⟨d, there, alike⟩ := same.getElem? here
    rw [CharKind.admits_eq _ alike] at admits
    exact .one there admits
  | noMore bound => exact .noMore (inside bound)
  | more here admits _ ih =>
    obtain ⟨d, there, alike⟩ := same.getElem? here
    rw [CharKind.admits_eq _ alike] at admits
    exact .more there admits ih
  | seq _ _ left right => exact .seq left right
  | left _ ih => exact .left ih
  | right _ ih => exact .right ih

theorem Rule.Occurs.of_sameLetters (same : SameLetters text other) (occurs : rule.Occurs text) :
    rule.Occurs other := by
  obtain ⟨start, finish, forward, inside, denotes, counts⟩ := occurs
  rw [same.length_eq] at inside
  refine ⟨start, finish, forward, inside, denotes.of_sameLetters same, ?_⟩
  rintro exemption exempts ⟨reached, excuses⟩
  exact counts exemption exempts ⟨reached, excuses.of_sameLetters (same.drop finish).symm⟩

theorem Rule.occursIn_eq_of_sameLetters (rule : Rule) (same : SameLetters text other) :
    rule.occursIn text = rule.occursIn other := by
  rw [Bool.eq_iff_iff, occursIn_iff, occursIn_iff]
  exact ⟨Occurs.of_sameLetters same, Occurs.of_sameLetters same.symm⟩

/-- The cases of letters make no difference: the same rules match, exemptions included, and the
decision is the same with the same labels. The dotted capital and the dotless small i are letters of
their own. -/
theorem case_makes_no_difference {first second : String}
    (same : SameLetters first.toList second.toList) :
    (∀ rule ∈ Catalogue.rules, rule.isMatch first = rule.isMatch second) ∧
    (∀ rules, Decision.matchedLabels rules first = Decision.matchedLabels rules second) ∧
    Decision.scan first = Decision.scan second ∧
    (∀ c, SameCase '\u0130' c → c = '\u0130') ∧ (∀ c, SameCase '\u0131' c → c = '\u0131') := by
  have found (rule : Rule) : rule.occursIn first.toList = rule.occursIn second.toList :=
    rule.occursIn_eq_of_sameLetters same
  have labels (rules : List Rule) :
      Decision.matchedLabels rules first = Decision.matchedLabels rules second := by
    simp only [Decision.matchedLabels, found]
  refine ⟨fun rule _ => found rule, labels, ?_, ?_, ?_⟩
  · rw [Decision.scan, Decision.scan, Decision.scanWith, Decision.scanWith, labels]
  · intro c same
    exact same.eq_of_not_ascii (by decide) (by decide) (by decide)
  · intro c same
    exact same.eq_of_not_ascii (by decide) (by decide) (by decide)

/-- The kelvin sign and the long s take up more bytes than the letters they stand for. -/
theorem folded_letters_make_no_difference :
    let plain := "make sure to stop for now"
    let folded := "MA\u212aE \u017fURE to STOP For Now"
    SameLetters plain.toList folded.toList ∧ plain.utf8ByteSize < folded.utf8ByteSize ∧
      Decision.scan plain = Decision.scan folded ∧
      Decision.scan folded =
        .reject ⟨["Shifting: \"make sure to\"", "Minimization: \"for now\""]⟩ := by
  intro plain folded
  have same : SameLetters plain.toList folded.toList := by decide +kernel
  exact ⟨same, by decide +kernel, (case_makes_no_difference same).2.2.1, by decide +kernel⟩

end ResponseGate
