import ResponseGate.Decision
import ResponseGate.Proofs.PatternSemantics

/-!
What it means that a rule matches. A rule occurs in a text when its pattern stands somewhere in it
and no exemption begins where that occurrence ends; scanning approves the texts in which no rule of
the catalogue occurs.
-/

namespace ResponseGate

open Text

variable {text : List Char} {start : Nat}

/-- Some occurrence of the pattern counts. What follows is read as a text of its own. -/
def Rule.Occurs (rule : Rule) (text : List Char) : Prop :=
  ∃ start finish, start ≤ finish ∧ finish ≤ text.length ∧ rule.pattern.Denotes text start finish ∧
    ∀ exemption, rule.unlessFollowedBy = some exemption →
      ¬ ∃ reached, exemption.Denotes (text.drop finish) 0 reached

theorem Pattern.matchesAt_start (pattern : Pattern) (text : List Char) :
    pattern.matchesAt (Place.start text) = true ↔ ∃ finish, pattern.Denotes text 0 finish := by
  rw [matchesAt, ← Place.ofPosition_zero, pattern.matchThen_iff (Nat.zero_le _)]
  simp

theorem Rule.counts_iff (rule : Rule) (finish : Nat) :
    rule.counts (Place.ofPosition text finish) = true ↔
      ∀ exemption, rule.unlessFollowedBy = some exemption →
        ¬ ∃ reached, exemption.Denotes (text.drop finish) 0 reached := by
  unfold counts
  cases rule.unlessFollowedBy with
  | none => simp
  | some exemption =>
    have exempt := exemption.matchesAt_start (text.drop finish)
    simp only [Place.ofPosition, Option.some.injEq, forall_eq', ← exempt]
    simp

theorem Rule.occursFrom_iff (rule : Rule) (inside : start ≤ text.length) :
    rule.occursFrom (Place.ofPosition text start).previous (text.drop start) = true ↔
      ∃ later, start ≤ later ∧ later ≤ text.length ∧
        rule.holdsAt (Place.ofPosition text later) = true := by
  generalize front : text.drop start = rest
  induction rest generalizing start with
  | nil =>
    have ended := List.drop_eq_nil_iff.mp front
    rw [occursFrom, ← Place.ofPosition_of_drop front]
    constructor
    · intro holds
      exact ⟨start, Nat.le_refl _, inside, holds⟩
    · rintro ⟨later, after, bound, holds⟩
      have same : later = start := by omega
      rwa [← same]
  | cons c rest ih =>
    obtain ⟨here, after, next⟩ := getElem?_of_drop_cons front
    have others := ih next after
    rw [Place.ofPosition_succ here] at others
    rw [occursFrom, ← Place.ofPosition_of_drop front, Bool.or_eq_true, others]
    constructor
    · rintro (holds | ⟨later, behind, bound, holds⟩)
      · exact ⟨start, Nat.le_refl _, inside, holds⟩
      · exact ⟨later, Nat.le_of_succ_le behind, bound, holds⟩
    · rintro ⟨later, behind, bound, holds⟩
      rcases Nat.eq_or_lt_of_le behind with same | further
      · left
        rwa [same]
      · exact .inr ⟨later, further, bound, holds⟩

/-- A rule is found exactly where it occurs, whatever surrounds the occurrence. -/
theorem Rule.occursIn_iff (rule : Rule) (text : List Char) :
    rule.occursIn text = true ↔ rule.Occurs text := by
  have search := rule.occursFrom_iff (Nat.zero_le text.length)
  have place : (Place.ofPosition text 0).previous = none := rfl
  rw [place, List.drop_zero] at search
  rw [occursIn, search]
  constructor
  · rintro ⟨start, _, inside, holds⟩
    obtain ⟨finish, denotes, counts⟩ := (rule.pattern.matchThen_iff inside).mp holds
    exact ⟨start, finish, denotes.bounds.1, denotes.bounds.2, denotes,
      (rule.counts_iff finish).mp counts⟩
  · rintro ⟨start, finish, forward, inside, denotes, unexempt⟩
    have begins := Nat.le_trans forward inside
    refine ⟨start, Nat.zero_le _, begins, (rule.pattern.matchThen_iff begins).mpr ?_⟩
    exact ⟨finish, denotes, (rule.counts_iff finish).mpr unexempt⟩

theorem Rule.isMatch_iff_occurs (rule : Rule) (text : String) :
    rule.isMatch text = true ↔ rule.Occurs text.toList :=
  rule.occursIn_iff text.toList

/-- Without an exemption every occurrence of the pattern counts. -/
theorem Rule.occurs_iff_of_unexempted {rule : Rule} (unexempted : rule.unlessFollowedBy = none)
    (text : List Char) :
    rule.Occurs text ↔ ∃ start finish, start ≤ finish ∧ finish ≤ text.length ∧
      rule.pattern.Denotes text start finish := by
  simp [Occurs, unexempted]

/-- A text is approved exactly when no rule occurs in it. -/
theorem Decision.scanWith_eq_approve_iff (rules : List Rule) (text : String) :
    scanWith rules text = .approve ↔ ∀ rule ∈ rules, ¬ rule.Occurs text.toList := by
  have none : scanWith rules text = .approve ↔ matchedLabels rules text = [] := by
    unfold scanWith
    cases matchedLabels rules text <;> simp [ofMatched]
  rw [none, matchedLabels, List.map_eq_nil_iff, List.filter_eq_nil_iff]
  simp only [Rule.occursIn_iff]

/-- Some rule of the catalogue occurs in the text. -/
def Offends (text : String) : Prop := ∃ rule ∈ Catalogue.rules, rule.Occurs text.toList

theorem Decision.exists_scan_eq_reject_iff {text : String} :
    (∃ report, Decision.scan text = .reject report) ↔ Offends text := by
  have approved := Decision.scanWith_eq_approve_iff Catalogue.rules text
  unfold Decision.scan Offends
  cases decision : Decision.scanWith Catalogue.rules text with
  | approve =>
    have clean := approved.mp decision
    simp only [reduceCtorEq, exists_false, false_iff, not_exists, not_and]
    exact clean
  | reject report =>
    have dirty : ¬ ∀ rule ∈ Catalogue.rules, ¬ rule.Occurs text.toList := by
      rw [← approved, decision]
      simp
    simpa using dirty

/-- The catalogue means what its patterns denote, and scanning approves where nothing of it occurs.
Folding adds the long s and the kelvin sign to the ASCII letters; the dotted and the dotless i stay
apart. -/
theorem catalogue_isMatch_iff_denotes (text : String) :
    (∀ rule ∈ Catalogue.rules, rule.unlessFollowedBy = none →
      (rule.isMatch text = true ↔ ∃ start finish, start ≤ finish ∧ finish ≤ text.toList.length ∧
        rule.pattern.Denotes text.toList start finish)) ∧
    (∀ rule ∈ Catalogue.rules, rule.isMatch text = true ↔ rule.Occurs text.toList) ∧
    (Decision.scan text = .approve ↔ ∀ rule ∈ Catalogue.rules, ¬ rule.Occurs text.toList) ∧
    (Catalogue.rules.filter fun rule => rule.unlessFollowedBy.isNone).length = 32 ∧
    SameCase '\u017f' 's' ∧ SameCase '\u212a' 'k' ∧
    (∀ c, SameCase '\u0130' c → c = '\u0130') ∧ (∀ c, SameCase '\u0131' c → c = '\u0131') := by
  refine ⟨?_, ?_, Decision.scanWith_eq_approve_iff Catalogue.rules text, by decide +kernel, ?_, ?_,
    ?_, ?_⟩
  · intro rule _ unexempted
    rw [Rule.isMatch, rule.occursIn_iff, rule.occurs_iff_of_unexempted unexempted]
  · intro rule _
    rw [Rule.isMatch, rule.occursIn_iff]
  · exact sameLetter_iff.mp (by decide +kernel)
  · exact sameLetter_iff.mp (by decide +kernel)
  · intro c same
    exact same.eq_of_not_ascii (by decide) (by decide) (by decide)
  · intro c same
    exact same.eq_of_not_ascii (by decide) (by decide) (by decide)

/-- Two runs of white space, one of them wide, and a word with a long s stand between the fixed
words; the first promise is not followed by the word that completes it. -/
theorem promise_in_mixed_case_is_denoted :
    Catalogue.weCanLater ∈ Catalogue.rules ∧ Catalogue.weCanLater.unlessFollowedBy = none ∧
      ∃ start finish, start ≤ finish ∧
        finish ≤ "We can do it now, or WE CAN \u2003 \u017fcan\nLATER.".toList.length ∧
        Catalogue.weCanLater.pattern.Denotes
          "We can do it now, or WE CAN \u2003 \u017fcan\nLATER.".toList start finish := by
  have member : Catalogue.weCanLater ∈ Catalogue.rules := by
    simp [Catalogue.rules, Catalogue.promises]
  have found : Catalogue.weCanLater.isMatch
      "We can do it now, or WE CAN \u2003 \u017fcan\nLATER." = true := by decide +kernel
  exact ⟨member, rfl, ((catalogue_isMatch_iff_denotes _).1 _ member rfl).mp found⟩

end ResponseGate
