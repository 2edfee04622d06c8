import ResponseGate.Proofs.CatalogueMatching
import ResponseGate.Proofs.PatternContext
import ResponseGate.Proofs.TurnSelection

/-!
Rules in a larger text. A rule that occurs in a part of a text occurs in the whole, unless a word
runs on across an end of the part or something follows that could excuse the occurrence. The blocks
of a turn end with line breaks, so that no block hides what others say.
-/

namespace ResponseGate

open Text

variable {rule : Rule} {front text back : List Char}

theorem Rule.Occurs.in_whole (first : Parted front text) (last : Parted text back)
    (unexcused : rule.unlessFollowedBy = none ∨ back = []) (occurs : rule.Occurs text) :
    rule.Occurs (front ++ (text ++ back)) := by
  obtain ⟨start, finish, forward, inside, denotes, counts⟩ := occurs
  have whole := denotes.in_whole first last
  refine ⟨front.length + start, front.length + finish, whole.bounds.1, whole.bounds.2, whole, ?_⟩
  intro exemption exempts
  rcases unexcused with none | rfl
  · rw [none] at exempts
    cases exempts
  · -- Nothing stands behind the part, so the same characters follow the occurrence in both texts.
    rw [List.append_nil, ← List.drop_drop, List.drop_left]
    exact counts exemption exempts

/-! ### Blocks -/

theorem joinTexts_append (first second : List String) :
    joinTexts (first ++ second) = joinTexts first ++ joinTexts second := by
  induction first with
  | nil => simp [joinTexts]
  | cons text first ih =>
    simp only [joinTexts, List.map_append] at ih
    simp only [joinTexts, List.cons_append, List.map_cons, List.map_append, String.join_cons, ih,
      String.append_assoc]

theorem getLast?_joinTexts {texts : List String} (filled : texts ≠ []) :
    (joinTexts texts).toList.getLast? = some '\n' := by
  obtain ⟨others, last, rfl⟩ := List.eq_nil_or_concat texts |>.resolve_left filled
  simp [joinTexts, String.join_cons]

/-- A word does not run on from a block into the next. -/
theorem parted_joinTexts (texts : List String) (behind : List Char) :
    Parted (joinTexts texts).toList behind := by
  intro c last _ _
  left
  cases texts with
  | nil => simp [joinTexts] at last
  | cons text others =>
    rw [getLast?_joinTexts (List.cons_ne_nil _ _), Option.mem_some_iff] at last
    rw [← last]
    decide

/-- What a rule finds in some of the texts of a turn that follow each other, it finds in the
turn. -/
theorem Rule.isMatch_of_block {texts run : List String} (part : run <:+: texts)
    (unexempted : rule.unlessFollowedBy = none) (found : rule.isMatch (joinTexts run) = true) :
    rule.isMatch (joinTexts texts) = true := by
  obtain ⟨before, behind, rfl⟩ := part
  rw [isMatch_iff_occurs] at found ⊢
  rw [List.append_assoc, joinTexts_append, joinTexts_append, String.toList_append,
    String.toList_append]
  exact found.in_whole (parted_joinTexts _ _) (parted_joinTexts _ _) (.inl unexempted)

/-- Nothing that is set before or behind a text hides what the rules find in it, as long as no word
runs across. The one phrase that can be excused is left out where something follows. So a turn is
rejected for what any of its texts say that follow each other. -/
theorem surroundings_hide_nothing :
    (∀ before text behind : String, Parted before.toList text.toList →
      Parted text.toList behind.toList → ∀ rule ∈ Catalogue.rules,
        rule.unlessFollowedBy = none ∨ behind = "" → rule.isMatch text = true →
          rule.isMatch (before ++ text ++ behind) = true) ∧
    (∀ (record : Record) (run : List String), run <:+: record.texts → ∀ rule ∈ Catalogue.rules,
      rule.unlessFollowedBy = none → rule.isMatch (joinTexts run) = true →
        rule.isMatch record.text = true ∧ ∃ report, Decision.scan record.text = .reject report) ∧
    (Catalogue.rules.filter fun rule => rule.unlessFollowedBy.isNone).length = 32 ∧
    (Catalogue.rules.filter fun rule => rule.unlessFollowedBy.isSome) = [Catalogue.forNow] := by
  refine ⟨?_, ?_, by decide +kernel, rfl⟩
  · intro before text behind first last rule _ unexcused found
    rw [Rule.isMatch_iff_occurs] at found ⊢
    rw [String.append_assoc, String.toList_append, String.toList_append]
    have nothing : behind = "" → behind.toList = [] := by
      rintro rfl
      rfl
    exact found.in_whole first last (unexcused.imp_right nothing)
  · intro record run part rule member unexempted found
    have matched : rule.isMatch record.text = true := by
      rw [record.text_eq_joinTexts]
      exact Rule.isMatch_of_block part unexempted found
    have occurs := (rule.isMatch_iff_occurs record.text).mp matched
    exact ⟨matched, Decision.exists_scan_eq_reject_iff.mpr ⟨rule, member, occurs⟩⟩

/-- A promise is found between two remarks and between two other blocks. -/
theorem promise_is_found_between_others :
    let promise := "We can tune later"
    let turn : Record := ⟨some "assistant", [.text "Done", .text promise, .other, .text "I wait"]⟩
    Parted "Done.".toList promise.toList ∧ Parted promise.toList "!".toList ∧
      Catalogue.weCanLater.isMatch promise = true ∧
      Catalogue.weCanLater.isMatch ("Done." ++ promise ++ "!") = true ∧
      [promise] <:+: turn.texts ∧ ∃ report, Decision.scan turn.text = .reject report := by
  intro promise turn
  have member : Catalogue.weCanLater ∈ Catalogue.rules := by
    simp [Catalogue.rules, Catalogue.promises]
  have first : Parted "Done.".toList promise.toList := by
    rintro c last _ _
    obtain rfl : '.' = c := by simpa using last
    exact .inl (by decide)
  have last : Parted promise.toList "!".toList := by
    rintro _ _ d head
    obtain rfl : '!' = d := by simpa using head
    exact .inr (by decide)
  have found : Catalogue.weCanLater.isMatch promise = true := by decide +kernel
  have part : [promise] <:+: turn.texts := ⟨["Done"], ["I wait"], rfl⟩
  have alone : Catalogue.weCanLater.isMatch (joinTexts [promise]) = true := by decide +kernel
  obtain ⟨between, blocks, _⟩ := surroundings_hide_nothing
  exact ⟨first, last, found, between _ _ _ first last _ member (.inl rfl) found, part,
    (blocks turn _ part _ member rfl alone).2⟩

end ResponseGate
