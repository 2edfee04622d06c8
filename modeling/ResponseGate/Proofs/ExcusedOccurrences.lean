import ResponseGate.Proofs.CatalogueMatching
import ResponseGate.Proofs.PatternForms

/-!
Occurrences one after another. Where the matches of a pattern keep apart, looking for the leftmost
one from the end of the one before finds them all. So it is with the one phrase of the catalogue
that can be excused: each of its occurrences is judged by what follows it, and none of them hides
another.
-/

namespace ResponseGate

open Text

/-! ### Leftmost matches -/

namespace Pattern

variable {pattern : Pattern} {text : List Char} {position start finish : Nat}
  {occurrences others : List (Nat × Nat)}

/-- Matches one after another, each the leftmost one from where the one before it ended. -/
inductive Successive (pattern : Pattern) (text : List Char) : Nat → List (Nat × Nat) → Prop where
  | done {position : Nat}
      (absent : ∀ start finish, position ≤ start → ¬ pattern.Denotes text start finish) :
      Successive pattern text position []
  | next {position start finish : Nat} {others : List (Nat × Nat)} (behind : position ≤ start)
      (found : pattern.Denotes text start finish)
      (leftmost : ∀ earlier reached, position ≤ earlier → pattern.Denotes text earlier reached →
        start ≤ earlier)
      (rest : Successive pattern text finish others) :
      Successive pattern text position ((start, finish) :: others)

/-- Matches take up characters, end at one place only, and are over before another one begins. -/
structure KeepsApart (pattern : Pattern) (text : List Char) : Prop where
  advances : ∀ {start finish}, pattern.Denotes text start finish → start < finish
  single : ∀ {start finish other}, pattern.Denotes text start finish →
    pattern.Denotes text start other → finish = other
  apart : ∀ {start finish later other}, pattern.Denotes text start finish →
    pattern.Denotes text later other → start < later → finish ≤ later

/-- No match is passed over. -/
theorem Successive.mem_iff (apart : pattern.KeepsApart text)
    (successive : pattern.Successive text position occurrences) :
    (start, finish) ∈ occurrences ↔ position ≤ start ∧ pattern.Denotes text start finish := by
  induction successive with
  | done absent =>
    simp only [List.not_mem_nil, false_iff, not_and]
    exact absent start finish
  | @next position first reached others behind found leftmost _ ih =>
    have forward := apart.advances found
    rw [List.mem_cons, ih, Prod.mk.injEq]
    constructor
    · rintro (⟨rfl, rfl⟩ | ⟨after, denotes⟩)
      · exact ⟨behind, found⟩
      · exact ⟨by omega, denotes⟩
    · rintro ⟨after, denotes⟩
      rcases Nat.eq_or_lt_of_le (leftmost start finish after denotes) with rfl | later
      · exact .inl ⟨rfl, apart.single denotes found⟩
      · exact .inr ⟨apart.apart found denotes later, denotes⟩

theorem Successive.unique (apart : pattern.KeepsApart text)
    (one : pattern.Successive text position occurrences)
    (two : pattern.Successive text position others) : occurrences = others := by
  induction one generalizing others with
  | done absent =>
    cases two with
    | done => rfl
    | next behind found => exact absurd found (absent _ _ behind)
  | next behind found leftmost _ ih =>
    cases two with
    | done absent => exact absurd found (absent _ _ behind)
    | next behindToo foundToo leftmostToo rest =>
      obtain rfl := Nat.le_antisymm (leftmost _ _ behindToo foundToo) (leftmostToo _ _ behind found)
      obtain rfl := apart.single found foundToo
      rw [ih rest]

/-- Where no match begins, the search may as well begin one place further. -/
theorem Successive.earlier (absent : ¬ ∃ finish, pattern.Denotes text position finish)
    (successive : pattern.Successive text (position + 1) occurrences) :
    pattern.Successive text position occurrences := by
  have further {start finish : Nat} (behind : position ≤ start)
      (denotes : pattern.Denotes text start finish) : position + 1 ≤ start := by
    rcases Nat.eq_or_lt_of_le behind with rfl | later
    · exact absurd ⟨finish, denotes⟩ absent
    · exact later
  cases successive with
  | done none =>
    refine .done ?_
    intro start finish behind denotes
    exact none start finish (further behind denotes) denotes
  | next behind found leftmost rest =>
    refine .next (Nat.le_of_succ_le behind) found ?_ rest
    intro earlier reached after denotes
    exact leftmost earlier reached (further after denotes) denotes

theorem exists_successive (apart : pattern.KeepsApart text) (position : Nat) :
    ∃ occurrences, pattern.Successive text position occurrences := by
  -- Every step leaves less of the text, one place or a whole match.
  induction left : text.length + 1 - position using Nat.strongRecOn generalizing position with
  | ind left ih =>
    by_cases here : ∃ finish, pattern.Denotes text position finish
    · obtain ⟨finish, found⟩ := here
      have forward := apart.advances found
      have inside := found.bounds.2
      obtain ⟨others, rest⟩ := ih _ (by omega) finish rfl
      exact ⟨_, .next (Nat.le_refl _) found (fun _ _ after _ => after) rest⟩
    · by_cases inside : position ≤ text.length
      · obtain ⟨occurrences, rest⟩ := ih _ (by omega) (position + 1) rfl
        exact ⟨occurrences, rest.earlier here⟩
      · refine ⟨[], .done ?_⟩
        intro start finish behind denotes
        have bounds := denotes.bounds
        omega

end Pattern

/-! ### The phrase that can be excused -/

variable {text : List Char} {start finish : Nat}

/-- A plan in the first person begins: at most one comma, white space, and the letter. -/
def BeginsPlan (text : List Char) : Prop :=
  ∃ comma blanks initial others, text = comma ++ (blanks ++ initial :: others) ∧
    (comma = [] ∨ comma = [',']) ∧ (∀ c ∈ blanks, isBlank c = true) ∧
      (initial = 'i' ∨ initial = 'I')

theorem sameCase_comma_iff {c : Char} : SameCase c ',' ↔ c = ',' := by
  constructor
  · intro same
    simpa [letterCases, fold] using same.eq_or_mem
  · rintro rfl
    exact .same rfl

theorem sameCase_initial_iff {c : Char} : SameCase c 'I' ↔ c = 'i' ∨ c = 'I' := by
  constructor
  · intro same
    rcases same.eq_or_mem with same | member
    · exact .inr same
    · simpa [letterCases, fold] using member
  · rintro (rfl | rfl)
    · exact sameLetter_iff.mp (by decide)
    · exact .same rfl

namespace Catalogue

theorem exists_firstPersonPlan_iff :
    (∃ reached, firstPersonPlan.Denotes text 0 reached) ↔ BeginsPlan text := by
  have single (letter : Char) {found : List Char} :
      List.Forall₂ SameCase found [letter] ↔ ∃ c, found = [c] ∧ SameCase c letter := by
    cases found <;> simp [and_comm]
  have comma {found : List Char} : List.Forall₂ SameCase found ",".toList ↔ found = [','] := by
    simpa [sameCase_comma_iff] using single ','
  have initial {found : List Char} :
      List.Forall₂ SameCase found "I".toList ↔ ∃ c, found = [c] ∧ (c = 'i' ∨ c = 'I') := by
    simpa [sameCase_initial_iff] using single 'I'
  simp only [firstPersonPlan, Pattern.denotes_append_iff, Pattern.denotes_optional_iff,
    Pattern.denotes_many_iff, Pattern.phrase, Pattern.denotes_literal_iff, comma, initial]
  constructor
  · rintro ⟨reached, _, ⟨behind, chosen, blanks, run, all⟩, _, plan, c, rfl, letter⟩
    have rest : text.drop behind = blanks ++ c :: text.drop reached := by
      rw [run.here, plan.here]
      rfl
    rcases chosen with ⟨_, mark, rfl⟩ | none
    · refine ⟨[','], blanks, c, text.drop reached, ?_, .inr rfl, all, letter⟩
      rw [← rest, ← mark.here, List.drop_zero]
    · refine ⟨[], blanks, c, text.drop reached, ?_, .inl rfl, all, letter⟩
      rw [← rest, ← none.here, List.drop_zero]
  · rintro ⟨comma, blanks, c, others, rfl, chosen, all, letter⟩
    have mark := Spans.of_append [] comma (blanks ++ c :: others)
    have run := Spans.of_append comma blanks (c :: others)
    have plan := Spans.of_append (comma ++ blanks) [c] others
    rw [List.nil_append, List.length_nil, Nat.zero_add] at mark
    rw [List.length_append, List.append_assoc, List.singleton_append] at plan
    refine ⟨_, _, ⟨_, ?_, blanks, run, all⟩, [c], plan, c, rfl, letter⟩
    rcases chosen with rfl | rfl
    · exact .inr mark
    · exact .inl ⟨_, mark, rfl⟩

theorem forNow_denotes_iff : forNow.pattern.Denotes text start finish ↔
    StandsAlone "for now".toList text start ∧ finish = start + 7 := by
  have plain : PlainLetters "for now".toList := by decide
  exact Pattern.denotes_whole_iff_standsAlone plain (by decide) (by decide)

theorem forNow_keepsApart (text : List Char) : forNow.pattern.KeepsApart text where
  advances := by
    intro start finish denotes
    have length := (forNow_denotes_iff.mp denotes).2
    omega
  single := by
    intro start finish other one two
    rw [(forNow_denotes_iff.mp one).2, (forNow_denotes_iff.mp two).2]
  apart := by
    intro start finish later other one two less
    obtain ⟨first, rfl⟩ := forNow_denotes_iff.mp one
    have second := (forNow_denotes_iff.mp two).1
    exact StandsAlone.apart (by decide) first second less

theorem forNow_isMatch_iff (text : String) : forNow.isMatch text = true ↔
    ∃ start finish, forNow.pattern.Denotes text.toList start finish ∧
      ¬ BeginsPlan (text.toList.drop finish) := by
  have excused : forNow.unlessFollowedBy = some firstPersonPlan := rfl
  simp only [Rule.isMatch_iff_occurs, Rule.Occurs, excused, Option.some.injEq, forall_eq',
    exists_firstPersonPlan_iff]
  constructor
  · rintro ⟨start, finish, _, _, denotes, unexcused⟩
    exact ⟨start, finish, denotes, unexcused⟩
  · rintro ⟨start, finish, denotes, unexcused⟩
    exact ⟨start, finish, denotes.bounds.1, denotes.bounds.2, denotes, unexcused⟩

end Catalogue

/-- Where a position of a text lies among its bytes. -/
def byteOffset (text : String) (position : Nat) : String.Pos.Raw :=
  (String.ofList (text.toList.take position)).rawEndPos

/-- At a position the bytes can be cut, and what follows there are the characters behind it. -/
theorem exists_boundary (text : String) (position : Nat) :
    ∃ boundary : text.Pos, boundary.offset = byteOffset text position ∧
      (text.sliceFrom boundary).copy.toList = text.toList.drop position := by
  have whole : text = String.ofList (text.toList.take position) ++
      String.ofList (text.toList.drop position) := by
    rw [← String.ofList_append, List.take_append_drop, String.ofList_toList]
  have valid : (byteOffset text position).IsValid text :=
    String.Pos.Raw.isValid_iff_exists_append.mpr ⟨_, _, whole, rfl⟩
  have splits : String.Pos.Splits ⟨byteOffset text position, valid⟩ _ _ := ⟨whole, rfl⟩
  refine ⟨⟨byteOffset text position, valid⟩, rfl, ?_⟩
  rw [splits.copy_sliceFrom_eq, String.toList_ofList]

/-- The phrase matches where it stands alone and is not excused by what follows. Looking for it
again and again finds exactly the places where it stands alone, and cuts the text between characters
only. -/
theorem unexcused_occurrence_is_never_hidden (text : String) :
    let letters := text.toList
    (Catalogue.forNow.isMatch text = true ↔
      ∃ start, StandsAlone "for now".toList letters start ∧
        ¬ BeginsPlan (letters.drop (start + 7))) ∧
    ∃ occurrences,
      (∀ others, Catalogue.forNow.pattern.Successive letters 0 others ↔ others = occurrences) ∧
      (∀ start finish, (start, finish) ∈ occurrences ↔
        StandsAlone "for now".toList letters start ∧ finish = start + 7) ∧
      (Catalogue.forNow.isMatch text = true ↔
        ∃ occurrence ∈ occurrences, ¬ BeginsPlan (letters.drop occurrence.2)) ∧
      ∀ occurrence ∈ occurrences, ∃ boundary : text.Pos,
        boundary.offset = byteOffset text occurrence.2 ∧
          (text.sliceFrom boundary).copy.toList = letters.drop occurrence.2 := by
  intro letters
  have apart := Catalogue.forNow_keepsApart letters
  obtain ⟨occurrences, successive⟩ := Pattern.exists_successive apart 0
  have members {start finish : Nat} : (start, finish) ∈ occurrences ↔
      Catalogue.forNow.pattern.Denotes letters start finish := by
    simpa using successive.mem_iff apart
  have matched := Catalogue.forNow_isMatch_iff text
  refine ⟨?_, occurrences, ?_, ?_, ?_, ?_⟩
  · simp only [matched, Catalogue.forNow_denotes_iff]
    constructor
    · rintro ⟨start, _, ⟨stands, rfl⟩, unexcused⟩
      exact ⟨start, stands, unexcused⟩
    · rintro ⟨start, stands, unexcused⟩
      exact ⟨start, _, ⟨stands, rfl⟩, unexcused⟩
  · intro others
    constructor
    · intro other
      exact other.unique apart successive
    · rintro rfl
      exact successive
  · intro start finish
    rw [members, Catalogue.forNow_denotes_iff]
  · simp only [Prod.exists, members]
    exact matched
  · intro occurrence _
    exact exists_boundary text occurrence.2

/-- The dotted capital is not the letter that begins a plan, and a second comma is one too many. -/
example : Catalogue.forNow.isMatch "for now, \u0130 wait" = true ∧
    Catalogue.forNow.isMatch "for now,, I wait" = true ∧
    Catalogue.forNow.isMatch "For now,\n\u2003i wait" = false := by decide +kernel

end ResponseGate
