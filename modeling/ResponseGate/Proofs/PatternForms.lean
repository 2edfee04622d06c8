import Mathlib.Data.List.Forall2
import ResponseGate.Proofs.PatternContext

/-!
What the forms of patterns denote, said of the characters that stand between two positions. Letters
denote themselves in any case, a repetition denotes a run of its kind, and a phrase between edges
denotes the places where it is no part of a longer word.
-/

namespace ResponseGate

open Text

variable {text found letters : List Char} {start finish position index : Nat} {c : Char}

/-- The text holds these characters between the two positions. -/
structure Spans (text : List Char) (start : Nat) (found : List Char) (finish : Nat) : Prop where
  here : text.drop start = found ++ text.drop finish
  length : finish = start + found.length
  inside : finish ≤ text.length

namespace Spans

theorem nil_iff : Spans text start [] finish ↔ start ≤ text.length ∧ finish = start := by
  constructor
  · intro spans
    obtain rfl := spans.length
    exact ⟨spans.inside, rfl⟩
  · rintro ⟨inside, rfl⟩
    exact ⟨rfl, rfl, inside⟩

theorem cons_iff :
    Spans text start (c :: found) finish ↔
      text[start]? = some c ∧ Spans text (start + 1) found finish := by
  constructor
  · rintro ⟨here, length, inside⟩
    obtain ⟨first, others, _⟩ := getElem?_of_drop_cons here
    rw [List.length_cons] at length
    exact ⟨first, others, by omega, inside⟩
  · rintro ⟨first, here, length, inside⟩
    obtain ⟨bound, rfl⟩ := List.getElem?_eq_some_iff.mp first
    refine ⟨?_, by rw [List.length_cons]; omega, inside⟩
    rw [List.drop_eq_getElem_cons bound, here, List.cons_append]

theorem of_append (before found after : List Char) :
    Spans (before ++ (found ++ after)) before.length found (before.length + found.length) where
  here := by
    rw [List.drop_left, ← List.append_assoc, ← List.length_append, List.drop_left]
  length := rfl
  inside := by
    simp only [List.length_append]
    omega

theorem take_drop (spans : Spans text start found finish) :
    (text.drop start).take found.length = found := by
  rw [spans.here, List.take_left]

theorem of_take_drop {count : Nat} (taken : (text.drop start).take count = found)
    (full : found.length = count) (inside : start ≤ text.length) :
    Spans text start found (start + count) where
  here := by rw [← taken, ← List.drop_drop, List.take_append_drop]
  length := by rw [full]
  inside := by
    have short := congrArg List.length taken
    rw [List.length_take, List.length_drop] at short
    omega

theorem getElem? (spans : Spans text start found finish) (within : index < found.length) :
    text[start + index]? = found[index]? := by
  rw [← List.getElem?_drop, spans.here, List.getElem?_append_left within]

theorem wordAt_iff (spans : Spans text start found finish) (within : index < found.length) :
    WordAt text (start + index) ↔ (found.map isWord)[index]? = some true := by
  rw [WordAt, spans.getElem? within, List.getElem?_map, Option.map_eq_some_iff]

end Spans

/-! ### Edges -/

theorem edgeAt_iff_of_word_behind (word : WordAt text position) :
    EdgeAt text position ↔ ¬ (0 < position ∧ WordAt text (position - 1)) := by
  simp [EdgeAt, Xor, word]

theorem edgeAt_iff_of_word_before (positive : 0 < position) (word : WordAt text (position - 1)) :
    EdgeAt text position ↔ ¬ WordAt text position := by
  simp [EdgeAt, Xor, positive, word]

/-! ### Forms -/

namespace Pattern

variable {first second pattern : Pattern} {kind : CharKind}

theorem denotes_append_iff : (first ++ second).Denotes text start finish ↔
    ∃ middle, first.Denotes text start middle ∧ second.Denotes text middle finish := by
  constructor
  · intro denotes
    cases denotes with
    | seq left right => exact ⟨_, left, right⟩
  · rintro ⟨middle, left, right⟩
    exact .seq left right

theorem denotes_edge_iff :
    edge.Denotes text start finish ↔ start ≤ text.length ∧ EdgeAt text start ∧ finish = start := by
  constructor
  · intro denotes
    cases denotes with
    | edge inside between => exact ⟨inside, between, rfl⟩
  · rintro ⟨inside, between, rfl⟩
    exact .edge inside between

theorem denotes_whole_iff : (whole pattern).Denotes text start finish ↔
    EdgeAt text start ∧ pattern.Denotes text start finish ∧ EdgeAt text finish := by
  simp only [whole, denotes_append_iff, denotes_edge_iff]
  constructor
  · rintro ⟨_, ⟨_, ⟨_, begun, rfl⟩, denotes⟩, _, ended, rfl⟩
    exact ⟨begun, denotes, ended⟩
  · intro ⟨begun, denotes, ended⟩
    obtain ⟨forward, inside⟩ := denotes.bounds
    exact ⟨finish, ⟨start, ⟨Nat.le_trans forward inside, begun, rfl⟩, denotes⟩, inside, ended, rfl⟩

theorem denotes_optional_iff : (optional pattern).Denotes text start finish ↔
    pattern.Denotes text start finish ∨ Spans text start [] finish := by
  rw [Spans.nil_iff]
  constructor
  · intro denotes
    cases denotes with
    | left chosen => exact .inl chosen
    | right chosen =>
      cases chosen with
      | empty inside => exact .inr ⟨inside, rfl⟩
  · rintro (chosen | ⟨inside, rfl⟩)
    · exact .left chosen
    · exact .right (.empty inside)

theorem denotes_literal_iff : (literal letters).Denotes text start finish ↔
    ∃ found, Spans text start found finish ∧ List.Forall₂ SameCase found letters := by
  induction letters generalizing start with
  | nil =>
    constructor
    · intro denotes
      cases denotes with
      | noLetters inside => exact ⟨[], Spans.nil_iff.mpr ⟨inside, rfl⟩, .nil⟩
    · rintro ⟨found, spans, same⟩
      cases same
      obtain ⟨inside, rfl⟩ := Spans.nil_iff.mp spans
      exact .noLetters inside
  | cons letter letters ih =>
    constructor
    · intro denotes
      cases denotes with
      | letter here same others =>
        obtain ⟨found, spans, alike⟩ := ih.mp others
        exact ⟨_ :: found, Spans.cons_iff.mpr ⟨here, spans⟩, .cons same alike⟩
    · rintro ⟨found, spans, alike⟩
      cases alike with
      | cons same alike =>
        obtain ⟨here, others⟩ := Spans.cons_iff.mp spans
        exact .letter here same (ih.mpr ⟨_, others, alike⟩)

theorem denotes_many_iff : (many kind).Denotes text start finish ↔
    ∃ run, Spans text start run finish ∧ ∀ c ∈ run, kind.admits c = true := by
  constructor
  · intro denotes
    generalize form : many kind = pattern at denotes
    induction denotes with
    | noMore inside => exact ⟨[], Spans.nil_iff.mpr ⟨inside, rfl⟩, by simp⟩
    | more here admits _ ih =>
      cases form
      obtain ⟨run, spans, all⟩ := ih rfl
      exact ⟨_ :: run, Spans.cons_iff.mpr ⟨here, spans⟩, List.forall_mem_cons.mpr ⟨admits, all⟩⟩
    | _ => cases form
  · rintro ⟨run, spans, all⟩
    induction run generalizing start with
    | nil =>
      obtain ⟨inside, rfl⟩ := Spans.nil_iff.mp spans
      exact .noMore inside
    | cons c run ih =>
      obtain ⟨here, others⟩ := Spans.cons_iff.mp spans
      obtain ⟨admits, rest⟩ := List.forall_mem_cons.mp all
      exact .more here admits (ih others rest)

theorem map_isWord_of_sameCase (alike : List.Forall₂ SameCase found letters) :
    found.map isWord = letters.map isWord := by
  induction alike with
  | nil => rfl
  | cons same _ ih => rw [List.map_cons, List.map_cons, same.isWord_eq, ih]

/-- Letters that begin and end a word make their edges speak of what lies outside. -/
theorem denotes_whole_literal_iff (begins : (letters.map isWord).head? = some true)
    (ends : (letters.map isWord).getLast? = some true) :
    (whole (literal letters)).Denotes text start finish ↔
      ∃ found, Spans text start found finish ∧ List.Forall₂ SameCase found letters ∧
        ¬ (0 < start ∧ WordAt text (start - 1)) ∧ ¬ WordAt text finish := by
  have outside {found : List Char} (spans : Spans text start found finish)
      (alike : List.Forall₂ SameCase found letters) :
      (EdgeAt text start ↔ ¬ (0 < start ∧ WordAt text (start - 1))) ∧
        (EdgeAt text finish ↔ ¬ WordAt text finish) := by
    have words := map_isWord_of_sameCase alike
    have filled : 0 < found.length := by
      rw [← List.length_map isWord, words, List.length_pos_iff]
      rintro none
      simp [none] at begins
    have length := spans.length
    rw [← words, List.head?_eq_getElem?] at begins
    rw [← words, List.getLast?_eq_getElem?, List.length_map] at ends
    have last := (spans.wordAt_iff (Nat.sub_one_lt_of_lt filled)).mpr ends
    have before : start + (found.length - 1) = finish - 1 := by omega
    rw [before] at last
    exact ⟨edgeAt_iff_of_word_behind ((spans.wordAt_iff filled).mpr begins),
      edgeAt_iff_of_word_before (by omega) last⟩
  simp only [denotes_whole_iff, denotes_literal_iff]
  constructor
  · intro ⟨begun, ⟨found, spans, alike⟩, ended⟩
    obtain ⟨first, last⟩ := outside spans alike
    exact ⟨found, spans, alike, first.mp begun, last.mp ended⟩
  · intro ⟨found, spans, alike, before, behind⟩
    obtain ⟨first, last⟩ := outside spans alike
    exact ⟨first.mpr before, ⟨found, spans, alike⟩, last.mpr behind⟩

end Pattern

/-! ### Phrases that stand alone -/

variable {phrase others : List Char} {later : Nat} {first : Char}

/-- Small letters and marks that no character outside ASCII folds to. -/
def PlainLetters (phrase : List Char) : Prop :=
  ∀ letter ∈ phrase, fold letter = letter ∧ letter ≠ 's' ∧ letter ≠ 'k'

instance (phrase : List Char) : Decidable (PlainLetters phrase) :=
  List.decidableBAll (fun letter => fold letter = letter ∧ letter ≠ 's' ∧ letter ≠ 'k') phrase

/-- The phrase stands at the position, in any mixture of cases. -/
def StandsAt (phrase text : List Char) (start : Nat) : Prop :=
  ((text.drop start).take phrase.length).map Char.toLower = phrase

/-- The phrase stands at the position, in any mixture of cases, and no word character touches it. -/
structure StandsAlone (phrase text : List Char) (start : Nat) : Prop where
  letters : ((text.drop start).take phrase.length).map Char.toLower = phrase
  before : ¬ (0 < start ∧ WordAt text (start - 1))
  behind : ¬ WordAt text (start + phrase.length)

theorem PlainLetters.forall₂_sameCase_iff (plain : PlainLetters phrase) :
    List.Forall₂ SameCase found phrase ↔ found.map Char.toLower = phrase := by
  induction phrase generalizing found with
  | nil => simp
  | cons letter phrase ih =>
    obtain ⟨⟨own, notS, notK⟩, others⟩ := List.forall_mem_cons.mp plain
    cases found with
    | nil => simp
    | cons c found =>
      rw [List.forall₂_cons, List.map_cons, List.cons_eq_cons,
        sameCase_iff_toLower_eq own notS notK, ih others]

theorem StandsAlone.getElem? (stands : StandsAlone phrase text start)
    (within : index < phrase.length) :
    text[start + index]?.map Char.toLower = phrase[index]? := by
  conv_rhs => rw [← stands.letters]
  rw [List.getElem?_map, List.getElem?_take_of_lt within, List.getElem?_drop]

/-- A phrase whose first letter does not come again cannot begin inside itself. -/
theorem StandsAlone.apart (fresh : first ∉ others) (one : StandsAlone (first :: others) text start)
    (two : StandsAlone (first :: others) text later) (less : start < later) :
    start + (first :: others).length ≤ later := by
  by_contra overlap
  obtain ⟨index, rfl⟩ := Nat.exists_eq_add_of_lt less
  have inside : index + 1 < (first :: others).length := by omega
  have again := one.getElem? inside
  have begins := two.getElem? (Nat.succ_pos others.length)
  rw [Nat.add_zero, List.getElem?_cons_zero] at begins
  rw [← Nat.add_assoc, begins, List.getElem?_cons_succ] at again
  exact fresh (List.mem_of_getElem? again.symm)

theorem exists_spans_iff_standsAt (filled : phrase ≠ []) :
    (∃ found, Spans text start found finish ∧ found.map Char.toLower = phrase) ↔
      StandsAt phrase text start ∧ finish = start + phrase.length := by
  constructor
  · intro ⟨found, spans, letters⟩
    have same : found.length = phrase.length := by rw [← letters, List.length_map]
    refine ⟨?_, by rw [← same]; exact spans.length⟩
    rw [StandsAt, ← same, spans.take_drop, letters]
  · intro ⟨stands, length⟩
    have full : ((text.drop start).take phrase.length).length = phrase.length := by
      rw [← List.length_map Char.toLower, stands]
    have inside : start ≤ text.length := by
      have positive := List.length_pos_iff.mpr filled
      rw [List.length_take, List.length_drop] at full
      omega
    exact ⟨_, length ▸ .of_take_drop rfl full inside, stands⟩

/-- Between edges a phrase denotes the places where it stands alone. -/
theorem Pattern.denotes_whole_iff_standsAlone (plain : PlainLetters phrase)
    (begins : (phrase.map isWord).head? = some true)
    (ends : (phrase.map isWord).getLast? = some true) :
    (whole (literal phrase)).Denotes text start finish ↔
      StandsAlone phrase text start ∧ finish = start + phrase.length := by
  have filled : phrase ≠ [] := by
    intro none
    simp [none] at begins
  rw [denotes_whole_literal_iff begins ends]
  simp only [plain.forall₂_sameCase_iff]
  constructor
  · intro ⟨found, spans, letters, before, behind⟩
    obtain ⟨stands, length⟩ := (exists_spans_iff_standsAt filled).mp ⟨found, spans, letters⟩
    subst length
    exact ⟨⟨stands, before, behind⟩, rfl⟩
  · intro ⟨stands, length⟩
    subst length
    obtain ⟨found, spans, letters⟩ := (exists_spans_iff_standsAt filled).mpr ⟨stands.letters, rfl⟩
    exact ⟨found, spans, letters, stands.before, stands.behind⟩

end ResponseGate
