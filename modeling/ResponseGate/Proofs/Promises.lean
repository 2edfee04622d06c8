import ResponseGate.Proofs.CatalogueMatching
import ResponseGate.Proofs.PatternForms

/-!
Promises for later, read in one pass. White space is no part of a word, so behind the words that
begin a promise each gap and each word has to be taken whole, and where one of them ends is never a
choice.
-/

namespace ResponseGate

open Text

variable {text phrase letters found : List Char} {kind : CharKind}
  {start middle behind finish index words more : Nat}

/-! ### Runs -/

/-- A character of the kind stands at the index. -/
def CharKind.At (kind : CharKind) (text : List Char) (index : Nat) : Prop :=
  ∃ c, text[index]? = some c ∧ kind.admits c = true

/-- Where the longest run of characters of the kind from a position on ends. There is none where no
such character stands. -/
def CharKind.runEnd? (kind : CharKind) (text : List Char) (start : Nat) : Option Nat :=
  let run := (text.drop start).takeWhile kind.admits
  if run.isEmpty then none else some (start + run.length)

/-- Where so many words end, each of them behind white space. Any other character ends the words. -/
def wordsEnd? (text : List Char) : Nat → Nat → Option Nat
  | 0, start => some start
  | words + 1, start => do
    let middle ← CharKind.blank.runEnd? text start
    let behind ← CharKind.word.runEnd? text middle
    wordsEnd? text words behind

theorem not_wordAt_of_blankAt (blank : CharKind.blank.At text index) : ¬ WordAt text index := by
  intro ⟨d, there, word⟩
  obtain ⟨c, here, blank⟩ := blank
  obtain rfl := Option.some.inj (here.symm.trans there)
  rw [isWord_of_isBlank blank] at word
  cases word

namespace Pattern

theorem denotes_oneOrMore_iff : (oneOrMore kind).Denotes text start finish ↔
    ∃ run, Spans text start run finish ∧ run ≠ [] ∧ ∀ c ∈ run, kind.admits c = true := by
  rw [oneOrMore, denotes_append_iff]
  constructor
  · intro ⟨middle, first, others⟩
    cases first with
    | one here admits =>
      obtain ⟨run, spans, all⟩ := denotes_many_iff.mp others
      exact ⟨_ :: run, Spans.cons_iff.mpr ⟨here, spans⟩, List.cons_ne_nil _ _,
        List.forall_mem_cons.mpr ⟨admits, all⟩⟩
  · intro ⟨run, spans, filled, all⟩
    obtain ⟨c, others, rfl⟩ := List.exists_cons_of_ne_nil filled
    obtain ⟨here, rest⟩ := Spans.cons_iff.mp spans
    obtain ⟨admits, restAll⟩ := List.forall_mem_cons.mp all
    exact ⟨start + 1, .one here admits, denotes_many_iff.mpr ⟨others, rest, restAll⟩⟩

theorem at_of_oneOrMore (denotes : (oneOrMore kind).Denotes text start finish) :
    kind.At text start := by
  obtain ⟨middle, first, _⟩ := denotes_append_iff.mp denotes
  cases first with
  | one here admits => exact ⟨_, here, admits⟩

end Pattern

theorem Spans.of_drop {rest : List Char} (front : text.drop start = found ++ rest)
    (inside : start ≤ text.length) :
    Spans text start found (start + found.length) ∧ text.drop (start + found.length) = rest := by
  have behind : text.drop (start + found.length) = rest := by
    rw [← List.drop_drop, front, List.drop_left]
  have lengths := congrArg List.length front
  rw [List.length_drop, List.length_append] at lengths
  exact ⟨⟨by rw [behind, front], rfl, by omega⟩, behind⟩

/-- The longest run is the one that no character of its kind follows. -/
theorem CharKind.runEnd?_eq_some_iff : kind.runEnd? text start = some finish ↔
    (Pattern.oneOrMore kind).Denotes text start finish ∧ ¬ kind.At text finish := by
  rw [Pattern.denotes_oneOrMore_iff, runEnd?]
  constructor
  · intro ends
    split at ends
    · cases ends
    · rename_i filled
      obtain rfl := Option.some.inj ends
      have inside : start ≤ text.length := by
        by_contra outside
        rw [List.drop_of_length_le (Nat.le_of_not_le outside)] at filled
        exact filled rfl
      obtain ⟨spans, behind⟩ := Spans.of_drop List.takeWhile_append_dropWhile.symm inside
      refine ⟨⟨_, spans, by simpa using filled, ?_⟩, ?_⟩
      · intro c member
        exact List.all_eq_true.mp List.all_takeWhile c member
      · intro ⟨c, here, admits⟩
        have stop := List.head?_dropWhile_not kind.admits (text.drop start)
        rw [← behind, List.head?_drop, here] at stop
        simp [admits] at stop
  · intro ⟨⟨run, spans, filled, all⟩, stops⟩
    have rest : (text.drop finish).takeWhile kind.admits = [] := by
      cases front : text.drop finish with
      | nil => rfl
      | cons c others =>
        apply List.takeWhile_cons_of_neg
        intro admits
        exact stops ⟨c, (getElem?_of_drop_cons front).1, admits⟩
    have taken : (text.drop start).takeWhile kind.admits = run := by
      rw [spans.here, List.takeWhile_append_of_pos all, rest, List.append_nil]
    simp [taken, filled, spans.length]

theorem wordsEnd?_succ : wordsEnd? text (words + 1) start = some finish ↔
    ∃ behind, wordsEnd? text 1 start = some behind ∧ wordsEnd? text words behind = some finish := by
  simp only [wordsEnd?, Option.bind_eq_bind, Option.bind_eq_some_iff, Option.some.injEq,
    exists_eq_right]
  constructor
  · intro ⟨middle, gap, behind, word, others⟩
    exact ⟨behind, ⟨middle, gap, word⟩, others⟩
  · intro ⟨behind, ⟨middle, gap, word⟩, others⟩
    exact ⟨middle, gap, behind, word, others⟩

/-- A word that is over is taken whole, and so is the white space before it. -/
theorem wordsEnd?_one_iff (ended : ¬ WordAt text finish) : wordsEnd? text 1 start = some finish ↔
    ∃ middle, Pattern.gap.Denotes text start middle ∧
      (Pattern.oneOrMore .word).Denotes text middle finish := by
  simp only [wordsEnd?, Option.bind_eq_bind, Option.bind_eq_some_iff, Option.some.injEq,
    exists_eq_right, CharKind.runEnd?_eq_some_iff]
  constructor
  · intro ⟨middle, ⟨gap, _⟩, word, _⟩
    exact ⟨middle, gap, word⟩
  · intro ⟨middle, gap, word⟩
    refine ⟨middle, ⟨gap, ?_⟩, word, ended⟩
    intro blank
    exact not_wordAt_of_blankAt blank (Pattern.at_of_oneOrMore word)

/-! ### Phrases at the ends of a promise -/

/-- The phrase stands at the position and is no end of a longer word. -/
structure Opens (phrase text : List Char) (start : Nat) : Prop where
  letters : StandsAt phrase text start
  before : ¬ (0 < start ∧ WordAt text (start - 1))

/-- The phrase stands at the position and is no beginning of a longer word. -/
structure Closes (phrase text : List Char) (start : Nat) : Prop where
  letters : StandsAt phrase text start
  behind : ¬ WordAt text (start + phrase.length)

theorem forall₂_sameCase_iff :
    List.Forall₂ SameCase found letters ↔ found.map fold = letters.map fold := by
  have folds : SameCase = fun c d => fold c = fold d := by
    funext c d
    rw [← sameLetter_iff, sameLetter, beq_iff_eq]
  rw [← List.forall₂_eq_eq_eq, List.forall₂_map_left_iff, List.forall₂_map_right_iff, folds]

theorem StandsAt.wordAt (plain : PlainLetters phrase) (stands : StandsAt phrase text start)
    (letter : (phrase.map isWord)[index]? = some true) : WordAt text (start + index) := by
  have within := (List.getElem?_eq_some_iff.mp letter).1
  have filled : phrase ≠ [] := by
    intro none
    simp [none] at within
  obtain ⟨found, spans, lower⟩ := (exists_spans_iff_standsAt filled).mpr ⟨stands, rfl⟩
  have words := Pattern.map_isWord_of_sameCase (plain.forall₂_sameCase_iff.mpr lower)
  have inside : index < found.length := by
    rw [← List.length_map isWord, words]
    exact within
  apply (spans.wordAt_iff inside).mpr
  rw [words, letter]

theorem opens_iff (plain : PlainLetters phrase) (begins : (phrase.map isWord)[0]? = some true) :
    Opens phrase text start ↔ EdgeAt text start ∧ StandsAt phrase text start := by
  constructor
  · intro opens
    have word := opens.letters.wordAt plain begins
    exact ⟨(edgeAt_iff_of_word_behind word).mpr opens.before, opens.letters⟩
  · intro ⟨between, stands⟩
    have word := stands.wordAt plain begins
    exact ⟨stands, (edgeAt_iff_of_word_behind word).mp between⟩

theorem closes_iff (plain : PlainLetters phrase)
    (ends : (phrase.map isWord)[phrase.length - 1]? = some true) :
    Closes phrase text start ↔
      StandsAt phrase text start ∧ EdgeAt text (start + phrase.length) := by
  have filled : 0 < phrase.length := by
    have within := (List.getElem?_eq_some_iff.mp ends).1
    rw [List.length_map] at within
    omega
  have edge (stands : StandsAt phrase text start) :
      EdgeAt text (start + phrase.length) ↔ ¬ WordAt text (start + phrase.length) := by
    have word := stands.wordAt plain ends
    apply edgeAt_iff_of_word_before (by omega)
    rwa [Nat.add_sub_assoc filled]
  constructor
  · intro closes
    exact ⟨closes.letters, (edge closes.letters).mpr closes.behind⟩
  · intro ⟨stands, between⟩
    exact ⟨stands, (edge stands).mp between⟩

namespace Pattern

variable {left right : Pattern} {first second : List Char}

theorem denotes_either_iff : (either left right).Denotes text start finish ↔
    left.Denotes text start finish ∨ right.Denotes text start finish := by
  constructor
  · intro denotes
    cases denotes with
    | left chosen => exact .inl chosen
    | right chosen => exact .inr chosen
  · intro chosen
    rcases chosen with chosen | chosen
    · exact .left chosen
    · exact .right chosen

theorem denotes_literal_append_iff : (literal first ++ literal second).Denotes text start finish ↔
    (literal (first ++ second)).Denotes text start finish := by
  rw [denotes_append_iff]
  induction first generalizing start with
  | nil =>
    constructor
    · intro ⟨middle, nothing, others⟩
      cases nothing
      exact others
    · intro others
      exact ⟨start, .noLetters (Nat.le_trans others.bounds.1 others.bounds.2), others⟩
  | cons letter first ih =>
    constructor
    · intro ⟨middle, begun, others⟩
      cases begun with
      | letter here same rest => exact .letter here same (ih.mp ⟨middle, rest, others⟩)
    · intro denotes
      cases denotes with
      | letter here same rest =>
        obtain ⟨middle, begun, others⟩ := ih.mpr rest
        exact ⟨middle, .letter here same begun, others⟩

/-- Letters in any case are told by their small forms. -/
theorem denotes_literal_iff_standsAt (plain : PlainLetters phrase) (filled : phrase ≠ [])
    (same : letters.map fold = phrase.map fold) :
    (literal letters).Denotes text start finish ↔
      StandsAt phrase text start ∧ finish = start + phrase.length := by
  simp only [denotes_literal_iff, ← exists_spans_iff_standsAt filled, ← plain.forall₂_sameCase_iff,
    forall₂_sameCase_iff, same]

end Pattern

/-! ### Words and then "later" -/

/-- Behind the position stand so many words and then "later", each behind white space. -/
def LaterBehind (text : List Char) (words start : Nat) : Prop :=
  ∃ behind later, wordsEnd? text words start = some behind ∧
    CharKind.blank.runEnd? text behind = some later ∧ Closes "later".toList text later

theorem LaterBehind.apart (promised : LaterBehind text words start) : ¬ WordAt text start := by
  have blank {reached : Nat} (gap : CharKind.blank.runEnd? text start = some reached) :
      CharKind.blank.At text start :=
    Pattern.at_of_oneOrMore (CharKind.runEnd?_eq_some_iff.mp gap).1
  obtain ⟨behind, later, before, gap, _⟩ := promised
  cases words with
  | zero =>
    obtain rfl := Option.some.inj before
    exact not_wordAt_of_blankAt (blank gap)
  | succ words =>
    obtain ⟨middle, first, _⟩ := Option.bind_eq_some_iff.mp before
    exact not_wordAt_of_blankAt (blank first)

/-- Where a gap and a word may end is not a choice when another gap has to follow. -/
theorem laterBehind_succ_iff : LaterBehind text (words + 1) start ↔
    ∃ middle behind, Pattern.gap.Denotes text start middle ∧
      (Pattern.oneOrMore .word).Denotes text middle behind ∧ LaterBehind text words behind := by
  constructor
  · intro ⟨finish, later, before, gap, closes⟩
    obtain ⟨behind, first, others⟩ := wordsEnd?_succ.mp before
    have promised : LaterBehind text words behind := ⟨finish, later, others, gap, closes⟩
    obtain ⟨middle, spaced, word⟩ := (wordsEnd?_one_iff promised.apart).mp first
    exact ⟨middle, behind, spaced, word, promised⟩
  · intro ⟨middle, behind, spaced, word, promised⟩
    have first := (wordsEnd?_one_iff promised.apart).mpr ⟨middle, spaced, word⟩
    obtain ⟨finish, later, others, gap, closes⟩ := promised
    exact ⟨finish, later, wordsEnd?_succ.mpr ⟨behind, first, others⟩, gap, closes⟩

theorem later_plain : PlainLetters "later".toList := by decide

theorem laterBehind_zero_iff : LaterBehind text 0 start ↔
    ∃ later finish, Pattern.gap.Denotes text start later ∧
      (Pattern.phrase "later").Denotes text later finish ∧ EdgeAt text finish := by
  have word {later finish : Nat} : (Pattern.phrase "later").Denotes text later finish ↔
      StandsAt "later".toList text later ∧ finish = later + "later".toList.length :=
    Pattern.denotes_literal_iff_standsAt later_plain (by decide) rfl
  have closes {later : Nat} : Closes "later".toList text later ↔
      StandsAt "later".toList text later ∧ EdgeAt text (later + "later".toList.length) :=
    closes_iff later_plain (by decide)
  constructor
  · intro ⟨behind, later, same, gap, closing⟩
    obtain rfl := Option.some.inj same
    obtain ⟨stands, between⟩ := closes.mp closing
    exact ⟨later, _, (CharKind.runEnd?_eq_some_iff.mp gap).1, word.mpr ⟨stands, rfl⟩, between⟩
  · intro ⟨later, finish, gap, written, between⟩
    obtain ⟨stands, rfl⟩ := word.mp written
    refine ⟨start, later, rfl, CharKind.runEnd?_eq_some_iff.mpr ⟨gap, ?_⟩,
      closes.mpr ⟨stands, between⟩⟩
    intro blank
    have word : WordAt text (later + 0) := stands.wordAt later_plain (by decide)
    exact not_wordAt_of_blankAt blank word

namespace Pattern

variable {opening : Pattern}

theorem exists_whole_later_iff :
    (∃ finish, (whole (opening ++ gap ++ oneOrMore .word ++ gap ++ Pattern.phrase "later")).Denotes
      text start finish) ↔
    EdgeAt text start ∧
      ∃ behind, opening.Denotes text start behind ∧ LaterBehind text 1 behind := by
  simp only [denotes_whole_iff, denotes_append_iff, laterBehind_succ_iff, laterBehind_zero_iff]
  constructor
  · rintro ⟨finish, between,
      ⟨later, ⟨last, ⟨middle, ⟨behind, opened, spaced⟩, word⟩, gap⟩, written⟩, ended⟩
    exact ⟨between, behind, opened, middle, last, spaced, word, later, finish, gap, written, ended⟩
  · rintro ⟨between, behind, opened, middle, last, spaced, word, later, finish, gap, written, ended⟩
    exact ⟨finish, between, ⟨later, ⟨last, ⟨middle, ⟨behind, opened, spaced⟩, word⟩, gap⟩, written⟩,
      ended⟩

/-- A word that may be missing: whether it is there is settled by what stands behind the first
one. -/
theorem exists_whole_further_later_iff :
    (∃ finish,
      (whole (opening ++ gap ++ oneOrMore .word ++ optional (gap ++ oneOrMore .word) ++ gap ++
      Pattern.phrase "later")).Denotes text start finish) ↔
    EdgeAt text start ∧ ∃ behind words, opening.Denotes text start behind ∧
      (words = 1 ∨ words = 2) ∧ LaterBehind text words behind := by
  simp only [denotes_whole_iff, denotes_append_iff, denotes_optional_iff, Spans.nil_iff]
  constructor
  · rintro ⟨finish, between,
      ⟨later, ⟨last, ⟨first, ⟨middle, ⟨behind, opened, spaced⟩, word⟩, further⟩,
      gap⟩, written⟩, ended⟩
    have closing : LaterBehind text 0 last :=
      laterBehind_zero_iff.mpr ⟨later, finish, gap, written, ended⟩
    rcases further with ⟨second, spacedToo, wordToo⟩ | ⟨_, same⟩
    · have promised : LaterBehind text 1 first :=
        laterBehind_succ_iff.mpr ⟨second, last, spacedToo, wordToo, closing⟩
      exact ⟨between, behind, 2, opened, .inr rfl,
        laterBehind_succ_iff.mpr ⟨middle, first, spaced, word, promised⟩⟩
    · subst same
      exact ⟨between, behind, 1, opened, .inl rfl,
        laterBehind_succ_iff.mpr ⟨middle, last, spaced, word, closing⟩⟩
  · rintro ⟨between, behind, words, opened, count, promised⟩
    rcases count with one | two
    · subst one
      obtain ⟨middle, last, spaced, word, closing⟩ := laterBehind_succ_iff.mp promised
      obtain ⟨later, finish, gap, written, ended⟩ := laterBehind_zero_iff.mp closing
      exact ⟨finish, between, ⟨later, ⟨last, ⟨last, ⟨middle, ⟨behind, opened, spaced⟩, word⟩,
        .inr ⟨word.bounds.2, rfl⟩⟩, gap⟩, written⟩, ended⟩
    · subst two
      obtain ⟨middle, first, spaced, word, others⟩ := laterBehind_succ_iff.mp promised
      obtain ⟨second, last, spacedToo, wordToo, closing⟩ := laterBehind_succ_iff.mp others
      obtain ⟨later, finish, gap, written, ended⟩ := laterBehind_zero_iff.mp closing
      exact ⟨finish, between, ⟨later, ⟨last, ⟨first, ⟨middle, ⟨behind, opened, spaced⟩, word⟩,
        .inl ⟨second, spacedToo, wordToo⟩⟩, gap⟩, written⟩, ended⟩

end Pattern

/-! ### The rules -/

namespace Catalogue

/-- "We can", one word, and "later". -/
def WeCanLaterAt (text : List Char) (start : Nat) : Prop :=
  Opens "we can".toList text start ∧ LaterBehind text 1 (start + 6)

/-- "I'll" or "I will" stands at the position and ends at the other one. -/
def IWillAt (text : List Char) (start behind : Nat) : Prop :=
  (Opens "i'll".toList text start ∧ behind = start + 4) ∨
    (Opens "i will".toList text start ∧ behind = start + 6)

/-- "I'll" or "I will", one word or two, and "later". -/
def IWillLaterAt (text : List Char) (start : Nat) : Prop :=
  ∃ behind words, IWillAt text start behind ∧ (words = 1 ∨ words = 2) ∧
    LaterBehind text words behind

/-- "If needed" at the end of a word, or with "in the future" right behind it. -/
def IfNeededAt (text : List Char) (start : Nat) : Prop :=
  Opens "if needed".toList text start ∧
    (¬ WordAt text (start + 9) ∨ Closes "in the future".toList text (start + 9))

theorem exists_weCanLater_iff :
    (∃ finish, weCanLater.pattern.Denotes text start finish) ↔ WeCanLaterAt text start := by
  have plain : PlainLetters "we can".toList := by decide
  have written (behind : Nat) : (Pattern.phrase "we can").Denotes text start behind ↔
      StandsAt "we can".toList text start ∧ behind = start + 6 :=
    Pattern.denotes_literal_iff_standsAt plain (by decide) rfl
  rw [WeCanLaterAt, opens_iff plain (by decide)]
  apply Pattern.exists_whole_later_iff.trans
  simp only [written]
  constructor
  · intro ⟨between, behind, ⟨stands, length⟩, promised⟩
    exact ⟨⟨between, stands⟩, length ▸ promised⟩
  · intro ⟨⟨between, stands⟩, promised⟩
    exact ⟨between, start + 6, ⟨stands, rfl⟩, promised⟩

theorem denotes_iWill_iff :
    (Pattern.phrase "I" ++ Pattern.oneOf "'ll" [" will"]).Denotes text start behind ↔
      (StandsAt "i'll".toList text start ∧ behind = start + 4) ∨
        (StandsAt "i will".toList text start ∧ behind = start + 6) := by
  have short : (Pattern.phrase "I" ++ Pattern.phrase "'ll").Denotes text start behind ↔
      StandsAt "i'll".toList text start ∧ behind = start + 4 :=
    Pattern.denotes_literal_append_iff.trans
      (Pattern.denotes_literal_iff_standsAt (by decide) (by decide) (by decide))
  have long : (Pattern.phrase "I" ++ Pattern.phrase " will").Denotes text start behind ↔
      StandsAt "i will".toList text start ∧ behind = start + 6 :=
    Pattern.denotes_literal_append_iff.trans
      (Pattern.denotes_literal_iff_standsAt (by decide) (by decide) (by decide))
  rw [← short, ← long]
  simp only [Pattern.oneOf, Pattern.denotes_append_iff, Pattern.denotes_either_iff, and_or_left,
    exists_or]

theorem exists_iWillLater_iff :
    (∃ finish, iWillLater.pattern.Denotes text start finish) ↔ IWillLaterAt text start := by
  have short : Opens "i'll".toList text start ↔
      EdgeAt text start ∧ StandsAt "i'll".toList text start := opens_iff (by decide) (by decide)
  have long : Opens "i will".toList text start ↔
      EdgeAt text start ∧ StandsAt "i will".toList text start := opens_iff (by decide) (by decide)
  apply Pattern.exists_whole_further_later_iff.trans
  simp only [IWillLaterAt, IWillAt, denotes_iWill_iff, short, long, and_assoc, ← and_or_left]
  constructor
  · intro ⟨between, behind, words, opened, others⟩
    exact ⟨behind, words, between, opened, others⟩
  · intro ⟨behind, words, between, opened, others⟩
    exact ⟨between, behind, words, opened, others⟩

theorem exists_ifNeeded_iff :
    (∃ finish, ifNeeded.pattern.Denotes text start finish) ↔ IfNeededAt text start := by
  have plain : PlainLetters "if needed".toList := by decide
  have plainToo : PlainLetters "in the future".toList := by decide
  have written (start behind : Nat) : (Pattern.phrase "if needed").Denotes text start behind ↔
      StandsAt "if needed".toList text start ∧ behind = start + 9 :=
    Pattern.denotes_literal_iff_standsAt plain (by decide) rfl
  have future (start behind : Nat) : (Pattern.phrase "in the future").Denotes text start behind ↔
      StandsAt "in the future".toList text start ∧ behind = start + 13 :=
    Pattern.denotes_literal_iff_standsAt plainToo (by decide) rfl
  have closes (start : Nat) : Closes "in the future".toList text start ↔
      StandsAt "in the future".toList text start ∧
        EdgeAt text (start + "in the future".toList.length) := closes_iff plainToo (by decide)
  -- The edge behind the phrase itself.
  have single (stands : StandsAt "if needed".toList text start) :
      EdgeAt text (start + 9) ↔ ¬ WordAt text (start + 9) := by
    have word : WordAt text (start + 8) := stands.wordAt plain (by decide)
    exact edgeAt_iff_of_word_before (by omega) word
  rw [IfNeededAt, opens_iff plain (by decide)]
  simp only [ifNeeded, deferral, Pattern.denotes_whole_iff, Pattern.denotes_append_iff,
    Pattern.denotes_optional_iff, Spans.nil_iff, written, future, closes]
  constructor
  · rintro ⟨finish, between, ⟨last, ⟨behind, ⟨stands, length⟩, gap⟩, further⟩, ended⟩
    subst length
    refine ⟨⟨between, stands⟩, ?_⟩
    cases gap with
    | noMore =>
      rcases further with ⟨standsToo, length⟩ | ⟨_, same⟩
      · subst length
        exact .inr ⟨standsToo, ended⟩
      · subst same
        exact .inl ((single stands).mp ended)
    | more here blank => exact .inl (not_wordAt_of_blankAt ⟨_, here, blank⟩)
  · rintro ⟨⟨between, stands⟩, choice⟩
    have inside := ((written start (start + 9)).mpr ⟨stands, rfl⟩).bounds.2
    have none : (Pattern.many .blank).Denotes text (start + 9) (start + 9) := .noMore inside
    rcases choice with apart | ⟨standsToo, ended⟩
    · exact ⟨start + 9, between, ⟨start + 9, ⟨start + 9, ⟨stands, rfl⟩, none⟩, .inr ⟨inside, rfl⟩⟩,
        (single stands).mpr apart⟩
    · exact ⟨start + 9 + 13, between, ⟨start + 9, ⟨start + 9, ⟨stands, rfl⟩, none⟩,
        .inl ⟨standsToo, rfl⟩⟩, ended⟩

end Catalogue

/-- Occurrences of the rule's pattern begin where the promise is made and nowhere else, and the rule
matches the texts that have one. -/
structure Rule.FoundWhere (rule : Rule) (text : String) (made : List Char → Nat → Prop) : Prop where
  begins : ∀ start,
    (∃ finish, rule.pattern.Denotes text.toList start finish) ↔ made text.toList start
  matched : rule.isMatch text = true ↔ ∃ start, made text.toList start

theorem Rule.foundWhere_of_begins {rule : Rule} {made : List Char → Nat → Prop}
    (unexempted : rule.unlessFollowedBy = none)
    (begins : ∀ text start, (∃ finish, rule.pattern.Denotes text start finish) ↔ made text start)
    (text : String) : rule.FoundWhere text made := by
  refine ⟨begins text.toList, ?_⟩
  rw [rule.isMatch_iff_occurs, occurs_iff_of_unexempted unexempted]
  constructor
  · intro ⟨start, finish, _, _, denotes⟩
    exact ⟨start, (begins _ start).mp ⟨finish, denotes⟩⟩
  · intro ⟨start, promised⟩
    obtain ⟨finish, denotes⟩ := (begins _ start).mpr promised
    exact ⟨start, finish, denotes.bounds.1, denotes.bounds.2, denotes⟩

/-- Promises need no backtracking. Behind the words that begin one, its gaps and words are the
longest runs, each of them found where the one before ends: one word behind "we can", one or two
behind "I'll" or "I will". What may follow "if needed" is read where that phrase ends. -/
theorem promises_need_no_backtracking (text : String) :
    Catalogue.weCanLater.FoundWhere text Catalogue.WeCanLaterAt ∧
    Catalogue.iWillLater.FoundWhere text Catalogue.IWillLaterAt ∧
    Catalogue.ifNeeded.FoundWhere text Catalogue.IfNeededAt := by
  refine ⟨?_, ?_, ?_⟩
  · exact Rule.foundWhere_of_begins rfl (fun _ _ => Catalogue.exists_weCanLater_iff) text
  · exact Rule.foundWhere_of_begins rfl (fun _ _ => Catalogue.exists_iWillLater_iff) text
  · exact Rule.foundWhere_of_begins rfl (fun _ _ => Catalogue.exists_ifNeeded_iff) text

/-- "Later" may be one of the words, but neither the only one nor the fourth, and a comma ends
them. -/
example : Catalogue.iWillLater.isMatch "I'll later later" = true ∧
    Catalogue.iWillLater.isMatch "I will later" = false ∧
    Catalogue.iWillLater.isMatch "I will do all that later" = false ∧
    Catalogue.iWillLater.isMatch "I will do it, later" = false := by decide +kernel

end ResponseGate
