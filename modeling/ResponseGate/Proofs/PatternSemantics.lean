import Mathlib.Logic.Basic
import ResponseGate.Pattern.Basic
import ResponseGate.Proofs.LetterCases

/-!
What patterns mean. A pattern denotes pairs of positions in a text, said rule by rule and without
a matcher; the matcher, which tries continuations, finds exactly these pairs.
-/

namespace ResponseGate

open Text

/-- Whether the character at an index is a word character. -/
def WordAt (text : List Char) (index : Nat) : Prop :=
  ∃ c, text[index]? = some c ∧ isWord c = true

/-- The pattern stands in the text from the first position to the second. Positions lie between
characters, so there is one more of them than characters. -/
inductive Pattern.Denotes (text : List Char) : Pattern → Nat → Nat → Prop where
  | empty {start : Nat} (inside : start ≤ text.length) : Denotes text .empty start start
  /-- Exactly one of the neighbouring characters is a word character. -/
  | edge {start : Nat} (inside : start ≤ text.length)
      (between : Xor (0 < start ∧ WordAt text (start - 1)) (WordAt text start)) :
      Denotes text .edge start start
  | noLetters {start : Nat} (inside : start ≤ text.length) : Denotes text (.literal []) start start
  | letter {start finish : Nat} {c letter : Char} {letters : List Char}
      (here : text[start]? = some c) (same : SameCase c letter)
      (others : Denotes text (.literal letters) (start + 1) finish) :
      Denotes text (.literal (letter :: letters)) start finish
  | one {kind : CharKind} {start : Nat} {c : Char} (here : text[start]? = some c)
      (admits : kind.admits c = true) : Denotes text (.one kind) start (start + 1)
  | noMore {kind : CharKind} {start : Nat} (inside : start ≤ text.length) :
      Denotes text (.many kind) start start
  | more {kind : CharKind} {start finish : Nat} {c : Char} (here : text[start]? = some c)
      (admits : kind.admits c = true) (others : Denotes text (.many kind) (start + 1) finish) :
      Denotes text (.many kind) start finish
  | seq {first second : Pattern} {start middle finish : Nat}
      (left : Denotes text first start middle)
      (right : Denotes text second middle finish) : Denotes text (.seq first second) start finish
  | left {left right : Pattern} {start finish : Nat} (chosen : Denotes text left start finish) :
      Denotes text (.either left right) start finish
  | right {left right : Pattern} {start finish : Nat} (chosen : Denotes text right start finish) :
      Denotes text (.either left right) start finish

variable {text : List Char} {pattern : Pattern} {start finish : Nat}

/-- What a pattern denotes runs forward and stays in the text. -/
theorem Pattern.Denotes.bounds (denotes : pattern.Denotes text start finish) :
    start ≤ finish ∧ finish ≤ text.length := by
  induction denotes with
  | empty inside => exact ⟨Nat.le_refl _, inside⟩
  | edge inside => exact ⟨Nat.le_refl _, inside⟩
  | noLetters inside => exact ⟨Nat.le_refl _, inside⟩
  | letter _ _ _ ih => exact ⟨Nat.le_of_succ_le ih.1, ih.2⟩
  | one here =>
    have inside := (List.getElem?_eq_some_iff.mp here).1
    exact ⟨Nat.le_succ _, inside⟩
  | noMore inside => exact ⟨Nat.le_refl _, inside⟩
  | more _ _ _ ih => exact ⟨Nat.le_of_succ_le ih.1, ih.2⟩
  | seq _ _ first second => exact ⟨Nat.le_trans first.1 second.1, second.2⟩
  | left _ ih => exact ih
  | right _ ih => exact ih

/-! ### Places and positions -/

/-- The place at a position of a text. -/
def Place.ofPosition (text : List Char) (position : Nat) : Place :=
  ⟨if position = 0 then none else text[position - 1]?, text.drop position⟩

theorem Place.ofPosition_zero (text : List Char) : Place.ofPosition text 0 = Place.start text := rfl

/-- A place in front of a character moves over it to the next position. -/
theorem Place.ofPosition_succ {c : Char} (here : text[start]? = some c) :
    Place.ofPosition text (start + 1) = ⟨some c, text.drop (start + 1)⟩ := by
  simp [ofPosition, here]

theorem Place.ofPosition_of_drop {rest : List Char} (front : text.drop start = rest) :
    Place.ofPosition text start = ⟨(Place.ofPosition text start).previous, rest⟩ := by
  rw [← front]
  rfl

theorem getElem?_of_drop_nil (front : text.drop start = []) : text[start]? = none :=
  List.getElem?_eq_none (List.drop_eq_nil_iff.mp front)

theorem getElem?_of_drop_cons {c : Char} {rest : List Char} (front : text.drop start = c :: rest) :
    text[start]? = some c ∧ text.drop (start + 1) = rest ∧ start < text.length := by
  have here := congrArg List.head? front
  have after := congrArg List.tail front
  rw [List.head?_drop] at here
  rw [List.tail_drop] at after
  exact ⟨here, after, (List.getElem?_eq_some_iff.mp here).1⟩

theorem Place.atEdge_iff (inside : start ≤ text.length) :
    (Place.ofPosition text start).atEdge = true ↔
      Xor (0 < start ∧ WordAt text (start - 1)) (WordAt text start) := by
  have before : (Place.ofPosition text start).previous.any isWord = true ↔
      0 < start ∧ WordAt text (start - 1) := by
    cases start with
    | zero => simp [ofPosition]
    | succ position => simp [ofPosition, WordAt, Option.any_eq_true]
  have behind : (Place.ofPosition text start).rest.head?.any isWord = true ↔ WordAt text start := by
    simp [ofPosition, WordAt, Option.any_eq_true]
  rw [atEdge, bne_iff_ne, ← before, ← behind]
  cases (Place.ofPosition text start).previous.any isWord <;>
    cases (Place.ofPosition text start).rest.head?.any isWord <;> simp [Xor]

/-! ### The matcher -/

theorem Place.skip?_iff {letters : List Char} {place : Place} (inside : start ≤ text.length) :
    (Place.ofPosition text start).skip? letters = some place ↔
      ∃ finish, (Pattern.literal letters).Denotes text start finish ∧
        place = Place.ofPosition text finish := by
  induction letters generalizing start with
  | nil =>
    rw [skip?, Option.some_inj]
    constructor
    · intro same
      exact ⟨start, .noLetters inside, same.symm⟩
    · rintro ⟨finish, denotes, same⟩
      cases denotes
      exact same.symm
  | cons letter letters ih =>
    cases front : text.drop start with
    | nil =>
      have ended := getElem?_of_drop_nil front
      constructor
      · intro found
        simp [ofPosition, front, skip?] at found
      · rintro ⟨finish, denotes, _⟩
        cases denotes with
        | letter here => simp [ended] at here
    | cons c rest =>
      obtain ⟨here, after, next⟩ := getElem?_of_drop_cons front
      have moved : (Place.ofPosition text start).skip? (letter :: letters) =
          if sameLetter c letter then (Place.ofPosition text (start + 1)).skip? letters
          else none := by
        rw [Place.ofPosition_succ here, after, ofPosition, front, skip?]
      rw [moved]
      constructor
      · intro found
        split at found
        · rename_i same
          obtain ⟨finish, others, place⟩ := (ih next).mp found
          exact ⟨finish, .letter here (sameLetter_iff.mp same) others, place⟩
        · simp at found
      · rintro ⟨finish, denotes, place⟩
        cases denotes with
        | letter found same others =>
          rw [here, Option.some_inj] at found
          subst found
          rw [if_pos (sameLetter_iff.mpr same)]
          exact (ih next).mpr ⟨finish, others, place⟩

theorem CharKind.repeatThen_iff {kind : CharKind} {accept : Place → Bool}
    (inside : start ≤ text.length) :
    kind.repeatThen accept (Place.ofPosition text start).previous (text.drop start) = true ↔
      ∃ finish, (Pattern.many kind).Denotes text start finish ∧
        accept (Place.ofPosition text finish) = true := by
  generalize front : text.drop start = rest
  induction rest generalizing start with
  | nil =>
    have ended := getElem?_of_drop_nil front
    rw [repeatThen, ← Place.ofPosition_of_drop front]
    constructor
    · intro accepted
      exact ⟨start, .noMore inside, accepted⟩
    · rintro ⟨finish, denotes, accepted⟩
      cases denotes with
      | noMore => exact accepted
      | more here => simp [ended] at here
  | cons c rest ih =>
    obtain ⟨here, after, next⟩ := getElem?_of_drop_cons front
    have step := ih next after
    rw [Place.ofPosition_succ here] at step
    rw [repeatThen, ← Place.ofPosition_of_drop front, Bool.or_eq_true, Bool.and_eq_true, step]
    constructor
    · rintro (accepted | ⟨admits, finish, others, accepted⟩)
      · exact ⟨start, .noMore inside, accepted⟩
      · exact ⟨finish, .more here admits others, accepted⟩
    · rintro ⟨finish, denotes, accepted⟩
      cases denotes with
      | noMore => exact .inl accepted
      | more found admits others =>
        rw [here, Option.some_inj] at found
        subst found
        exact .inr ⟨admits, finish, others, accepted⟩

/-- Matching tries every way on: it succeeds exactly when some denoted end is accepted. -/
theorem Pattern.matchThen_iff (pattern : Pattern) {accept : Place → Bool}
    (inside : start ≤ text.length) :
    pattern.matchThen (Place.ofPosition text start) accept = true ↔
      ∃ finish, pattern.Denotes text start finish ∧
        accept (Place.ofPosition text finish) = true := by
  induction pattern generalizing start accept with
  | empty =>
    rw [matchThen]
    constructor
    · intro accepted
      exact ⟨start, .empty inside, accepted⟩
    · rintro ⟨finish, denotes, accepted⟩
      cases denotes
      exact accepted
  | edge =>
    rw [matchThen, Bool.and_eq_true, Place.atEdge_iff inside]
    constructor
    · rintro ⟨between, accepted⟩
      exact ⟨start, .edge inside between, accepted⟩
    · rintro ⟨finish, denotes, accepted⟩
      cases denotes with
      | edge _ between => exact ⟨between, accepted⟩
  | literal letters =>
    rw [matchThen, Option.any_eq_true]
    constructor
    · rintro ⟨place, found, accepted⟩
      obtain ⟨finish, denotes, rfl⟩ := (Place.skip?_iff inside).mp found
      exact ⟨finish, denotes, accepted⟩
    · rintro ⟨finish, denotes, accepted⟩
      exact ⟨_, (Place.skip?_iff inside).mpr ⟨finish, denotes, rfl⟩, accepted⟩
  | one kind =>
    cases front : text.drop start with
    | nil =>
      have ended := getElem?_of_drop_nil front
      constructor
      · intro matched
        simp [Place.ofPosition, front, matchThen] at matched
      · rintro ⟨finish, denotes, _⟩
        cases denotes with
        | one here => simp [ended] at here
    | cons c rest =>
      obtain ⟨here, after, _⟩ := getElem?_of_drop_cons front
      have moved : (Pattern.one kind).matchThen (Place.ofPosition text start) accept =
          (kind.admits c && accept (Place.ofPosition text (start + 1))) := by
        rw [Place.ofPosition_succ here, after, Place.ofPosition, front, matchThen]
      rw [moved, Bool.and_eq_true]
      constructor
      · rintro ⟨admits, accepted⟩
        exact ⟨start + 1, .one here admits, accepted⟩
      · rintro ⟨finish, denotes, accepted⟩
        cases denotes with
        | one found admits =>
          rw [here, Option.some_inj] at found
          subst found
          exact ⟨admits, accepted⟩
  | many kind => exact CharKind.repeatThen_iff inside
  | seq first second left right =>
    rw [matchThen, left inside]
    constructor
    · rintro ⟨middle, begun, rest⟩
      obtain ⟨finish, ended, accepted⟩ := (right begun.bounds.2).mp rest
      exact ⟨finish, .seq begun ended, accepted⟩
    · rintro ⟨finish, denotes, accepted⟩
      cases denotes with
      | seq begun ended => exact ⟨_, begun, (right begun.bounds.2).mpr ⟨finish, ended, accepted⟩⟩
  | either left right matchLeft matchRight =>
    rw [matchThen, Bool.or_eq_true, matchLeft inside, matchRight inside]
    constructor
    · rintro (⟨finish, chosen, accepted⟩ | ⟨finish, chosen, accepted⟩)
      · exact ⟨finish, .left chosen, accepted⟩
      · exact ⟨finish, .right chosen, accepted⟩
    · rintro ⟨finish, denotes, accepted⟩
      cases denotes with
      | left chosen => exact .inl ⟨finish, chosen, accepted⟩
      | right chosen => exact .inr ⟨finish, chosen, accepted⟩

end ResponseGate
