import ResponseGate.Proofs.PatternSemantics

/-!
Patterns inside a larger text. What a pattern denotes in a part of a text it also denotes in the
whole, unless a word runs on across an end of the part; and where no word character touches the part
from outside, the pattern denotes nothing in that range that it does not denote in the part alone.
-/

namespace ResponseGate

open Text

variable {front text back : List Char} {pattern : Pattern} {start finish position : Nat}

/-- No word runs on from the first text into the second. -/
def Parted (first second : List Char) : Prop :=
  ∀ c ∈ first.getLast?, ∀ d ∈ second.head?, isWord c = false ∨ isWord d = false

/-- No word character touches what stands between the two texts. -/
structure Secluded (front back : List Char) : Prop where
  before : ∀ c ∈ front.getLast?, isWord c = false
  behind : ∀ c ∈ back.head?, isWord c = false

theorem Secluded.parted (secluded : Secluded front back) (text : List Char) :
    Parted front text ∧ Parted text back :=
  ⟨fun c last _ _ => .inl (secluded.before c last),
    fun _ _ d first => .inr (secluded.behind d first)⟩

/-! ### Neighbours -/

theorem getElem?_inside (inside : position < text.length) :
    (front ++ (text ++ back))[front.length + position]? = text[position]? := by
  rw [List.getElem?_append_right (Nat.le_add_right _ _), Nat.add_sub_cancel_left,
    List.getElem?_append_left inside]

theorem wordAt_inside (inside : position < text.length) :
    WordAt (front ++ (text ++ back)) (front.length + position) ↔ WordAt text position := by
  rw [WordAt, WordAt, getElem?_inside inside]

theorem not_wordAt_of_length_le (outside : text.length ≤ position) : ¬ WordAt text position := by
  rintro ⟨c, here, _⟩
  simp [List.getElem?_eq_none outside] at here

/-- The word character before a position, which at the beginning of the part stands outside. -/
theorem wordBefore_iff (inside : position ≤ text.length) :
    (0 < front.length + position ∧ WordAt (front ++ (text ++ back)) (front.length + position - 1)) ↔
      (0 < position ∧ WordAt text (position - 1)) ∨
        (position = 0 ∧ ∃ c ∈ front.getLast?, isWord c = true) := by
  cases position with
  | zero =>
    rcases List.eq_nil_or_concat front with rfl | ⟨others, last, rfl⟩
    · simp
    · simp [WordAt, List.concat_eq_append]
  | succ position =>
    have previous : front.length + (position + 1) - 1 = front.length + position := by omega
    have positive : 0 < front.length + (position + 1) := by omega
    rw [previous, wordAt_inside inside]
    simp [positive]

/-- The word character behind a position, which at the end of the part stands outside. -/
theorem wordBehind_iff (inside : position ≤ text.length) :
    WordAt (front ++ (text ++ back)) (front.length + position) ↔
      WordAt text position ∨ (position = text.length ∧ ∃ c ∈ back.head?, isWord c = true) := by
  rcases Nat.lt_or_eq_of_le inside with within | same
  · have other : position ≠ text.length := Nat.ne_of_lt within
    rw [wordAt_inside within]
    simp [other]
  · subst same
    have here : (front ++ (text ++ back))[front.length + text.length]? = back.head? := by
      rw [List.getElem?_append_right (Nat.le_add_right _ _), Nat.add_sub_cancel_left,
        List.getElem?_append_right (Nat.le_refl _), Nat.sub_self, List.head?_eq_getElem?]
    rw [WordAt, here]
    simp [not_wordAt_of_length_le]

/-- Exactly one of the neighbouring characters is a word character. -/
def EdgeAt (text : List Char) (position : Nat) : Prop :=
  Xor (0 < position ∧ WordAt text (position - 1)) (WordAt text position)

theorem EdgeAt.in_whole (first : Parted front text) (last : Parted text back)
    (bound : position ≤ text.length) (between : EdgeAt text position) :
    EdgeAt (front ++ (text ++ back)) (front.length + position) := by
  rw [EdgeAt, wordBefore_iff bound, wordBehind_iff bound]
  rcases between with ⟨⟨positive, before⟩, none⟩ | ⟨behind, none⟩
  · refine .inl ⟨.inl ⟨positive, before⟩, ?_⟩
    rintro (behind | ⟨rfl, d, head, word⟩)
    · exact none behind
    · obtain ⟨c, here, before⟩ := before
      rw [← List.getLast?_eq_getElem?] at here
      rcases last c here d head with other | other
      · simp [other] at before
      · simp [other] at word
  · refine .inr ⟨.inl behind, ?_⟩
    rintro (before | ⟨rfl, c, head, word⟩)
    · exact none before
    · obtain ⟨d, here, behind⟩ := behind
      rw [← List.head?_eq_getElem?] at here
      rcases first c head d here with other | other
      · simp [other] at word
      · simp [other] at behind

theorem edgeAt_in_whole_iff (secluded : Secluded front back) (inside : position ≤ text.length) :
    EdgeAt (front ++ (text ++ back)) (front.length + position) ↔ EdgeAt text position := by
  have before : ¬ ∃ c ∈ front.getLast?, isWord c = true := by
    rintro ⟨c, last, word⟩
    simp [secluded.before c last] at word
  have behind : ¬ ∃ c ∈ back.head?, isWord c = true := by
    rintro ⟨c, first, word⟩
    simp [secluded.behind c first] at word
  rw [EdgeAt, EdgeAt, wordBefore_iff inside, wordBehind_iff inside]
  simp only [before, behind, and_false, or_false]

/-! ### Denotations -/

namespace Pattern.Denotes

/-- A pattern that stands in a part stands in the whole. -/
theorem in_whole (first : Parted front text) (last : Parted text back)
    (denotes : pattern.Denotes text start finish) :
    pattern.Denotes (front ++ (text ++ back)) (front.length + start) (front.length + finish) := by
  have within {position : Nat} (bound : position ≤ text.length) :
      front.length + position ≤ (front ++ (text ++ back)).length := by
    simp only [List.length_append]
    omega
  have char {position : Nat} {c : Char} (here : text[position]? = some c) :
      (front ++ (text ++ back))[front.length + position]? = some c := by
    rw [getElem?_inside (List.getElem?_eq_some_iff.mp here).1, here]
  induction denotes with
  | empty bound => exact .empty (within bound)
  | edge bound between => exact .edge (within bound) (EdgeAt.in_whole first last bound between)
  | noLetters bound => exact .noLetters (within bound)
  | letter here same _ ih => exact .letter (char here) same ih
  | one here admits => exact .one (char here) admits
  | noMore bound => exact .noMore (within bound)
  | more here admits _ ih => exact .more (char here) admits ih
  | seq _ _ left right => exact .seq left right
  | left _ ih => exact .left ih
  | right _ ih => exact .right ih

/-- Nothing outside a secluded part helps a pattern to stand in it. -/
theorem in_part (secluded : Secluded front back) (after : front.length ≤ start)
    (before : finish ≤ front.length + text.length)
    (denotes : pattern.Denotes (front ++ (text ++ back)) start finish) :
    pattern.Denotes text (start - front.length) (finish - front.length) := by
  have char {position : Nat} {c : Char} (after : front.length ≤ position)
      (before : position < front.length + text.length)
      (here : (front ++ (text ++ back))[position]? = some c) :
      text[position - front.length]? = some c := by
    have inside : position - front.length < text.length := by omega
    have same : (front ++ (text ++ back))[front.length + (position - front.length)]? = _ :=
      getElem?_inside inside
    rw [Nat.add_sub_cancel' after, here] at same
    exact same.symm
  induction denotes with
  | empty => exact .empty (by omega)
  | @edge start _ between =>
    have bound : start - front.length ≤ text.length := by omega
    have whole : EdgeAt (front ++ (text ++ back)) (front.length + (start - front.length)) := by
      rwa [Nat.add_sub_cancel' after]
    exact .edge bound ((edgeAt_in_whole_iff secluded bound).mp whole)
  | noLetters => exact .noLetters (by omega)
  | letter here same others ih =>
    have forward := others.bounds.1
    have rest := ih (by omega) before
    rw [Nat.sub_add_comm after] at rest
    exact .letter (char after (by omega) here) same rest
  | one here admits =>
    rw [Nat.sub_add_comm after]
    exact .one (char after (by omega) here) admits
  | noMore => exact .noMore (by omega)
  | more here admits others ih =>
    have forward := others.bounds.1
    have rest := ih (by omega) before
    rw [Nat.sub_add_comm after] at rest
    exact .more (char after (by omega) here) admits rest
  | seq first second left right =>
    have forward := first.bounds.1
    have further := second.bounds.1
    exact .seq (left after (by omega)) (right (by omega) before)
  | left _ ih => exact .left (ih after before)
  | right _ ih => exact .right (ih after before)

end Pattern.Denotes

end ResponseGate
