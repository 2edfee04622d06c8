import Mathlib.Logic.Relation
import ResponseGate.Proofs.ReverseLines

/-!
The states a reader comes to. A call fills the reader some number of times and then gives out a
line. In every state on the way the lines given are the last ones of the content, and what the
reader holds is the content between its offset and the line feed in front of them.
-/

namespace ResponseGate

/-- How far back the lines given so far reach: not at all, to the line feed in front of the one
given last, or, once the first line is given, to the beginning. The lines stand as they do in the
data. -/
inductive GivenBehind (data : List UInt8) :
    Nat → List (List UInt8) → (finished : Bool) → Prop where
  | nothing : GivenBehind data data.length [] false
  | feed {first last : List UInt8} (split : data = first ++ lineFeed :: last) :
      GivenBehind data first.length (forwardLines last) false
  | whole : GivenBehind data 0 (forwardLines data) true

namespace GivenBehind

variable {data last : List UInt8} {stop start : Nat} {given : List (List UInt8)}

/-- Bytes without a line feed at the end of what is left are one line more. -/
theorem forwardLines_append (behind : GivenBehind data stop given false)
    (unbroken : lineFeed ∉ last) :
    forwardLines (last ++ data.drop stop) = trimReturn last :: given := by
  cases behind with
  | nothing =>
    rw [List.drop_length, List.append_nil, forwardLines_of_unbroken unbroken]
  | feed split =>
    rw [split, List.drop_left, forwardLines_append_feed, forwardLines_of_unbroken unbroken]
    rfl

theorem line (behind : GivenBehind data stop given false)
    (split : data.take stop = data.take start ++ lineFeed :: last) (unbroken : lineFeed ∉ last)
    (inside : start ≤ data.length) : GivenBehind data start (trimReturn last :: given) false := by
  have parted : data = data.take start ++ lineFeed :: (last ++ data.drop stop) := by
    rw [← List.cons_append, ← List.append_assoc, ← split, List.take_append_drop]
  have further := GivenBehind.feed parted
  rwa [List.length_take_of_le inside, behind.forwardLines_append unbroken] at further

theorem first (behind : GivenBehind data stop given false) (unbroken : lineFeed ∉ data.take stop) :
    GivenBehind data 0 (trimReturn (data.take stop) :: given) true := by
  rw [← behind.forwardLines_append unbroken, List.take_append_drop]
  exact .whole

end GivenBehind

namespace Reader

variable {data line : List UInt8} {stop : Nat} {given : List (List UInt8)}
variable {reader state later : Reader}

/-! ### Steps of a call -/

/-- A step that reads a chunk: no line can be given out, there is something left to read, and the
read goes well. -/
structure Fills (state later : Reader) : Prop where
  ongoing : state.finished = false
  searched : state.takeLine? = none
  unread : state.offset ≠ 0
  filled : state.fill = (.ok (), later)

/-- A step that gives out a line and ends the call. -/
inductive GivesOut : Reader → List UInt8 → Reader → Prop where
  | line {state later : Reader} {line : List UInt8} (ongoing : state.finished = false)
      (taken : state.takeLine? = some (line, later)) : GivesOut state line later
  | first {state : Reader} (ongoing : state.finished = false) (searched : state.takeLine? = none)
      (read : state.offset = 0) : GivesOut state state.takeFirst.1 state.takeFirst.2

/-- The states that steps lead to, each with the lines given out on the way. -/
inductive Reaches (reader : Reader) : List (List UInt8) → Reader → Prop where
  | start : Reaches reader [] reader
  | fill {given : List (List UInt8)} {state later : Reader} (before : Reaches reader given state)
      (fills : state.Fills later) : Reaches reader given later
  | line {given : List (List UInt8)} {line : List UInt8} {state later : Reader}
      (before : Reaches reader given state) (gives : state.GivesOut line later) :
      Reaches reader (line :: given) later

theorem Fills.unfinished (fills : state.Fills later) : later.finished = false :=
  (fill_ok fills.filled).2.2.2.trans fills.ongoing

theorem Fills.seekLine_eq (fills : state.Fills later) : state.seekLine = later.seekLine := by
  rw [seekLine.eq_def, fills.searched]
  dsimp only
  rw [dif_neg fills.unread]
  split
  · rename_i failed
    simp [fills.filled] at failed
  · rename_i success
    rw [fills.filled] at success
    cases success
    rfl

/-- A call goes on where a fill leaves the reader. -/
theorem Fills.next_eq (fills : state.Fills later) : state.next = later.next := by
  rw [next_of_unfinished fills.ongoing, next_of_unfinished fills.unfinished, fills.seekLine_eq]

theorem GivesOut.unfinished (gives : state.GivesOut line later) : state.finished = false := by
  cases gives <;> assumption

theorem GivesOut.next_eq (gives : state.GivesOut line later) :
    state.next = (some (.ok line), later) := by
  rw [next_of_unfinished gives.unfinished, seekLine.eq_def]
  cases gives with
  | line ongoing taken => rw [taken]
  | first ongoing searched read =>
    rw [searched]
    dsimp only
    rw [dif_pos read]

theorem exists_filled_of_seekLine (ongoing : state.finished = false)
    (called : state.seekLine = (.ok line, later)) :
    ∃ filled, Relation.ReflTransGen Fills state filled ∧ filled.GivesOut line later := by
  fun_induction Reader.seekLine state with
  | case1 state found next taken =>
    simp only [Prod.mk.injEq, Except.ok.injEq] at called
    obtain ⟨rfl, rfl⟩ := called
    exact ⟨state, .refl, .line ongoing taken⟩
  | case2 state none read =>
    simp only [Prod.mk.injEq, Except.ok.injEq] at called
    obtain ⟨rfl, rfl⟩ := called
    exact ⟨state, .refl, .first ongoing none read⟩
  | case3 => simp at called
  | case4 state none unread next success ih =>
    have fills : state.Fills next := ⟨ongoing, none, unread, success⟩
    obtain ⟨filled, further, gives⟩ := ih fills.unfinished called
    exact ⟨filled, further.head fills, gives⟩

/-- A call that gives a line fills the reader until it can give the line out. -/
theorem next_eq_line_iff :
    state.next = (some (.ok line), later) ↔
      ∃ filled, Relation.ReflTransGen Fills state filled ∧ filled.GivesOut line later := by
  constructor
  · intro called
    cases finished : state.finished with
    | true =>
      rw [next_of_finished finished] at called
      simp at called
    | false =>
      rw [next_of_unfinished finished, Prod.mk.injEq, Option.some_inj] at called
      exact exists_filled_of_seekLine finished (Prod.ext called.1 called.2)
  · rintro ⟨filled, fills, gives⟩
    induction fills using Relation.ReflTransGen.head_induction_on with
    | refl => exact gives.next_eq
    | head first _ ih => rw [first.next_eq, ih]

/-- A chunk has at least one byte and at most those before the offset, also when reading it
fails. -/
theorem fill_amount (unread : state.offset ≠ 0) :
    let amount := min state.offset state.chunk
    1 ≤ amount ∧ amount ≤ state.offset ∧ state.fill.2.offset + amount = state.offset ∧
      state.fill.2.offset < state.offset := by
  intro amount
  have positive := state.chunk_pos
  have offset : state.fill.2.offset = state.offset - amount := offset_of_fill state
  exact ⟨by omega, Nat.min_le_left _ _, by omega, offset_fill_lt unread⟩

/-- No reader can be filled for ever. -/
theorem fills_wellFounded : WellFounded fun later state : Reader => state.Fills later := by
  apply Subrelation.wf _ (measure Reader.offset).wf
  intro later state fills
  have earlier := offset_fill_lt fills.unread
  rwa [fills.filled] at earlier

/-! ### What a state stands for -/

/-- The lines given are those behind `stop`, and the bytes held are those from the offset up to
it. -/
structure StandsFor (data : List UInt8) (stop : Nat) (given : List (List UInt8)) (state : Reader) :
    Prop where
  behind : GivenBehind data stop given state.finished
  holds : state.Holds data stop

theorem StandsFor.fill (stands : state.StandsFor data stop given) (fills : state.Fills later) :
    later.StandsFor data stop given := by
  have same : later.finished = state.finished := fills.unfinished.trans fills.ongoing.symm
  exact ⟨same ▸ stands.behind,
    stands.holds.fill (unbroken_of_takeLine?_none fills.searched) fills.filled⟩

/-- What is given out is the last line of what is left, and nothing stays in the carry. -/
theorem StandsFor.giveOut (stands : state.StandsFor data stop given)
    (gives : state.GivesOut line later) :
    ∃ start, later.StandsFor data start (line :: given) ∧ later.carry = [] := by
  have behind := stands.behind
  rw [gives.unfinished] at behind
  have given : Gives data stop line later := by
    cases gives with
    | line ongoing taken => exact stands.holds.takeLine? ongoing taken
    | first ongoing searched read =>
      exact stands.holds.takeFirst (unbroken_of_takeLine?_none searched) read
  cases given with
  | @line start last _ split unbroken holds carry ongoing =>
    exact ⟨start, ⟨ongoing ▸ behind.line split unbroken holds.stop_le, holds⟩, carry⟩
  | first unbroken holds carry finished =>
    exact ⟨0, ⟨finished ▸ behind.first unbroken, holds⟩, carry⟩

/-- A reader that could be opened stands for the whole content. -/
theorem stands_of_ofSource {source : Source} {chunk : Nat} (truthful : source.overstated = 0)
    (opened : Reader.ofSource source chunk = .ok reader) :
    reader.StandsFor source.content source.content.length [] ∧ reader.carry = [] ∧
      (source.Faultless → reader.source.Faultless) := by
  obtain ⟨left, spared, rfl⟩ := ofSource_eq_ok_iff.mp opened
  have offset : source.content.length + source.overstated = source.content.length := by
    rw [truthful, Nat.add_zero]
  refine ⟨⟨.nothing, .atEnd rfl offset rfl rfl⟩, rfl, ?_⟩
  rintro ⟨reads, seeks⟩
  rw [seeks] at spared
  cases spared
  exact ⟨reads, rfl⟩

/-! ### Reached states -/

theorem Reaches.fills (reached : reader.Reaches given state)
    (fills : Relation.ReflTransGen Fills state later) : reader.Reaches given later := by
  induction fills with
  | refl => exact reached
  | tail _ fills ih => exact ih.fill fills

section Reached

variable (begins : reader.StandsFor data data.length [])
include begins

theorem Reaches.stands (reached : reader.Reaches given state) :
    ∃ stop, state.StandsFor data stop given := by
  induction reached with
  | start => exact ⟨data.length, begins⟩
  | fill _ fills ih =>
    obtain ⟨stop, stands⟩ := ih
    exact ⟨stop, stands.fill fills⟩
  | line _ gives ih =>
    obtain ⟨stop, stands⟩ := ih
    obtain ⟨start, after, _⟩ := stands.giveOut gives
    exact ⟨start, after⟩

/-- A call that gives a line leads to a reached state that carries nothing. -/
theorem Reaches.next (reached : reader.Reaches given state)
    (called : state.next = (some (.ok line), later)) :
    reader.Reaches (line :: given) later ∧ later.carry = [] := by
  obtain ⟨filled, fills, gives⟩ := next_eq_line_iff.mp called
  have before := reached.fills fills
  obtain ⟨stop, stands⟩ := before.stands begins
  obtain ⟨start, _, carry⟩ := stands.giveOut gives
  exact ⟨before.line gives, carry⟩

theorem Reaches.faultless (reached : reader.Reaches given state)
    (sound : reader.source.Faultless) : state.source.Faultless := by
  induction reached with
  | start => exact sound
  | fill before fills ih =>
    obtain ⟨stop, stands⟩ := before.stands begins
    obtain ⟨later, success, kept, _⟩ := stands.holds.fill_of_faultless ih
    rw [fills.filled] at success
    cases success
    exact kept
  | line _ gives ih =>
    cases gives with
    | line _ taken =>
      obtain ⟨_, _, _, _, _, rfl⟩ := takeLine?_some taken
      exact ih
    | first => exact ih

/-- Without faults a call gives a line as long as the first line of the data is not given. -/
theorem Reaches.exists_next (reached : reader.Reaches given state)
    (sound : reader.source.Faultless) (ongoing : state.finished = false) :
    ∃ line later, state.next = (some (.ok line), later) := by
  obtain ⟨stop, stands⟩ := reached.stands begins
  obtain ⟨line, later, called, _⟩ :=
    stands.holds.seekLine_of_faultless (reached.faultless begins sound)
  refine ⟨line, later, ?_⟩
  rw [next_of_unfinished ongoing, called]

/-- So calls lead from reached states to reached states, and between them nothing is carried. -/
theorem Reaches.after (reached : reader.Reaches given state) (sound : reader.source.Faultless)
    (carry : state.carry = []) (calls : Nat) :
    (∃ given, reader.Reaches given (state.after calls)) ∧ (state.after calls).carry = [] := by
  induction calls generalizing given state with
  | zero => exact ⟨⟨given, reached⟩, carry⟩
  | succ calls ih =>
    rw [Reader.after]
    cases finished : state.finished with
    | true =>
      rw [next_of_finished finished]
      exact ih reached carry
    | false =>
      obtain ⟨line, later, called⟩ := reached.exists_next begins sound finished
      obtain ⟨reachedNext, nothing⟩ := reached.next begins called
      rw [called]
      exact ih reachedNext nothing

end Reached

/-- In every state that a reader comes to without a fault, whatever may still fail, the bytes held
are those from the offset to the line feed in front of the line given last, and all lines behind it
are given. Between two calls nothing is carried. A chunk has at least one byte and at most those
before the offset, so that a call, which fills the reader until it can give out a line, comes to an
end. -/
theorem states_stand_for_what_is_left :
    (∀ (source : Source) (chunk : Nat), source.overstated = 0 →
      (source.Faultless → ∃ reader, Reader.ofSource source chunk = .ok reader) ∧
      ∀ reader, Reader.ofSource source chunk = .ok reader →
        (∀ given state, reader.Reaches given state →
          (∃ stop, state.StandsFor source.content stop given) ∧
          ∀ line later, state.next = (some (.ok line), later) →
            reader.Reaches (line :: given) later ∧ later.carry = []) ∧
        (source.Faultless →
          (∀ given state, reader.Reaches given state → state.finished = false →
            ∃ line later, state.next = (some (.ok line), later)) ∧
          ∀ calls, (∃ given, reader.Reaches given (reader.after calls)) ∧
            (reader.after calls).carry = [])) ∧
    (∀ state : Reader, state.offset ≠ 0 →
      let amount := min state.offset state.chunk
      1 ≤ amount ∧ amount ≤ state.offset ∧ state.fill.2.offset + amount = state.offset ∧
        state.fill.2.offset < state.offset) ∧
    (∀ (state later : Reader) (line : List UInt8), state.next = (some (.ok line), later) ↔
      ∃ filled, Relation.ReflTransGen Fills state filled ∧ filled.GivesOut line later) ∧
    WellFounded fun later state : Reader => state.Fills later := by
  refine ⟨?_, fun state => fill_amount, fun state later line => next_eq_line_iff, fills_wellFounded⟩
  intro source chunk truthful
  constructor
  · intro faultless
    obtain ⟨reader, opened, _⟩ := ofSource_of_faultless faultless truthful chunk
    exact ⟨reader, opened⟩
  · intro reader opened
    obtain ⟨begins, nothing, sound⟩ := stands_of_ofSource truthful opened
    constructor
    · intro given state reached
      exact ⟨reached.stands begins, fun line later => reached.next begins⟩
    · intro faultless
      constructor
      · intro given state reached
        exact reached.exists_next begins (sound faultless)
      · exact Reaches.start.after begins (sound faultless) nothing

/-- A line feed goes with the line behind it. The carriage return in front of it is left and is
carried until the rest of its line is read. -/
theorem return_is_carried_without_its_feed :
    let source := Source.ofBytes "ab\r\ncd".toUTF8
    ∃ reader state, source.overstated = 0 ∧ Reader.ofSource source 2 = .ok reader ∧
      reader.Reaches [[0x63, 0x64]] state ∧ state.offset = 0 ∧ state.carry = [[carriageReturn]] ∧
      ∃ stop, state.StandsFor source.content stop [[0x63, 0x64]] := by
  intro source
  let reader : Reader :=
    { source := { source with position := 6 }, chunk := 2, chunk_pos := by decide, offset := 6 }
  have opened : Reader.ofSource source 2 = .ok reader := rfl
  obtain ⟨states, _⟩ := (states_stand_for_what_is_left.1 source 2 rfl).2 reader opened
  have called : reader.next = (some (.ok [0x63, 0x64]), reader.next.2) :=
    Prod.ext (by decide +kernel) rfl
  have between := ((states [] reader .start).2 _ _ called).1
  have fills : reader.next.2.Fills reader.next.2.fill.2 :=
    ⟨by decide +kernel, by decide +kernel, by decide +kernel, Prod.ext (by decide +kernel) rfl⟩
  have reached := between.fill fills
  exact ⟨reader, _, rfl, opened, reached, by decide +kernel, by decide +kernel,
    (states _ _ reached).1⟩

end Reader

end ResponseGate
