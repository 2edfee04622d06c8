import Mathlib.Data.List.Basic
import ResponseGate.Transcript.Reader

/-!
Where lines end. The line feeds of a content, counted from its end, tell how much of it is left to
give after some number of lines.
-/

namespace ResponseGate

/-- The offsets of the line feeds, the last one first. -/
def lineFeeds (data : List UInt8) : List Nat := (data.idxsOf lineFeed).reverse

/-- Where the bytes end that are left to give after so many calls: at the end of the data before the
first call, then in front of the line feed that begins the line last given, and at 0 once the first
line is given. -/
def endAfter (data : List UInt8) (calls : Nat) : Nat :=
  (data.length :: lineFeeds data)[calls]?.getD 0

@[simp] theorem endAfter_zero (data : List UInt8) : endAfter data 0 = data.length := rfl

theorem endAfter_succ (data : List UInt8) (calls : Nat) :
    endAfter data (calls + 1) = (lineFeeds data)[calls]?.getD 0 := rfl

theorem length_lineFeeds (data : List UInt8) : (lineFeeds data).length = data.count lineFeed := by
  rw [lineFeeds, List.length_reverse, List.length_idxsOf]

theorem idxsOf_of_unbroken {data : List UInt8} (unbroken : lineFeed ∉ data) (start : Nat) :
    data.idxsOf lineFeed start = [] := by
  apply List.idxsOf_eq_nil_iff.mpr
  intro byte member
  exact beq_eq_false_iff_ne.mpr fun feed => unbroken (feed ▸ member)

theorem lineFeeds_of_unbroken {data : List UInt8} (unbroken : lineFeed ∉ data) :
    lineFeeds data = [] := by
  rw [lineFeeds, idxsOf_of_unbroken unbroken]
  rfl

theorem lineFeeds_append_feed {last : List UInt8} (unbroken : lineFeed ∉ last)
    (first : List UInt8) :
    lineFeeds (first ++ lineFeed :: last) = first.length :: lineFeeds first := by
  rw [lineFeeds, List.idxsOf_append, List.idxsOf_cons, if_pos (beq_self_eq_true lineFeed),
    idxsOf_of_unbroken unbroken, List.reverse_append, Nat.zero_add]
  rfl

theorem endAfter_of_unbroken {data : List UInt8} (unbroken : lineFeed ∉ data) (calls : Nat) :
    endAfter data (calls + 1) = 0 := by
  simp [endAfter, lineFeeds_of_unbroken unbroken]

theorem endAfter_append_feed {last : List UInt8} (unbroken : lineFeed ∉ last) (first : List UInt8)
    (calls : Nat) : endAfter (first ++ lineFeed :: last) (calls + 1) = endAfter first calls := by
  rw [endAfter, lineFeeds_append_feed unbroken, List.getElem?_cons_succ, endAfter]

/-- A line reaches back over all bytes at the end that hold no line feed. -/
theorem endAfter_one_lt {data : List UInt8} {offset : Nat} (positive : offset ≠ 0)
    (unbroken : lineFeed ∉ data.drop offset) : endAfter data 1 < offset := by
  cases feeds : lineFeeds data with
  | nil =>
    rw [endAfter, feeds]
    exact Nat.pos_of_ne_zero positive
  | cons feed others =>
    have member : feed ∈ data.idxsOf lineFeed := by
      rw [← List.mem_reverse, ← lineFeeds, feeds]
      exact List.mem_cons_self
    obtain ⟨inside, found⟩ := List.mem_idxsOf_iff_exists_getElem_pos.mp member
    rw [endAfter, feeds]
    change feed < offset
    apply Nat.lt_of_not_le
    intro behind
    apply unbroken
    rw [← beq_iff_eq.mp found]
    exact List.mem_drop_iff_getElem.mpr
      ⟨feed - offset, by omega, by simp [Nat.add_sub_cancel' behind]⟩

theorem endAfter_le (data : List UInt8) (calls : Nat) : endAfter data calls ≤ data.length := by
  cases found : (data.length :: lineFeeds data)[calls]? with
  | none =>
    rw [endAfter, found]
    exact Nat.zero_le _
  | some stop =>
    rw [endAfter, found]
    change stop ≤ data.length
    rcases List.mem_cons.mp (List.mem_of_getElem? found) with rfl | feed
    · exact Nat.le_refl _
    · exact Nat.le_of_lt (List.lt_add_of_mem_idxsOf stop (List.mem_reverse.mp feed))

theorem endAfter_of_count_lt {data : List UInt8} {calls : Nat}
    (ended : data.count lineFeed < calls) : endAfter data calls = 0 := by
  have outside : (data.length :: lineFeeds data).length ≤ calls := by
    rw [List.length_cons, length_lineFeeds]
    exact ended
  rw [endAfter, List.getElem?_eq_none outside]
  rfl

/-- Any data is one line, or other data with a line feed and a last line behind it. -/
@[elab_as_elim]
theorem last_line_induction {motive : List UInt8 → Prop}
    (unbroken : ∀ data, lineFeed ∉ data → motive data)
    (feed : ∀ first last, lineFeed ∉ last → motive first → motive (first ++ lineFeed :: last))
    (data : List UInt8) : motive data := by
  induction length : data.length using Nat.strongRecOn generalizing data with
  | ind length ih =>
    by_cases member : lineFeed ∈ data
    · obtain ⟨last, first, split, absent⟩ :=
        List.eq_append_cons_of_mem (List.mem_reverse.mpr member)
      have forward : data = first.reverse ++ lineFeed :: last.reverse := by
        simpa using congrArg List.reverse split
      have shorter : first.reverse.length < data.length := by
        rw [forward, List.length_append, List.length_cons]
        omega
      rw [forward]
      exact feed _ _ (by simpa using absent) (ih _ (length ▸ shorter) _ rfl)
    · exact unbroken data member

/-- What is left after some calls has the line feeds in it that they did not come to. -/
theorem lineFeeds_take (data : List UInt8) (calls : Nat) :
    lineFeeds (data.take (endAfter data calls)) = (lineFeeds data).drop calls := by
  induction data using last_line_induction generalizing calls with
  | unbroken data unbroken =>
    have none : lineFeed ∉ data.take (endAfter data calls) :=
      fun member => unbroken (List.mem_of_mem_take member)
    rw [lineFeeds_of_unbroken none, lineFeeds_of_unbroken unbroken, List.drop_nil]
  | feed first last unbroken ih =>
    cases calls with
    | zero => rw [endAfter_zero, List.take_length, List.drop_zero]
    | succ calls =>
      rw [endAfter_append_feed unbroken, List.take_append_of_le_length (endAfter_le first calls),
        ih, lineFeeds_append_feed unbroken, List.drop_succ_cons]

theorem endAfter_take (data : List UInt8) (calls : Nat) :
    endAfter (data.take (endAfter data calls)) 1 = endAfter data (calls + 1) := by
  rw [endAfter_succ, endAfter_succ, lineFeeds_take, List.getElem?_drop, Nat.add_zero]

theorem endAfter_succ_le (data : List UInt8) (calls : Nat) :
    endAfter data (calls + 1) ≤ endAfter data calls := by
  rw [← endAfter_take]
  exact Nat.le_trans (endAfter_le _ 1) (List.length_take_le _ _)

end ResponseGate
