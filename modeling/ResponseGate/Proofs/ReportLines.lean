import Mathlib.Data.List.Basic
import ResponseGate.Proofs.SingleLines

/-!
Report lines are read back. Labels stand in a report with all their blanks, quotes, colons and
apostrophes and without escapes; still the line gives them back in their order, because nothing
that a label is made of begins the text around the labels or the mark between them.
-/

namespace ResponseGate

/-! ### Texts parted at marks -/

section

variable {α : Type} [DecidableEq α] {text mark front behind : List α} {head : α}

/-- A mark is found where it stands first. -/
theorem dropInfix?_eq_some_iff_first :
    text.dropInfix? mark = some (front, behind) ↔
      text = front ++ mark ++ behind ∧
        ∀ sooner rest, text = sooner ++ mark ++ rest → front.length ≤ sooner.length := by
  simp only [List.dropInfix?_eq_some_iff, beq_iff_eq, exists_eq_right, ge_iff_le]
  refine and_congr_right fun _ => ⟨?_, ?_⟩
  · intro first sooner rest split
    exact first sooner mark rest split rfl
  · rintro first sooner _ rest split rfl
    exact first sooner rest split

/-- A mark that is found in a text is found at the same place in a longer text. -/
theorem dropInfix?_append (found : text.dropInfix? mark = some (front, behind)) (more : List α) :
    (text ++ more).dropInfix? mark = some (front, behind ++ more) := by
  obtain ⟨split, first⟩ := dropInfix?_eq_some_iff_first.mp found
  refine dropInfix?_eq_some_iff_first.mpr ⟨by rw [split, List.append_assoc], ?_⟩
  intro sooner rest longer
  by_contra before
  -- An earlier place would leave the mark whole inside the text.
  have inside : (sooner ++ mark).length ≤ text.length := by
    rw [split]
    simp only [List.length_append]
    omega
  have begun : sooner ++ mark <+: text :=
    List.prefix_of_prefix_length_le ⟨rest, longer.symm⟩ (List.prefix_append text more) inside
  obtain ⟨others, whole⟩ := begun
  exact before (first sooner others whole.symm)

/-- What holds no letter that begins a mark ends where the mark stands. -/
theorem dropInfix?_append_mark (absent : head ∉ front) (behind : List α) :
    (front ++ (head :: mark) ++ behind).dropInfix? (head :: mark) = some (front, behind) := by
  refine dropInfix?_eq_some_iff_first.mpr ⟨rfl, ?_⟩
  intro sooner rest split
  by_contra before
  have short : sooner.length < front.length := Nat.lt_of_not_le before
  have letter := congrArg (·[sooner.length]?) split
  simp only [List.append_assoc, List.getElem?_append_left short, List.getElem?_append_right,
    Nat.le_refl, Nat.sub_self, List.cons_append, List.getElem?_cons_zero] at letter
  exact absent (List.mem_of_getElem? letter)

theorem dropInfix?_of_absent (absent : head ∉ text) : text.dropInfix? (head :: mark) = none := by
  cases found : text.dropInfix? (head :: mark) with
  | none => rfl
  | some parts =>
    have split := (dropInfix?_eq_some_iff_first.mp found).1
    simp [split] at absent

/-- The pieces of a text between the places where a mark stands, looked for from the left. -/
def piecesAt (mark : List α) (visible : mark ≠ []) (text : List α) : List (List α) :=
  match _found : text.dropInfix? mark with
  | none => [text]
  | some (piece, behind) => piece :: piecesAt mark visible behind
termination_by text.length
decreasing_by
  have split := (dropInfix?_eq_some_iff_first.mp _found).1
  have positive := List.length_pos_iff.mpr visible
  rw [split, List.length_append, List.length_append]
  omega

/-- Pieces that hold no letter that begins the mark are found again. -/
theorem piecesAt_intercalate {pieces : List (List α)} (absent : ∀ piece ∈ pieces, head ∉ piece)
    (filled : pieces ≠ []) (visible : head :: mark ≠ []) :
    piecesAt (head :: mark) visible ((head :: mark).intercalate pieces) = pieces := by
  induction pieces with
  | nil => exact absurd rfl filled
  | cons piece pieces ih =>
    have one := absent piece List.mem_cons_self
    rw [piecesAt.eq_def]
    cases pieces with
    | nil =>
      rw [List.intercalate_singleton, dropInfix?_of_absent one]
    | cons next pieces =>
      have others := ih (fun piece member => absent piece (List.mem_cons_of_mem _ member))
        (List.cons_ne_nil _ _)
      rw [List.intercalate_cons_cons, dropInfix?_append_mark one]
      dsimp only
      rw [others]

end

/-! ### The labels in a line -/

namespace Report

variable {report : Report}

/-- What a host reads off a line: the part behind the first announcement, cut off in front of the
first prohibition and parted wherever a comma and a blank stand. -/
def labelsIn? (line : String) : Option (List String) := do
  let (_, announced) ← line.toList.dropInfix? "Violations: ".toList
  let (named, _) ← announced.dropInfix? ". You are PROHIBITED".toList
  return (piecesAt ", ".toList (by decide) named).map String.ofList

/-- The labels as they stand in the line. -/
def written (report : Report) : List Char :=
  ", ".toList.intercalate (report.labels.map String.toList)

theorem toList_message (report : Report) :
    report.message.toList = opening.toList ++ (report.written ++ closing.toList) := by
  rw [message, String.toList_append, String.toList_append, String.toList_intercalate,
    List.append_assoc, written]

/-- The opening has the announcement at its end and, though it has the word in capitals before,
nowhere else. Labels that have it too come later. -/
theorem exists_announced (report : Report) :
    ∃ front, report.message.toList.dropInfix? "Violations: ".toList =
      some (front, report.written ++ closing.toList) := by
  obtain ⟨front, opened⟩ : ∃ front,
      opening.toList.dropInfix? "Violations: ".toList = some (front, []) :=
    ⟨opening.toList.take (opening.length - "Violations: ".length), by decide +kernel⟩
  refine ⟨front, ?_⟩
  rw [toList_message, dropInfix?_append opened, List.nil_append]

/-- Labels without full stops end in front of the prohibition that closes the line. -/
theorem exists_cut (stops : ∀ label ∈ report.labels, '.' ∉ label.toList) :
    ∃ rest, (report.written ++ closing.toList).dropInfix? ". You are PROHIBITED".toList =
      some (report.written, rest) := by
  obtain ⟨rest, closed⟩ : ∃ rest, closing.toList = ". You are PROHIBITED".toList ++ rest :=
    ⟨closing.toList.drop ". You are PROHIBITED".length, by decide +kernel⟩
  have unstopped : '.' ∉ report.written :=
    not_mem_intercalate (by decide) (List.forall_mem_map.mpr stops)
  refine ⟨rest, ?_⟩
  rw [closed, ← List.append_assoc]
  exact dropInfix?_append_mark unstopped rest

/-- Labels without commas and full stops are read back. -/
theorem labelsIn?_message (filled : report.labels ≠ [])
    (commas : ∀ label ∈ report.labels, ',' ∉ label.toList)
    (stops : ∀ label ∈ report.labels, '.' ∉ label.toList) :
    labelsIn? report.message = some report.labels := by
  obtain ⟨front, announced⟩ := exists_announced report
  obtain ⟨rest, cut⟩ := exists_cut stops
  have pieces : piecesAt ", ".toList (by decide) report.written = report.labels.map String.toList :=
    piecesAt_intercalate (List.forall_mem_map.mpr commas) (by simpa using filled) _
  have back : report.labels.map (String.ofList ∘ String.toList) = report.labels := by
    simp [Function.comp_def]
  rw [labelsIn?, announced, Option.bind_eq_bind, Option.bind_some]
  dsimp only
  rw [cut, Option.bind_some, pieces, List.map_map, back]
  rfl

/-- All labels of the report are labels of the catalogue, in any order and any number of times. -/
def Catalogued (report : Report) : Prop :=
  ∀ label ∈ report.labels, label ∈ Catalogue.rules.map Rule.label

instance : DecidablePred Catalogued := fun _ => List.decidableBAll _ _

end Report

/-- No label has a letter that begins the text behind the labels or the mark between them, and none
is empty. -/
theorem Catalogue.label_apart {label : String} (member : label ∈ Catalogue.rules.map Rule.label) :
    ',' ∉ label.toList ∧ '.' ∉ label.toList ∧ label ≠ "" := by
  have all : ∀ label ∈ Catalogue.rules.map Rule.label,
      ',' ∉ label.toList ∧ '.' ∉ label.toList ∧ label ≠ "" := by decide +kernel
  exact all label member

namespace Report.Catalogued

variable {report one other : Report}

theorem labelsIn?_message (catalogued : report.Catalogued) (filled : report.labels ≠ []) :
    labelsIn? report.message = some report.labels :=
  Report.labelsIn?_message filled
    (fun label named => (Catalogue.label_apart (catalogued label named)).1)
    (fun label named => (Catalogue.label_apart (catalogued label named)).2.1)

theorem singleLine_message (catalogued : report.Catalogued) : SingleLine report.message := by
  apply Report.singleLine_message
  intro label named
  obtain ⟨rule, member, rfl⟩ := List.mem_map.mp (catalogued label named)
  exact Catalogue.singleLine_label member

/-- A line without labels reads like one with an empty label, and the catalogue has none. -/
theorem message_ne_of_filled (catalogued : report.Catalogued) (filled : report.labels ≠ [])
    (empty : other.labels = []) : report.message ≠ other.message := by
  intro same
  have blank : other.message = Report.message ⟨[""]⟩ := by
    rw [message, empty]
    rfl
  have read : labelsIn? report.message = some [""] := by
    rw [same, blank]
    exact Report.labelsIn?_message (List.cons_ne_nil _ _) (by simp) (by simp)
  rw [catalogued.labelsIn?_message filled, Option.some_inj] at read
  have named : "" ∈ report.labels := read ▸ List.mem_cons_self
  exact (Catalogue.label_apart (catalogued "" named)).2.2 rfl

theorem labels_eq_of_message_eq (first : one.Catalogued) (second : other.Catalogued)
    (same : one.message = other.message) : one.labels = other.labels := by
  by_cases nothing : one.labels = []
  · by_cases nothingToo : other.labels = []
    · rw [nothing, nothingToo]
    · exact absurd same.symm (second.message_ne_of_filled nothingToo nothing)
  · by_cases empty : other.labels = []
    · exact absurd same (first.message_ne_of_filled nothing empty)
    · have read := first.labelsIn?_message nothing
      rw [same, second.labelsIn?_message empty, Option.some_inj] at read
      exact read.symm

end Report.Catalogued

theorem Decision.catalogued_of_scan {text : String} {report : Report}
    (rejected : scan text = .reject report) : report.Catalogued ∧ report.labels ≠ [] := by
  have tells := tells_of_reject rejected
  constructor
  · intro label named
    obtain ⟨rule, member, _, rfl⟩ := tells.raised label named
    exact List.mem_map_of_mem member
  · exact List.ne_nil_of_length_pos tells.named

/-- The line of a report gives its labels back: those of every list of labels from the catalogue,
and so those of every rejection. Different labels are therefore never written as the same line, and
the line is one line. -/
theorem report_line_gives_labels_back :
    (∀ report : Report, report.Catalogued → report.labels ≠ [] →
      Report.labelsIn? report.message = some report.labels) ∧
    (∀ (text : String) (report : Report), Decision.scan text = .reject report →
      report.Catalogued ∧ report.labels ≠ [] ∧
        Report.labelsIn? report.message = some report.labels) ∧
    (∀ one other : Report, one.Catalogued → other.Catalogued → one.labels ≠ other.labels →
      one.message ≠ other.message) ∧
    ∀ report : Report, report.Catalogued → SingleLine report.message := by
  refine ⟨?_, ?_, ?_, ?_⟩
  · intro report catalogued filled
    exact catalogued.labelsIn?_message filled
  · intro text report rejected
    obtain ⟨catalogued, filled⟩ := Decision.catalogued_of_scan rejected
    exact ⟨catalogued, filled, catalogued.labelsIn?_message filled⟩
  · intro one other first second different same
    exact different (first.labels_eq_of_message_eq second same)
  · intro report catalogued
    exact catalogued.singleLine_message

/-- Quotes, apostrophes and colons in the labels do no harm, and the order of the labels is told. -/
theorem quoted_labels_are_given_back :
    let text := "I'll tidy up later. // TODO"
    let report : Report := ⟨["Deferral: \"I'll X later\"", "Code marker: TODO"]⟩
    let turned : Report := ⟨["Code marker: TODO", "Deferral: \"I'll X later\""]⟩
    Decision.scan text = .reject report ∧
      Report.labelsIn? report.message = some report.labels ∧ turned.Catalogued ∧
      turned.message ≠ report.message ∧ SingleLine turned.message := by
  intro text report turned
  obtain ⟨_, scanned, apart, single⟩ := report_line_gives_labels_back
  have rejected : Decision.scan text = .reject report := by decide +kernel
  obtain ⟨catalogued, _, read⟩ := scanned text report rejected
  have cataloguedToo : turned.Catalogued := by decide +kernel
  exact ⟨rejected, read, cataloguedToo,
    apart turned report cataloguedToo catalogued (by decide), single turned cataloguedToo⟩

end ResponseGate
