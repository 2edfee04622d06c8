import Mathlib.Data.List.Perm.Subperm
import ResponseGate.Proofs.ReportedLabels

/-!
Reports compose. What the reports on two lists of labels leave out, a report on both lists leaves
out as well, so the reports on two parts of the rules make up the report on the whole.
-/

namespace ResponseGate

/-! ### Distinct items -/

section

variable {α : Type} [BEq α] [LawfulBEq α] {items seen : List α} {limit room : Nat}

theorem nodup_eraseDups (items : List α) : items.eraseDups.Nodup := by
  match items with
  | [] => exact .nil
  | item :: items =>
    have others := nodup_eraseDups (items.filter fun later => !later == item)
    rw [List.eraseDups_cons, List.nodup_cons]
    refine ⟨?_, others⟩
    simp [List.mem_eraseDups]
termination_by items.length
decreasing_by
  exact Nat.lt_succ_of_le (List.length_filter_le _ _)

theorem eraseDups_of_nodup (distinct : items.Nodup) : items.eraseDups = items := by
  induction items with
  | nil => rfl
  | cons item items ih =>
    obtain ⟨fresh, others⟩ := List.nodup_cons.mp distinct
    have kept : items.filter (fun later => !later == item) = items := by
      apply List.filter_eq_self.mpr
      intro later member
      have other : later ≠ item := fun same => fresh (same ▸ member)
      simpa using other
    rw [List.eraseDups_cons, kept, ih others]

/-- Behind other items the distinct ones that are new are kept. -/
theorem eraseDups_append_eq (first second : List α) :
    (first ++ second).eraseDups =
      first.eraseDups ++ second.eraseDups.removeAll first.eraseDups := by
  have seen : second.removeAll first = second.removeAll first.eraseDups := by
    simp [List.removeAll]
  rw [List.eraseDups_append, seen]
  exact congrArg (first.eraseDups ++ ·) (eraseDups_filter _ second)

/-- Of distinct items no more can be seen already than there are seen ones. So a cut that leaves
room for all of these loses nothing of what comes first among the new ones. -/
theorem take_removeAll_take (distinct : items.Nodup) (enough : room + seen.length ≤ limit) :
    ((items.take limit).removeAll seen).take room = (items.removeAll seen).take room := by
  by_cases short : items.length ≤ limit
  · rw [List.take_of_length_le short]
  · have parts := List.length_eq_length_filter_add (l := items.take limit) seen.contains
    have old : ((items.take limit).filter seen.contains).length ≤ seen.length := by
      apply List.Subperm.length_le
      apply List.subperm_of_subset
      · exact (distinct.sublist (List.take_sublist limit items)).filter _
      · intro item member
        exact List.contains_iff_mem.mp (List.mem_filter.mp member).2
    have fresh : (items.take limit).removeAll seen =
        (items.take limit).filter fun item => !seen.contains item := rfl
    have full : room ≤ ((items.take limit).removeAll seen).length := by
      rw [fresh]
      rw [List.length_take] at parts
      omega
    have whole : items.removeAll seen =
        (items.take limit).removeAll seen ++ (items.drop limit).removeAll seen := by
      unfold List.removeAll
      rw [← List.filter_append, List.take_append_drop]
    rw [whole, List.take_append_of_le_length full]

/-- The first distinct items of two lists are among the first distinct ones of either. -/
theorem take_eraseDups_append (limit : Nat) (first second : List α) :
    (first ++ second).eraseDups.take limit =
      (first.eraseDups.take limit ++ second.eraseDups.take limit).eraseDups.take limit := by
  have firsts := nodup_eraseDups first
  have seconds := nodup_eraseDups second
  rw [eraseDups_append_eq, eraseDups_append_eq,
    eraseDups_of_nodup (firsts.sublist (List.take_sublist limit _)),
    eraseDups_of_nodup (seconds.sublist (List.take_sublist limit _))]
  generalize first.eraseDups = ones at firsts ⊢
  generalize second.eraseDups = others at seconds ⊢
  by_cases room : ones.length ≤ limit
  · have enough : limit - ones.length + ones.length ≤ limit := by omega
    rw [List.take_of_length_le room, List.take_append, List.take_append,
      take_removeAll_take seconds enough]
  · have full : limit ≤ ones.length := by omega
    have cut : limit ≤ (ones.take limit).length := by
      rw [List.length_take]
      omega
    rw [List.take_append_of_le_length full, List.take_append_of_le_length cut, List.take_take,
      Nat.min_self]

end

/-! ### Decisions -/

namespace Decision

/-- The labels a decision names. An approval names none. -/
def labels : Decision → List String
  | approve => []
  | reject report => report.labels

variable {rules : List Rule} {text : String} {matched others : List String}

theorem labels_scanWith (rules : List Rule) (text : String) :
    (scanWith rules text).labels = (Report.ofLabels (matchedLabels rules text)).labels := by
  rcases scanWith_cases rules text with ⟨none, approved⟩ | ⟨_, rejected⟩
  · rw [approved, none]
    rfl
  · rw [rejected]
    rfl

theorem matchedLabels_append (first second : List Rule) (text : String) :
    matchedLabels (first ++ second) text =
      matchedLabels first text ++ matchedLabels second text := by
  simp [matchedLabels]

/-- A decision depends on no more than the labels that its report names. -/
theorem ofMatched_congr
    (same : (Report.ofLabels matched).labels = (Report.ofLabels others).labels) :
    ofMatched matched = ofMatched others := by
  have report : Report.ofLabels matched = Report.ofLabels others := congrArg Report.mk same
  cases matched with
  | nil =>
    cases others with
    | nil => rfl
    | cons label others => simp [Report.ofLabels, Report.maxLabels, List.eraseDups_cons] at same
  | cons label matched =>
    cases others with
    | nil => simp [Report.ofLabels, Report.maxLabels, List.eraseDups_cons] at same
    | cons other others => exact congrArg reject report

end Decision

theorem Report.labels_ofLabels_append (first second : List String) :
    (ofLabels (first ++ second)).labels =
      (ofLabels ((ofLabels first).labels ++ (ofLabels second).labels)).labels :=
  take_eraseDups_append maxLabels first second

theorem Decision.scanWith_append (first second : List Rule) (text : String) :
    scanWith (first ++ second) text =
      ofMatched ((scanWith first text).labels ++ (scanWith second text).labels) := by
  rw [scanWith, matchedLabels_append, labels_scanWith, labels_scanWith]
  apply ofMatched_congr
  exact Report.labels_ofLabels_append _ _

theorem extract_append_extract {α : Type} (items : List α) {start middle finish : Nat}
    (first : start ≤ middle) (last : middle ≤ finish) :
    items.extract start middle ++ items.extract middle finish = items.extract start finish := by
  obtain ⟨one, rfl⟩ := Nat.exists_eq_add_of_le first
  obtain ⟨two, rfl⟩ := Nat.exists_eq_add_of_le last
  have whole : start + one + two - start = one + two := by omega
  simp only [List.extract_eq_take_drop, Nat.add_sub_cancel_left, whole]
  rw [List.take_add, List.drop_drop]

/-- A report on two lists of labels names what the reports on the one and the other, put together,
are reported as. So the decisions on two parts of the catalogue that lie side by side make up the
decision on both, although each of them keeps five labels at most. -/
theorem reports_compose :
    (∀ first second : List String, (Report.ofLabels (first ++ second)).labels =
      (Report.ofLabels
        ((Report.ofLabels first).labels ++ (Report.ofLabels second).labels)).labels) ∧
    ∀ (text : String) (start middle finish : Nat), start ≤ middle → middle ≤ finish →
      let early := Decision.scanWith (Catalogue.rules.extract start middle) text
      let late := Decision.scanWith (Catalogue.rules.extract middle finish) text
      let whole := Decision.scanWith (Catalogue.rules.extract start finish) text
      whole = Decision.ofMatched (early.labels ++ late.labels) ∧
        whole.labels = (Report.ofLabels (early.labels ++ late.labels)).labels := by
  refine ⟨Report.labels_ofLabels_append, ?_⟩
  intro text start middle finish first last early late whole
  have joined : whole = Decision.scanWith
      (Catalogue.rules.extract start middle ++ Catalogue.rules.extract middle finish) text := by
    rw [extract_append_extract _ first last]
  constructor
  · rw [joined]
    exact Decision.scanWith_append _ _ text
  · rw [joined, Decision.labels_scanWith, Decision.matchedLabels_append,
      Report.labels_ofLabels_append, ← Decision.labels_scanWith, ← Decision.labels_scanWith]

/-- The two kinds of comments are judged apart, and the label that both of them raise is named
once. -/
theorem shared_label_is_named_once :
    let text := "// FIXME // PLACEHOLDER # FIXME // HACK # TODO // XXX"
    25 ≤ 31 ∧ 31 ≤ 33 ∧
      (Decision.scanWith (Catalogue.rules.extract 31 33) text).labels =
        ["Code marker: TODO", "Code marker: FIXME"] ∧
      (Decision.scanWith (Catalogue.rules.extract 25 33) text).labels =
        ["Code marker: FIXME", "Code marker: PLACEHOLDER", "Code marker: HACK", "Code marker: XXX",
          "Code marker: TODO"] := by
  intro text
  have parts := (reports_compose.2 text 25 31 33 (by decide) (by decide)).2
  refine ⟨by decide, by decide, by decide +kernel, ?_⟩
  rw [parts]
  decide +kernel

end ResponseGate
