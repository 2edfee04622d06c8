import ResponseGate.Proofs.CatalogueMatching

/-!
What a report names. Its labels stand in the order of the first rules that match under them, each
one once, and a label is left out only behind five others that come before it in that order.
-/

namespace ResponseGate

variable {rules : List Rule} {rule : Rule} {text label first second : String} {index other : Nat}

/-! ### First occurrences -/

/-- What is first among the chosen ones is what is chosen among the first ones. -/
theorem eraseDups_filter {α : Type} [BEq α] [LawfulBEq α] (chosen : α → Bool) (items : List α) :
    (items.filter chosen).eraseDups = items.eraseDups.filter chosen := by
  match items with
  | [] => rfl
  | item :: items =>
    -- Erasing drops the later copies of the item first, so the induction is on the length.
    have others := eraseDups_filter chosen (items.filter fun later => !later == item)
    rw [List.eraseDups_cons]
    by_cases kept : chosen item = true
    · have swapped : (items.filter chosen).filter (fun later => !later == item) =
          (items.filter fun later => !later == item).filter chosen := by
        simp only [List.filter_filter, Bool.and_comm]
      rw [List.filter_cons_of_pos kept, List.filter_cons_of_pos kept, List.eraseDups_cons, ← others,
        swapped]
    · have same : (items.filter fun later => !later == item).filter chosen =
          items.filter chosen := by
        rw [List.filter_filter]
        apply List.filter_congr
        intro later _
        by_cases equal : later = item
        · simp [equal, kept]
        · simp [equal]
      rw [List.filter_cons_of_neg kept, List.filter_cons_of_neg kept, ← others, same]
termination_by items.length
decreasing_by
  exact Nat.lt_succ_of_le (List.length_filter_le _ _)

/-! ### First rules -/

/-- The rule matches the text and is reported under the label. -/
def Rule.Raises (rule : Rule) (text label : String) : Prop :=
  rule.isMatch text = true ∧ rule.label = label

/-- The index of the first rule that matches the text under the label. -/
structure RaisedFirst (rules : List Rule) (text label : String) (index : Nat) : Prop where
  raised : ∃ rule, rules[index]? = some rule ∧ rule.Raises text label
  first : ∀ earlier < index, ∀ rule, rules[earlier]? = some rule → ¬ rule.Raises text label

/-- The first rule that matches under the one label stands before the first that matches under the
other. -/
def RaisedBefore (rules : List Rule) (text first second : String) : Prop :=
  ∃ index other, RaisedFirst rules text first index ∧ RaisedFirst rules text second other ∧
    index < other

theorem RaisedFirst.unique (one : RaisedFirst rules text label index)
    (two : RaisedFirst rules text label other) : index = other := by
  obtain ⟨rule, here, raises⟩ := one.raised
  obtain ⟨rival, there, raisesToo⟩ := two.raised
  rcases Nat.lt_trichotomy index other with before | same | behind
  · exact absurd raises (two.first index before rule here)
  · exact same
  · exact absurd raisesToo (one.first other behind rival there)

theorem RaisedFirst.zero (raises : rule.Raises text label) :
    RaisedFirst (rule :: rules) text label 0 where
  raised := ⟨rule, rfl, raises⟩
  first := by simp

/-- A rule in front that is silent about the label moves its first rule one further. -/
theorem RaisedFirst.succ (silent : ¬ rule.Raises text label)
    (raised : RaisedFirst rules text label index) :
    RaisedFirst (rule :: rules) text label (index + 1) where
  raised := by simpa using raised.raised
  first := by
    intro earlier before found here
    cases earlier with
    | zero =>
      rw [List.getElem?_cons_zero, Option.some_inj] at here
      rwa [← here]
    | succ earlier =>
      rw [List.getElem?_cons_succ] at here
      exact raised.first earlier (Nat.lt_of_succ_lt_succ before) found here

theorem RaisedBefore.ne (before : RaisedBefore rules text first second) : first ≠ second := by
  rintro rfl
  obtain ⟨index, other, one, two, less⟩ := before
  exact Nat.ne_of_lt less (one.unique two)

theorem RaisedBefore.cons (one : ¬ rule.Raises text first) (two : ¬ rule.Raises text second)
    (before : RaisedBefore rules text first second) :
    RaisedBefore (rule :: rules) text first second := by
  obtain ⟨index, other, begins, follows, less⟩ := before
  exact ⟨index + 1, other + 1, begins.succ one, follows.succ two, Nat.succ_lt_succ less⟩

/-! ### Matched labels -/

namespace Decision

theorem matchedLabels_cons_of_match (found : rule.isMatch text = true) :
    matchedLabels (rule :: rules) text = rule.label :: matchedLabels rules text := by
  rw [Rule.isMatch] at found
  simp [matchedLabels, found]

theorem matchedLabels_cons_of_no_match (missed : rule.isMatch text = false) :
    matchedLabels (rule :: rules) text = matchedLabels rules text := by
  rw [Rule.isMatch] at missed
  simp [matchedLabels, missed]

theorem mem_matchedLabels_iff :
    label ∈ matchedLabels rules text ↔ ∃ rule ∈ rules, rule.Raises text label := by
  simp only [matchedLabels, List.mem_map, List.mem_filter, Rule.Raises, Rule.isMatch, and_assoc]

theorem exists_raisedFirst (matched : label ∈ matchedLabels rules text) :
    ∃ index, RaisedFirst rules text label index := by
  induction rules with
  | nil => simp [matchedLabels] at matched
  | cons rule rules ih =>
    by_cases raises : rule.Raises text label
    · exact ⟨0, .zero raises⟩
    · obtain ⟨found, member, raised⟩ := mem_matchedLabels_iff.mp matched
      rcases List.mem_cons.mp member with rfl | member
      · exact absurd raised raises
      · obtain ⟨index, first⟩ := ih (mem_matchedLabels_iff.mpr ⟨found, member, raised⟩)
        exact ⟨index + 1, first.succ raises⟩

/-- Each matched label once, in the order of the first rules that match under them. -/
theorem eraseDups_matchedLabels_pairwise (rules : List Rule) (text : String) :
    (matchedLabels rules text).eraseDups.Pairwise (RaisedBefore rules text) := by
  induction rules with
  | nil => exact .nil
  | cons rule rules ih =>
    cases found : rule.isMatch text with
    | false =>
      have silent (label : String) : ¬ rule.Raises text label := by simp [Rule.Raises, found]
      rw [matchedLabels_cons_of_no_match found]
      exact ih.imp fun before => before.cons (silent _) (silent _)
    | true =>
      have silent {label : String} (other : label ≠ rule.label) : ¬ rule.Raises text label :=
        fun raises => other raises.2.symm
      rw [matchedLabels_cons_of_match found, List.eraseDups_cons, eraseDups_filter,
        List.pairwise_cons]
      constructor
      · intro label kept
        obtain ⟨member, other⟩ := List.mem_filter.mp kept
        obtain ⟨index, raised⟩ := exists_raisedFirst (List.mem_eraseDups.mp member)
        exact ⟨0, index + 1, .zero ⟨found, rfl⟩, raised.succ (silent (by simpa using other)),
          Nat.succ_pos _⟩
      · apply (ih.filter _).imp_of_mem
        intro first second one two before
        have unlikeFirst := (List.mem_filter.mp one).2
        have unlikeSecond := (List.mem_filter.mp two).2
        exact before.cons (silent (by simpa using unlikeFirst))
          (silent (by simpa using unlikeSecond))

/-- A text is approved when no label was matched, and is reported otherwise. -/
theorem scanWith_cases (rules : List Rule) (text : String) :
    (matchedLabels rules text = [] ∧ scanWith rules text = .approve) ∨
      (matchedLabels rules text ≠ [] ∧
        scanWith rules text = .reject (Report.ofLabels (matchedLabels rules text))) := by
  unfold scanWith
  cases matchedLabels rules text with
  | nil => exact .inl ⟨rfl, rfl⟩
  | cons label others => exact .inr ⟨List.cons_ne_nil _ _, rfl⟩

end Decision

/-! ### Reports -/

/-- What a report tells of the rules that match a text. -/
structure Report.Tells (report : Report) (rules : List Rule) (text : String) : Prop where
  named : 1 ≤ report.labels.length
  limited : report.labels.length ≤ 5
  distinct : report.labels.Nodup
  raised : ∀ label ∈ report.labels, ∃ rule ∈ rules, rule.Raises text label
  ordered : report.labels.Pairwise (RaisedBefore rules text)
  /-- Nothing is left out as long as there is room. -/
  crowded : ∀ rule ∈ rules, rule.isMatch text = true → rule.label ∉ report.labels →
    report.labels.length = 5 ∧ ∀ label ∈ report.labels, RaisedBefore rules text label rule.label

theorem Report.ofLabels_tells (matched : Decision.matchedLabels rules text ≠ []) :
    (Report.ofLabels (Decision.matchedLabels rules text)).Tells rules text := by
  have order := Decision.eraseDups_matchedLabels_pairwise rules text
  have members (label : String) : label ∈ (Decision.matchedLabels rules text).eraseDups ↔ _ :=
    List.mem_eraseDups.trans Decision.mem_matchedLabels_iff
  have filled : (Decision.matchedLabels rules text).eraseDups ≠ [] := by
    obtain ⟨label, member⟩ := List.exists_mem_of_ne_nil _ matched
    exact List.ne_nil_of_mem (List.mem_eraseDups.mpr member)
  unfold ofLabels maxLabels
  generalize (Decision.matchedLabels rules text).eraseDups = labels at order members filled
  have positive := List.length_pos_iff.mpr filled
  have kept := order.sublist (List.take_sublist 5 labels)
  constructor
  case named =>
    rw [List.length_take]
    omega
  case limited => exact List.length_take_le 5 labels
  case distinct => exact kept.imp RaisedBefore.ne
  case raised =>
    intro label member
    exact (members label).mp (List.mem_of_mem_take member)
  case ordered => exact kept
  case crowded =>
    intro rule member found omitted
    have present := (members rule.label).mpr ⟨rule, member, found, rfl⟩
    rw [← List.take_append_drop 5 labels] at present order
    have behind := (List.mem_append.mp present).resolve_left omitted
    constructor
    · have more := List.length_pos_of_mem behind
      rw [List.length_drop] at more
      rw [List.length_take]
      omega
    · intro label before
      exact (List.pairwise_append.mp order).2.2 label before rule.label behind

theorem Decision.tells_of_reject {report : Report}
    (rejected : scanWith rules text = .reject report) :
    report.Tells rules text := by
  rcases scanWith_cases rules text with ⟨_, approved⟩ | ⟨matched, decided⟩
  · rw [approved] at rejected
    cases rejected
  · rw [decided] at rejected
    cases rejected
    exact Report.ofLabels_tells matched

/-- Labels in the order in which the rules declare them. -/
def DeclaredBefore (rules : List Rule) (first second : String) : Prop :=
  (rules.map Rule.label).idxOf first < (rules.map Rule.label).idxOf second

/-- A part of the catalogue approves what none of its rules match and otherwise tells of the first
rules that do. That order need not be the one in which the labels are declared, for two kinds of
comment signs share theirs. -/
theorem report_tells_first_matches (text : String) (start finish : Nat) :
    let rules := Catalogue.rules.extract start finish
    (Decision.scanWith rules text = .approve ↔ ∀ rule ∈ rules, rule.isMatch text = false) ∧
    (Decision.scanWith rules text = .approve ∨
      ∃ report, Decision.scanWith rules text = .reject report ∧ report.Tells rules text) ∧
    ∃ response report, Decision.scan response = .reject report ∧
      ¬ report.labels.Pairwise (DeclaredBefore Catalogue.rules) := by
  intro rules
  refine ⟨?_, ?_, ?_⟩
  · simp only [Decision.scanWith_eq_approve_iff, ← Rule.isMatch_iff_occurs, Bool.not_eq_true]
  · cases decision : Decision.scanWith rules text with
    | approve => exact .inl rfl
    | reject report => exact .inr ⟨report, rfl, Decision.tells_of_reject decision⟩
  · -- The shell comment matches behind the other one but carries the label declared first.
    refine ⟨"// FIXME\n# TODO", ⟨["Code marker: FIXME", "Code marker: TODO"]⟩,
      by decide +kernel, ?_⟩
    rw [List.pairwise_pair]
    unfold DeclaredBefore
    decide +kernel

end ResponseGate
