import ResponseGate.Proofs.ExitStatus

/-!
The events of one stop. A more verbose stop is the same stop: it writes more events in front of the
same report. Which events there are is told by the payload, by the lines the search passed over and
by what it came to, and the last of them says how the stop ended.
-/

namespace ResponseGate

/-! ### Events of a search -/

/-- Lines that hold no turn, newest first, with the events they are reported with: one for each line
that is neither blank nor a record. -/
inductive PassedOver : List (List UInt8) → List Event → Prop where
  | nil : PassedOver [] []
  | blank {line : List UInt8} {lines : List (List UInt8)} {events : List Event}
      (blank : line.all Text.isBlankByte = true) (others : PassedOver lines events) :
      PassedOver (line :: lines) events
  | malformed {line : List UInt8} {error : RecordError} {lines : List (List UInt8)}
      {events : List Event} (filled : line.all Text.isBlankByte = false)
      (read : Record.ofLine line = .error error) (others : PassedOver lines events) :
      PassedOver (line :: lines) (.malformedLine error :: events)
  | other {line : List UInt8} {record : Record} {lines : List (List UInt8)} {events : List Event}
      (read : Record.ofLine line = .ok record) (role : record.role = .other)
      (others : PassedOver lines events) : PassedOver (line :: lines) events

/-- What a search over lines and read faults, newest first, comes to and what it reports. -/
inductive Searched : List (Except ReadFault (List UInt8)) → Extraction → List Event → Prop where
  | decided {passed : List (List UInt8)} {events : List Event} {line : List UInt8} {record : Record}
      (older : List (Except ReadFault (List UInt8))) (walked : PassedOver passed events)
      (turn : Record.IsTurn line record) :
      Searched (passed.map .ok ++ .ok line :: older) (.ofTexts record.texts) events
  | failed {passed : List (List UInt8)} {events : List Event} (fault : ReadFault)
      (older : List (Except ReadFault (List UInt8))) (walked : PassedOver passed events) :
      Searched (passed.map .ok ++ .error fault :: older) (.nothing .transcriptUnavailable)
        (events ++ [.readFailed fault])
  | exhausted {passed : List (List UInt8)} {events : List Event}
      (walked : PassedOver passed events) :
      Searched (passed.map .ok) (.nothing .noAssistantTurn) events

variable {line : List UInt8} {lines : List (Except ReadFault (List UInt8))}
  {extraction : Extraction}
  {events noted : List Event} {event : Option Event}

theorem PassedOver.cons_of_skipped (skipped : Finding.ofLine (.ok line) = .skipped event)
    {lines : List (List UInt8)} (others : PassedOver lines events) :
    PassedOver (line :: lines) (event.toList ++ events) := by
  unfold Finding.ofLine at skipped
  dsimp only at skipped
  split at skipped
  · rename_i blank
    cases skipped
    exact .blank blank others
  · rename_i filled
    split at skipped
    · rename_i error read
      cases skipped
      exact .malformed (Bool.eq_false_iff.mpr filled) read others
    · rename_i record read
      unfold Finding.ofRecord at skipped
      split at skipped
      · cases skipped
      · rename_i role
        cases skipped
        exact .other read role others

theorem Finding.isTurn_of_decided
    (decided : Finding.ofLine (.ok line) = .decided extraction event) :
    ∃ record, Record.IsTurn line record ∧ extraction = .ofTexts record.texts ∧ event = none := by
  unfold Finding.ofLine at decided
  dsimp only at decided
  split at decided
  · cases decided
  · split at decided
    · cases decided
    · rename_i record read
      unfold Finding.ofRecord at decided
      split at decided
      · rename_i role
        cases decided
        refine ⟨record, ⟨read, Record.role_eq_assistant_iff.mp role⟩, ?_, rfl⟩
        rw [Record.text_eq_joinTexts, Extraction.ofText_joinTexts]
      · cases decided

/-- A line that is passed over adds its event in front. -/
theorem Searched.cons_of_skipped (skipped : Finding.ofLine (.ok line) = .skipped event)
    (searched : Searched lines extraction events) :
    Searched (.ok line :: lines) extraction (event.toList ++ events) := by
  cases searched with
  | decided older walked turn => exact .decided older (.cons_of_skipped skipped walked) turn
  | failed fault older walked =>
    rw [← List.append_assoc]
    exact .failed fault older (.cons_of_skipped skipped walked)
  | exhausted walked => exact .exhausted (.cons_of_skipped skipped walked)

/-- A search reports what the lines it passed over call for, behind what was noted before. -/
theorem Search.exists_searched (noted : List Event) (lines : List (Except ReadFault (List UInt8))) :
    ∃ found, Searched lines (linesFrom noted lines).extraction found ∧
      (linesFrom noted lines).events = noted.reverse ++ found := by
  induction lines generalizing noted with
  | nil => exact ⟨[], .exhausted .nil, (List.append_nil _).symm⟩
  | cons line older ih =>
    rw [linesFrom]
    cases found : Finding.ofLine line with
    | skipped event =>
      cases line with
      | error fault => cases found
      | ok line =>
        obtain ⟨events, searched, reported⟩ := ih (event.toList ++ noted)
        refine ⟨event.toList ++ events, .cons_of_skipped found searched, ?_⟩
        dsimp only
        rw [reported]
        cases event with
        | none => rfl
        | some event => simp
    | decided extraction event =>
      cases line with
      | error fault =>
        cases found
        exact ⟨[.readFailed fault], .failed fault older .nil, by simp [conclude]⟩
      | ok line =>
        obtain ⟨record, turn, rfl, rfl⟩ := Finding.isTurn_of_decided found
        exact ⟨[], .decided older .nil turn, (List.append_nil _).symm⟩

theorem Reader.search_searched (reader : Reader) :
    Searched reader.results reader.search.extraction reader.search.events := by
  obtain ⟨found, searched, reported⟩ := Search.exists_searched [] reader.results
  rw [Reader.search, Reader.searchFrom_eq_linesFrom, reported]
  exact searched

/-! ### Events of a stop -/

/-- How a stop ends by what its search came to: the verdict, and the events that tell of it. -/
inductive Ending : Extraction → Verdict → List Event → Prop where
  | skipping (reason : SkipReason) : Ending (.nothing reason) (.skipped reason) [.skipping reason]
  | nothingFound {text : String} (clean : Decision.matchedLabels Catalogue.rules text = []) :
      Ending (.response text) (.judged text .approve) [.nothingFound]
  | rejecting {text : String} {labels : List String}
      (matched : Decision.matchedLabels Catalogue.rules text = labels) (filled : labels ≠ []) :
      Ending (.response text) (.judged text (.reject (Report.ofLabels labels)))
        [.matched labels, .rejecting (Report.ofLabels labels).labels]

/-- What a stop that searches a source comes to and reports. -/
inductive Followed (path : String) (source : Source) (chunk : Nat) :
    Verdict → List Event → Prop where
  | unseekable {fault : ReadFault} (refused : Reader.ofSource source chunk = .error fault) :
      Followed path source chunk (.skipped .transcriptUnavailable)
        [.unavailable path (.unseekable fault), .skipping .transcriptUnavailable]
  | searched {reader : Reader} {extraction : Extraction} {verdict : Verdict}
      {found last : List Event} (opened : Reader.ofSource source chunk = .ok reader)
      (searched : Searched reader.results extraction found)
      (ending : Ending extraction verdict last) :
      Followed path source chunk verdict (found ++ last)

/-- The path leads to no file that can be opened, for this reason. -/
inductive Closed (contents : String → FileState) (path : String) : OpenFault → Prop where
  | nulInName (nul : '\x00' ∈ path.toList) : Closed contents path .nulInName
  | refused {fault : OpenFault} (named : '\x00' ∉ path.toList)
      (refused : contents path = .error fault) :
      Closed contents path fault

/-- What a whole stop comes to and reports. -/
inductive Chronicle (contents : String → FileState) (stream : Stream) :
    Verdict → List Event → Prop where
  | refused {error : PayloadError} (refused : Payload.ofStream stream = .error error) :
      Chronicle contents stream (.refused error) []
  | skipped {payload : Payload} {reason : SkipReason}
      (accepted : Payload.ofStream stream = .ok payload)
      (skips : payload.resolve = .skip reason) :
      Chronicle contents stream (.skipped reason) [.skipping reason]
  | unopened {payload : Payload} {path : String} {fault : OpenFault}
      (accepted : Payload.ofStream stream = .ok payload)
      (proceeds : payload.resolve = .proceed path)
      (closed : Closed contents path fault) :
      Chronicle contents stream (.skipped .transcriptUnavailable)
        [.unavailable path fault, .skipping .transcriptUnavailable]
  | searched {payload : Payload} {path : String} {bytes : ByteArray} {extraction : Extraction}
      {verdict : Verdict} {found last : List Event}
      (accepted : Payload.ofStream stream = .ok payload)
      (proceeds : payload.resolve = .proceed path)
      (readable : Readable contents path bytes)
      (searched : Searched ((forwardLines bytes.data.toList).reverse.map .ok) extraction found)
      (ending : Ending extraction verdict last) : Chronicle contents stream verdict (found ++ last)

variable {contents : String → FileState} {stream : Stream}

theorem Ending.of_response (text : String) :
    Ending (.response text) (.judged text (Decision.scan text))
      (Gate.decisionEvents text (Decision.scan text)) := by
  rw [Decision.scan, Decision.scanWith]
  cases matched : Decision.matchedLabels Catalogue.rules text with
  | nil => exact .nothingFound matched
  | cons label others =>
    rw [Decision.ofMatched, Gate.decisionEvents, matched]
    exact .rejecting matched (List.cons_ne_nil _ _)

theorem Gate.exists_ending (span : Span) (search : Search) :
    ∃ last, Ending search.extraction (conclude span search).verdict last ∧
      (conclude span search).events = search.events ++ last := by
  unfold conclude
  cases search.extraction with
  | nothing reason => exact ⟨_, .skipping reason, rfl⟩
  | response text => exact ⟨_, .of_response text, rfl⟩

/-- Whatever source is searched, the events follow from what its reader gives. -/
theorem Gate.conclude_followed (span : Span) (path : String) (source : Source) (chunk : Nat) :
    let outcome := conclude span (Search.source path source chunk)
    Followed path source chunk outcome.verdict outcome.events := by
  intro outcome
  unfold outcome
  cases opened : Reader.ofSource source chunk with
  | error fault =>
    have search : Search.source path source chunk =
        ⟨.nothing .transcriptUnavailable, [.unavailable path (.unseekable fault)]⟩ := by
      rw [Search.source, opened]
    rw [search]
    exact .unseekable opened
  | ok reader =>
    have search : Search.source path source chunk = reader.search := by rw [Search.source, opened]
    obtain ⟨last, ending, events⟩ := exists_ending span reader.search
    rw [search, events]
    exact .searched opened reader.search_searched ending

theorem Gate.closed_of_openFile {path : String} {fault : OpenFault}
    (refused : Gate.openFile (m := Id) contents path = .error fault) :
    Closed contents path fault := by
  unfold Gate.openFile at refused
  by_cases nul : '\x00' ∈ path.toList
  · rw [if_pos (by simpa using nul)] at refused
    cases refused
    exact .nulInName nul
  · rw [if_neg (by simpa using nul)] at refused
    exact .refused nul refused

theorem Gate.run_chronicle (contents : String → FileState) (stream : Stream) :
    Chronicle contents stream (run contents stream).verdict (run contents stream).events := by
  cases success : Payload.ofStream stream with
  | error error =>
    rw [run_of_error success]
    exact .refused success
  | ok payload =>
    cases resolved : payload.resolve with
    | skip reason =>
      rw [run_of_skip success resolved]
      exact .skipped success resolved
    | proceed path =>
      rw [run_of_proceed success resolved]
      cases opened : Gate.openFile (m := Id) contents path with
      | error fault => exact .unopened success resolved (closed_of_openFile opened)
      | ok bytes =>
        obtain ⟨reader, begun, results⟩ :=
          Reader.results_of_ofBytes bytes Reader.defaultChunk
        have search : Search.file path (.ok bytes) = reader.search := by
          rw [Search.file, Search.source, begun]
        obtain ⟨last, ending, events⟩ := exists_ending (spanOf payload) reader.search
        have searched := reader.search_searched
        rw [results] at searched
        rw [search, events]
        exact .searched success resolved (openFile_eq_ok_iff.mp opened) searched ending

/-! ### The last event -/

/-- An event that tells of a transcript that could not be read, or not to its end. -/
def Event.isFault : Event → Bool
  | readFailed _ => true
  | unavailable _ _ => true
  | _ => false

/-- One event of the gate itself comes last, and no other is its own. It is grave where the stop is
rejected and comes right behind the labels that were matched. -/
inductive Signed (status : Nat) : List Event → Prop where
  | passing {earlier : List Event} {last : Event} (others : ∀ event ∈ earlier, event.origin ≠ .gate)
      (own : last.origin = .gate) (level : last.level = .debug) (passes : status = 0) :
      Signed status (earlier ++ [last])
  | rejecting {earlier : List Event} {labels : List String}
      (others : ∀ event ∈ earlier, event.origin ≠ .gate) (rejects : status = 2) :
      Signed status (earlier ++ [.matched labels, .rejecting (Report.ofLabels labels).labels])

theorem PassedOver.exists_error {passed : List (List UInt8)} (walked : PassedOver passed events) :
    ∀ event ∈ events, ∃ error, event = .malformedLine error := by
  induction walked with
  | nil => nofun
  | blank _ _ ih => exact ih
  | malformed _ _ _ ih => exact List.forall_mem_cons.mpr ⟨⟨_, rfl⟩, ih⟩
  | other _ _ _ ih => exact ih

theorem PassedOver.filter_isFault {passed : List (List UInt8)} (walked : PassedOver passed events) :
    events.filter Event.isFault = [] := by
  rw [List.filter_eq_nil_iff]
  intro event member
  obtain ⟨error, rfl⟩ := walked.exists_error event member
  exact Bool.false_ne_true

theorem Searched.origin (searched : Searched lines extraction events) :
    ∀ event ∈ events, event.origin = .transcript := by
  have passed {lines : List (List UInt8)} {events : List Event} (walked : PassedOver lines events) :
      ∀ event ∈ events, event.origin = .transcript := by
    intro event member
    obtain ⟨error, rfl⟩ := walked.exists_error event member
    rfl
  cases searched with
  | decided older walked turn => exact passed walked
  | failed fault older walked =>
    rw [List.forall_mem_append]
    exact ⟨passed walked, by simp [Event.origin]⟩
  | exhausted walked => exact passed walked

/-- No search reports more than one fault. -/
theorem Searched.length_filter_isFault (searched : Searched lines extraction events) :
    (events.filter Event.isFault).length ≤ 1 := by
  cases searched with
  | decided older walked turn => simp [walked.filter_isFault]
  | failed fault older walked =>
    rw [List.filter_append, walked.filter_isFault]
    exact Nat.le_refl 1
  | exhausted walked => simp [walked.filter_isFault]

theorem Ending.filter_isFault {verdict : Verdict} {last : List Event}
    (ending : Ending extraction verdict last) : last.filter Event.isFault = [] := by
  cases ending <;> rfl

theorem Ending.signed {verdict : Verdict} {last : List Event}
    (ending : Ending extraction verdict last)
    (transcript : ∀ event ∈ events, event.origin = .transcript) :
    Signed verdict.exitCode (events ++ last) := by
  have others (event : Event) (member : event ∈ events) : event.origin ≠ .gate := by
    rw [transcript event member]
    decide
  cases ending with
  | skipping reason => exact .passing others rfl rfl rfl
  | nothingFound clean => exact .passing others rfl rfl rfl
  | rejecting matched filled => exact .rejecting others rfl

theorem Event.origin_of_warn {event : Event} (grave : event.level = .warn) :
    event.origin = .gate := by
  cases event with
  | rejecting labels => rfl
  | _ => cases grave

theorem Signed.exists_warn_iff {status : Nat} (signed : Signed status events) :
    (∃ event ∈ events, event.level = .warn) ↔ status = 2 := by
  cases signed with
  | @passing earlier last others own level passes =>
    constructor
    · rintro ⟨event, member, grave⟩
      rcases List.mem_append.mp member with before | here
      · exact absurd (Event.origin_of_warn grave) (others event before)
      · rw [List.mem_singleton.mp here, level] at grave
        cases grave
    · intro rejects
      rw [passes] at rejects
      cases rejects
  | @rejecting earlier labels others rejects =>
    constructor
    · exact fun _ => rejects
    · exact fun _ => ⟨.rejecting (Report.ofLabels labels).labels, by simp, rfl⟩

theorem Searched.signed_append {verdict : Verdict} {last : List Event}
    (searched : Searched lines extraction events) (ending : Ending extraction verdict last) :
    Signed verdict.exitCode (events ++ last) ∧
      ((events ++ last).filter Event.isFault).length ≤ 1 := by
  refine ⟨ending.signed searched.origin, ?_⟩
  rw [List.filter_append, ending.filter_isFault, List.append_nil]
  exact searched.length_filter_isFault

theorem signed_of_unavailable (path : String) (fault : OpenFault) :
    Signed (Verdict.skipped .transcriptUnavailable).exitCode
      [.unavailable path fault, .skipping .transcriptUnavailable] := by
  refine @Signed.passing _ [.unavailable path fault] _ ?_ rfl rfl rfl
  simp [Event.origin]

theorem Followed.signed {path : String} {source : Source} {chunk : Nat} {verdict : Verdict}
    (followed : Followed path source chunk verdict events) :
    Signed verdict.exitCode events ∧ (events.filter Event.isFault).length ≤ 1 := by
  cases followed with
  | unseekable refused => exact ⟨signed_of_unavailable path _, Nat.le_refl 1⟩
  | searched opened searched ending => exact searched.signed_append ending

theorem Chronicle.signed {verdict : Verdict} (chronicle : Chronicle contents stream verdict events)
    (accepted : ∃ payload, Payload.ofStream stream = .ok payload) :
    Signed verdict.exitCode events ∧ (events.filter Event.isFault).length ≤ 1 := by
  cases chronicle with
  | refused refused =>
    obtain ⟨payload, accepted⟩ := accepted
    rw [refused] at accepted
    cases accepted
  | skipped accepted skips =>
    exact ⟨@Signed.passing _ [] _ nofun rfl rfl rfl, Nat.zero_le 1⟩
  | unopened accepted proceeds closed => exact ⟨signed_of_unavailable _ _, Nat.le_refl 1⟩
  | searched accepted proceeds readable searched ending => exact searched.signed_append ending

/-! ### Verbosity -/

def Verbosity.rank : Verbosity → Nat
  | none => 0
  | some level => level.rank

theorem Verbosity.admits_eq (verbosity : Verbosity) (level : Level) :
    verbosity.admits level = decide (level.rank ≤ verbosity.rank) := by
  cases verbosity with
  | none => cases level <;> rfl
  | some least => rfl

theorem Verbosity.admitted_trace (events : List Event) :
    admitted (some .trace) events = events := by
  rw [admitted, List.filter_eq_self]
  intro event _
  rw [admits_eq]
  cases event <;> rfl

/-- Verbosity decides which events are written and about nothing else. -/
structure Outcome.Transparent (outcome : Outcome) : Prop where
  status : ∀ less more, (outcome.reaction less).exitCode = (outcome.reaction more).exitCode
  output : ∀ less more, (outcome.reaction less).output = (outcome.reaction more).output
  errors : ∀ verbosity : Verbosity, (outcome.reaction verbosity).errors =
    String.join ((verbosity.admitted outcome.events).map fun event =>
      verbosity.line outcome.span event ++ "\n") ++
    (outcome.verdict.report?.map (· ++ "\n")).getD ""
  events : ∀ less more : Verbosity, less.rank ≤ more.rank →
    less.admitted outcome.events =
      (more.admitted outcome.events).filter fun event => less.admits event.level
  trace : Verbosity.admitted (some .trace) outcome.events = outcome.events

theorem Outcome.transparent (outcome : Outcome) : outcome.Transparent := by
  refine ⟨fun _ _ => rfl, fun _ _ => rfl, ?_, ?_, Verbosity.admitted_trace _⟩
  · intro verbosity
    show String.join ((outcome.errorLines verbosity).map (· ++ "\n")) = _
    rw [errorLines, List.map_append, String.join_append, List.map_map, join_toList_map]
    rfl
  · intro less more below
    rw [Verbosity.admitted, Verbosity.admitted, List.filter_filter]
    apply List.filter_congr
    intro event _
    rw [Verbosity.admits_eq, Verbosity.admits_eq]
    by_cases fits : event.level.rank ≤ less.rank
    · simp [fits, Nat.le_trans fits below]
    · simp [fits]

/-! ### Whole stops -/

/-- How the events of a stop tell of its end. -/
structure Outcome.SignedOff (outcome : Outcome) : Prop where
  last : Signed outcome.verdict.exitCode outcome.events
  warning : (∃ event ∈ outcome.events, event.level = .warn) ↔ outcome.verdict.exitCode = 2
  faults : (outcome.events.filter Event.isFault).length ≤ 1

/-- Tracing does not interfere. At any two verbosities a stop has the same status, the same output
and the same report behind its events, and the less verbose one writes those events of the other
that it admits. All events together tell the story of the stop: none where the payload is refused,
then those of the lines that were passed over, at most one fault, and as the last one how it ended.
The same holds of a search over a source that fails. -/
theorem Gate.tracing_does_not_interfere (contents : String → FileState) (stream : Stream) :
    let outcome := Gate.run contents stream
    outcome.Transparent ∧ Chronicle contents stream outcome.verdict outcome.events ∧
      ((∃ payload, Payload.ofStream stream = .ok payload) → outcome.SignedOff) ∧
      ∀ (span : Span) (path : String) (source : Source) (chunk : Nat),
        let searched := Gate.conclude span (Search.source path source chunk)
        searched.Transparent ∧ Followed path source chunk searched.verdict searched.events ∧
          searched.SignedOff := by
  intro outcome
  refine ⟨outcome.transparent, Gate.run_chronicle contents stream, ?_, ?_⟩
  · intro accepted
    obtain ⟨last, faults⟩ := (Gate.run_chronicle contents stream).signed accepted
    exact ⟨last, last.exists_warn_iff, faults⟩
  · intro span path source chunk searched
    have followed : Followed path source chunk searched.verdict searched.events :=
      Gate.conclude_followed span path source chunk
    obtain ⟨last, faults⟩ := followed.signed
    exact ⟨searched.transparent, followed, last, last.exists_warn_iff, faults⟩

/-- A torn line is told of at the trace level alone, and that the turn has no text from debug on. -/
theorem torn_line_is_told_at_trace :
    let stream : Stream := { bytes := "\x7b\"transcript_path\":\"log\"\x7d".toUTF8 }
    let turn := "\x7b\"type\":\"assistant\",\"message\":\x7b\"content\":[]\x7d\x7d"
    let outcome := Gate.run (fun _ => .ok (turn ++ "\n\x7b\"type\"").toUTF8) stream
    Verbosity.rank (some .debug) ≤ Verbosity.rank (some .trace) ∧
      Verbosity.admitted (some .debug) outcome.events =
        (Verbosity.admitted (some .trace) outcome.events).filter
          (fun event => Verbosity.admits (some .debug) event.level) ∧
      (Verbosity.admitted (some .debug) outcome.events).map Event.message =
        ["approving without scan reason=latest assistant turn has no text"] ∧
      (Verbosity.admitted (some .trace) outcome.events).map Event.message =
        ["skipping malformed transcript line err=<syntax>",
          "approving without scan reason=latest assistant turn has no text"] ∧
      outcome.SignedOff := by
  intro stream turn outcome
  have accepted : Payload.ofStream stream = .ok ⟨some "log", none, none, none⟩ := by
    unfold stream
    rfl
  have told :=
    Gate.tracing_does_not_interfere (fun _ => .ok (turn ++ "\n\x7b\"type\"").toUTF8) stream
  refine ⟨by decide, told.1.events (some .debug) (some .trace) (by decide), ?_, ?_,
    told.2.2.1 ⟨_, accepted⟩⟩
  · decide +kernel
  · decide +kernel

end ResponseGate
