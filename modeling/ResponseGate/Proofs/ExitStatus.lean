import ResponseGate.Gate
import ResponseGate.Proofs.CatalogueMatching
import ResponseGate.Proofs.PayloadClasses
import ResponseGate.Proofs.Turns

/-!
The exit status of one stop. It is told from the whole payload and the whole transcript, read
forward: a payload that is not accepted fails the stop, deferral language in the newest turn rejects
it, and everything else lets it pass.
-/

namespace ResponseGate

variable {contents : String → FileState} {stream : Stream}

/-! ### What is judged -/

/-- A payload leads to a transcript where it is no retry and names one. -/
theorem Payload.resolve_eq_proceed_iff {payload : Payload} {path : String} :
    payload.resolve = .proceed path ↔
      payload.stopHookActive ≠ some true ∧ payload.transcriptPath = some path ∧ path ≠ "" := by
  have retrying : payload.alreadyRetrying = true ↔ payload.stopHookActive = some true := by
    unfold alreadyRetrying
    cases payload.stopHookActive <;> simp
  unfold resolve
  by_cases active : payload.stopHookActive = some true
  · simp [retrying, active]
  · rw [if_neg (mt retrying.mp active)]
    cases payload.transcriptPath with
    | none => simp
    | some named =>
      rw [Option.some.injEq]
      dsimp only
      by_cases empty : named = ""
      · rw [if_pos (String.isEmpty_iff.mpr empty)]
        constructor
        · intro proceeds
          cases proceeds
        · rintro ⟨_, rfl, nonempty⟩
          exact (nonempty empty).elim
      · rw [if_neg (mt String.isEmpty_iff.mp empty), Resolution.proceed.injEq]
        constructor
        · rintro rfl
          exact ⟨active, rfl, empty⟩
        · rintro ⟨_, same, _⟩
          exact same

theorem Extraction.ofTexts_eq_response_iff {texts : List String} {text : String} :
    Extraction.ofTexts texts = .response text ↔ texts ≠ [] ∧ text = joinTexts texts := by
  cases texts with
  | nil => simp [Extraction.ofTexts]
  | cons first others => simp [Extraction.ofTexts, eq_comm]

/-- A response is found exactly in the newest turn of a file that can be read. -/
theorem Search.extraction_file_eq_response_iff {path text : String} {file : FileState} :
    (Search.file path file).extraction = .response text ↔
      ∃ bytes record, file = .ok bytes ∧ NewestTurn bytes.data.toList record ∧
        record.texts ≠ [] ∧ text = joinTexts record.texts := by
  cases file with
  | error fault => simp [Search.file]
  | ok bytes =>
    simp only [Search.file, Search.extraction_source, Except.ok.injEq, exists_and_left,
      exists_eq_left', ← lastAssistant?_eq_some_iff_newestTurn]
    cases lastAssistant? bytes.data.toList with
    | none => simp
    | some record => simp [Extraction.ofTexts_eq_response_iff]

/-! ### Verdicts -/

/-- A line that there may be is written with its break, or nothing is. -/
theorem join_toList_map (line? : Option String) :
    String.join (line?.toList.map (· ++ "\n")) = (line?.map (· ++ "\n")).getD "" := by
  cases line? with
  | none => rfl
  | some line => simp [String.join_cons]

theorem Verdict.exitCode_eq_one_iff {verdict : Verdict} :
    verdict.exitCode = 1 ↔ ∃ error, verdict = .refused error := by
  unfold Verdict.exitCode
  split <;> simp

theorem Verdict.exitCode_eq_two_iff {verdict : Verdict} :
    verdict.exitCode = 2 ↔ ∃ text report, verdict = .judged text (.reject report) := by
  unfold Verdict.exitCode
  split <;> simp

theorem Verdict.exitCode_eq_zero_iff {verdict : Verdict} :
    verdict.exitCode = 0 ↔ verdict.exitCode ≠ 1 ∧ verdict.exitCode ≠ 2 := by
  unfold Verdict.exitCode
  split <;> simp

/-- A search ends in a rejection exactly when it found a response that offends. -/
theorem Gate.exists_conclude_eq_reject_iff {span : Span} {search : Search} :
    (∃ text report, (Gate.conclude span search).verdict = .judged text (.reject report)) ↔
      ∃ text, search.extraction = .response text ∧ Offends text := by
  unfold Gate.conclude
  cases search.extraction with
  | nothing reason => simp
  | response text => simp [← Decision.exists_scan_eq_reject_iff]

theorem Gate.conclude_ne_refused {span : Span} {search : Search} {error : PayloadError} :
    (Gate.conclude span search).verdict ≠ .refused error := by
  unfold Gate.conclude
  split <;> simp

/-! ### Whole stops -/

/-- The path leads to a file, and this is its content. -/
def Readable (contents : String → FileState) (path : String) (bytes : ByteArray) : Prop :=
  '\x00' ∉ path.toList ∧ contents path = .ok bytes

/-- The stops that are rejected. -/
inductive Rejectable (contents : String → FileState) (stream : Stream) : Prop where
  | intro {payload : Payload} {path : String} {bytes : ByteArray} {record : Record}
      (accepted : Payload.Accepted stream payload) (fresh : payload.stopHookActive ≠ some true)
      (named : payload.transcriptPath = some path) (nonempty : path ≠ "")
      (readable : Readable contents path bytes)
      (newest : NewestTurn bytes.data.toList record) (spoken : record.texts ≠ [])
      (offends : Offends (joinTexts record.texts)) : Rejectable contents stream

theorem Gate.openFile_eq_ok_iff {path : String} {bytes : ByteArray} :
    Gate.openFile (m := Id) contents path = .ok bytes ↔ Readable contents path bytes := by
  unfold Gate.openFile Readable
  by_cases named : '\x00' ∈ path.toList
  · simp [named, pure]
  · simp [named]

theorem Gate.run_of_error {error : PayloadError} (failed : Payload.ofStream stream = .error error) :
    Gate.run contents stream = ⟨.refused error, {}, []⟩ := by
  rw [Gate.run, Gate.runWith, failed]
  rfl

theorem Gate.run_of_skip {payload : Payload} {reason : SkipReason}
    (accepted : Payload.ofStream stream = .ok payload) (skips : payload.resolve = .skip reason) :
    Gate.run contents stream = ⟨.skipped reason, Gate.spanOf payload, [.skipping reason]⟩ := by
  rw [Gate.run, Gate.runWith, accepted]
  dsimp only
  rw [skips]
  rfl

theorem Gate.run_of_proceed {payload : Payload} {path : String}
    (accepted : Payload.ofStream stream = .ok payload)
    (proceeds : payload.resolve = .proceed path) :
    Gate.run contents stream = Gate.conclude (Gate.spanOf payload)
      (Search.file path (Gate.openFile (m := Id) contents path)) := by
  rw [Gate.run, Gate.runWith, accepted]
  dsimp only
  rw [proceeds]
  rfl

theorem Gate.run_refused_iff :
    (∃ error, (Gate.run contents stream).verdict = .refused error) ↔
      Payload.Unacceptable stream := by
  rw [Payload.unacceptable_iff]
  cases success : Payload.ofStream stream with
  | error error => simp [Gate.run_of_error success]
  | ok payload =>
    cases resolved : payload.resolve with
    | skip reason => simp [Gate.run_of_skip success resolved]
    | proceed path => simp [Gate.run_of_proceed success resolved, Gate.conclude_ne_refused]

theorem Gate.run_rejected_iff :
    (∃ text report, (Gate.run contents stream).verdict = .judged text (.reject report)) ↔
      Rejectable contents stream := by
  constructor
  · intro rejected
    cases success : Payload.ofStream stream with
    | error error => simp [Gate.run_of_error success] at rejected
    | ok payload =>
      cases resolved : payload.resolve with
      | skip reason => simp [Gate.run_of_skip success resolved] at rejected
      | proceed path =>
        rw [Gate.run_of_proceed success resolved, Gate.exists_conclude_eq_reject_iff] at rejected
        obtain ⟨text, found, offends⟩ := rejected
        obtain ⟨bytes, record, opened, newest, spoken, rfl⟩ :=
          Search.extraction_file_eq_response_iff.mp found
        obtain ⟨fresh, named, nonempty⟩ := Payload.resolve_eq_proceed_iff.mp resolved
        exact .intro (Payload.ofStream_eq_ok_iff.mp success) fresh named nonempty
          (Gate.openFile_eq_ok_iff.mp opened) newest spoken offends
  · rintro ⟨accepted, fresh, named, nonempty, readable, newest, spoken, offends⟩
    have success := Payload.ofStream_eq_ok_iff.mpr accepted
    have resolved := Payload.resolve_eq_proceed_iff.mpr ⟨fresh, named, nonempty⟩
    have opened := Gate.openFile_eq_ok_iff.mpr readable
    rw [Gate.run_of_proceed success resolved, Gate.exists_conclude_eq_reject_iff]
    refine ⟨_, ?_, offends⟩
    exact Search.extraction_file_eq_response_iff.mpr ⟨_, _, opened, newest, spoken, rfl⟩

/-- The gate is correct. Its status is 1 for the payloads that are not accepted, 2 where the newest
turn of the transcript offends, and 0 everywhere else. -/
theorem Gate.run_exitCode_iff (contents : String → FileState) (stream : Stream)
    (verbosity : Verbosity) :
    let status := ((Gate.run contents stream).reaction verbosity).exitCode
    (status = 1 ↔ Payload.Unacceptable stream) ∧
      (status = 2 ↔ Rejectable contents stream) ∧
      (status = 0 ↔ ¬ Payload.Unacceptable stream ∧ ¬ Rejectable contents stream) := by
  intro status
  have same : status = (Gate.run contents stream).verdict.exitCode := rfl
  have refused : status = 1 ↔ Payload.Unacceptable stream := by
    rw [same, Verdict.exitCode_eq_one_iff, Gate.run_refused_iff]
  have rejected : status = 2 ↔ Rejectable contents stream := by
    rw [same, Verdict.exitCode_eq_two_iff, Gate.run_rejected_iff]
  refine ⟨refused, rejected, ?_⟩
  rw [← refused, ← rejected, same, Verdict.exitCode_eq_zero_iff]

end ResponseGate
