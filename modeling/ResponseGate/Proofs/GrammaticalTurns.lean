import ResponseGate.Proofs.DecidingLines
import ResponseGate.Proofs.DocumentTrees
import ResponseGate.Proofs.WrittenTurns

/-!
Turns as the grammar has them. A line whose tree is a turn of the assistant decides every search
that comes to it, however it is written, if the tree is within the limits of the reader; beyond them
it is overlooked.
-/

namespace ResponseGate

open Json (Value Members Tree LexemesWritten unitsOf textOf?)

namespace Json

variable {κ α : Type} {pairs : List (κ × α)} {key : κ} {value : α}

/-- The last pair of a key holds the value. -/
def LastPair (pairs : List (κ × α)) (key : κ) (value : α) : Prop :=
  ∃ before after, pairs = before ++ (key, value) :: after ∧ ∀ later ∈ after, later.1 ≠ key

theorem Members.givenLast_iff {members : Members} {key : String} {value : Value} :
    members.GivenLast key value ↔ LastPair members key value := Iff.rfl

theorem LastPair.cons_iff {first : κ × α} :
    LastPair (first :: pairs) key value ↔
      LastPair pairs key value ∨ first = (key, value) ∧ ∀ later ∈ pairs, later.1 ≠ key := by
  constructor
  · rintro ⟨before, after, split, others⟩
    cases before with
    | nil =>
      cases split
      exact .inr ⟨rfl, others⟩
    | cons _ before =>
      cases split
      exact .inl ⟨before, after, rfl, others⟩
  · rintro (⟨before, after, rfl, others⟩ | ⟨rfl, others⟩)
    · exact ⟨first :: before, after, rfl, others⟩
    · exact ⟨[], pairs, rfl, others⟩

namespace Tree

variable {members : List (List Nat × Tree)} {values : Members} {key : String}

theorem unitsOf_eq_iff {units : List Nat} {text : List Char} (read : textOf? units = some text) :
    units = unitsOf key.toList ↔ String.ofList text = key := by
  constructor
  · rintro rfl
    rw [textOf?_eq_some_iff.mpr rfl] at read
    cases read
    exact String.ofList_toList
  · rintro rfl
    rw [String.toList_ofList]
    exact textOf?_eq_some_iff.mp read

/-- A key that is spelled nowhere is given nowhere. -/
theorem forall_key_ne_iff (success : memberValues? members = some values) :
    (∀ member ∈ members, member.1 ≠ unitsOf key.toList) ↔ ∀ value ∈ values, value.1 ≠ key := by
  induction members generalizing values with
  | nil =>
    cases success
    simp
  | cons member members ih =>
    obtain ⟨units, tree⟩ := member
    obtain ⟨text, read, after⟩ := Option.bind_eq_some_iff.mp success
    obtain ⟨value, first, rest⟩ := Option.bind_eq_some_iff.mp after
    obtain ⟨later, inner, rfl⟩ := Option.map_eq_some_iff.mp rest
    rw [List.forall_mem_cons, List.forall_mem_cons, ih inner, ne_eq, unitsOf_eq_iff read]

/-- However a key is spelled, its last member in the text is the one it is given last with. -/
theorem givenLast_iff (success : memberValues? members = some values) {value : Value} :
    values.GivenLast key value ↔
      ∃ tree, LastPair members (unitsOf key.toList) tree ∧ tree.value? = some value := by
  rw [Members.givenLast_iff]
  induction members generalizing values with
  | nil =>
    cases success
    simp [LastPair]
  | cons member members ih =>
    obtain ⟨units, tree⟩ := member
    obtain ⟨text, read, after⟩ := Option.bind_eq_some_iff.mp success
    obtain ⟨found, first, rest⟩ := Option.bind_eq_some_iff.mp after
    obtain ⟨later, inner, rfl⟩ := Option.map_eq_some_iff.mp rest
    rw [LastPair.cons_iff, ih inner, Prod.mk.injEq, ← unitsOf_eq_iff read,
      ← forall_key_ne_iff inner]
    constructor
    · rintro (⟨tree, last, same⟩ | ⟨⟨same, rfl⟩, others⟩)
      · exact ⟨tree, LastPair.cons_iff.mpr (.inl last), same⟩
      · exact ⟨tree, LastPair.cons_iff.mpr (.inr ⟨by rw [same], others⟩), first⟩
    · rintro ⟨last, given, same⟩
      rcases LastPair.cons_iff.mp given with given | ⟨here, others⟩
      · exact .inl ⟨last, given, same⟩
      · cases here
        rw [first] at same
        cases same
        exact .inr ⟨⟨rfl, rfl⟩, others⟩

end Tree

end Json

/-! ### Turns -/

/-- A tree of the grammar that is an object, whose type is given last as the assistant's and whose
message, if it is given, is given last as null or as an object. -/
structure TurnTree (members : List (List Nat × Tree)) : Prop where
  type : Json.LastPair members (unitsOf "type".toList) (.string (unitsOf "assistant".toList))
  message : ∀ found, Json.LastPair members (unitsOf "message".toList) found →
    found = .null ∨ ∃ inner, found = .object inner

variable {members : List (List Nat × Tree)} {text : List Char}

theorem Record.exists_messageBlocks {values : Members}
    (shaped : ∀ found, values.GivenLast "message" found →
      found = .null ∨ ∃ inner, found = .object inner) :
    ∃ blocks, messageBlocks (values.last? "message") = .ok blocks := by
  cases last : values.last? "message" with
  | none => exact ⟨[], rfl⟩
  | some found =>
    rcases shaped found (Members.last?_eq_some_iff.mp last) with rfl | ⟨inner, rfl⟩
    · exact ⟨[], rfl⟩
    · exact ⟨_, rfl⟩

/-- The value of such a tree is a record of the assistant. -/
theorem TurnTree.exists_record (turn : TurnTree members) {values : Members}
    (success : Tree.memberValues? members = some values) :
    ∃ record, Record.ofMembers values = .ok record ∧ record.type = some "assistant" := by
  have assistant : (Tree.string (unitsOf "assistant".toList)).value? =
      some (.string "assistant") := by
    rw [Tree.value?, Json.textOf?_eq_some_iff.mpr rfl, Option.map_some, String.ofList_toList]
  have type := (Tree.givenLast_iff success).mpr ⟨_, turn.type, assistant⟩
  have shaped (found : Value) (given : values.GivenLast "message" found) :
      found = .null ∨ ∃ inner, found = .object inner := by
    obtain ⟨tree, last, value⟩ := (Tree.givenLast_iff success).mp given
    rcases turn.message tree last with rfl | ⟨inner, rfl⟩
    · cases value
      exact .inl rfl
    · obtain ⟨later, _, rfl⟩ := Option.map_eq_some_iff.mp value
      exact .inr ⟨later, rfl⟩
  obtain ⟨blocks, message⟩ := Record.exists_messageBlocks shaped
  exact ⟨⟨some "assistant", blocks⟩,
    Record.ofMembers_eq_ok_iff.mpr ⟨message, Members.string?_eq_some_iff.mpr type⟩, rfl⟩

/-- A turn of the grammar is never passed over for an older one unless it cannot be read. However
the line is written, in UTF-8 and with or without the carriage return it may end in, it decides
every search that comes to it if it is within the limits of nesting, of strings that are texts and
of numbers that have a size. Beyond any of them it is overlooked wherever it stands. -/
theorem grammatical_turn_decides_within_limits (turn : TurnTree members)
    (written : LexemesWritten (Tree.object members).lexemes text) {line : List UInt8}
    (is : line = text.flatMap String.utf8EncodeChar ∨
      line = trimReturn (text.flatMap String.utf8EncodeChar)) :
    ((Tree.object members).WithinLimits → Deciding line) ∧
      (¬ (Tree.object members).WithinLimits → Overlooked line) := by
  have parsed : Value.parseBytes? line = Value.ofChars? text := by
    rcases is with rfl | rfl
    · exact Value.parseBytes?_flatMap text
    · exact Value.parseBytes?_trimReturn text
  constructor
  · intro limits
    obtain ⟨value, success⟩ :=
      Option.isSome_iff_exists.mp (Tree.isSome_value?_iff.mpr limits.readable)
    have read := (Tree.ofChars?_eq_some_iff written).mpr ⟨limits, success⟩
    obtain ⟨values, inner, rfl⟩ := Option.map_eq_some_iff.mp success
    obtain ⟨record, holds, type⟩ := turn.exists_record inner
    have found : Record.ofLine line = .ok record := by
      rw [Record.ofLine, parsed, read]
      exact holds
    exact deciding_of_turn ⟨found, type⟩
  · intro beyond
    rw [overlooked_iff]
    rintro record ⟨found, _⟩
    rw [Record.ofLine, parsed] at found
    cases read : Value.ofChars? text with
    | none =>
      rw [read] at found
      cases found
    | some value => exact beyond ((Tree.ofChars?_eq_some_iff written).mp read).1

/-! ### Escapes with and without a partner -/

/-- A turn after a type that is given twice, with a string that nobody looks at. -/
def turnWith (units : List Nat) : List (List Nat × Tree) :=
  [(unitsOf "type".toList, .string (unitsOf "user".toList)), (unitsOf "x".toList, .string units),
    (unitsOf "type".toList, .string (unitsOf "assistant".toList))]

/-- Its spelling, with the second type under an escape. -/
def lineWith (written : List Char) : List Char :=
  "\x7b\"type\":\"user\", \"x\":\"".toList ++
    (written ++ "\",\"\\u0074ype\":\"assistant\"\x7d".toList)

theorem turnTree_turnWith (units : List Nat) : TurnTree (turnWith units) := by
  refine ⟨⟨[(unitsOf "type".toList, .string (unitsOf "user".toList)),
    (unitsOf "x".toList, .string units)], [], rfl, by simp⟩, ?_⟩
  rintro found ⟨before, after, split, _⟩
  have member : (unitsOf "message".toList, found) ∈ turnWith units := by simp [split]
  have keys := List.mem_map_of_mem (f := Prod.fst) member
  exact absurd keys (by simp [turnWith]; decide)

theorem lineWith_written {units : List Nat} {written : List Char}
    (value : Json.UnitsWritten units written) :
    LexemesWritten (Tree.object (turnWith units)).lexemes (lineWith written) := by
  have mark (c : Char) {token : Json.Token} {lexemes : List Json.Lexeme} {rest : List Char}
      (known : (c, token) ∈ Json.marks) (others : LexemesWritten lexemes rest) :
      LexemesWritten (.plain token :: lexemes) (c :: rest) := .mark known others
  have raw (text : String) {lexemes : List Json.Lexeme} {rest : List Char}
      (plain : text.toList.all Json.isPlain = true) (others : LexemesWritten lexemes rest) :
      LexemesWritten (.string (unitsOf text.toList) :: lexemes)
        ('"' :: (text.toList ++ '"' :: rest)) := .string (.self plain) others
  have code : Json.UnitWritten 0x74 "0074".toList :=
    .digits (a := 0) (b := 0) (c := 7) (d := 4) ⟨by decide, .inl rfl⟩ ⟨by decide, .inl rfl⟩
      ⟨by decide, .inl rfl⟩ ⟨by decide, .inl rfl⟩
  have type : Json.UnitsWritten (unitsOf "type".toList)
      ('\\' :: 'u' :: ("0074".toList ++ "ype".toList)) :=
    .unit code (@Json.UnitsWritten.self "ype".toList (by decide))
  have spelled : ∃ line, LexemesWritten (Tree.object (turnWith units)).lexemes line ∧
      line = lineWith written := by
    refine ⟨_, mark '\x7b' (by decide) <| raw "type" (by decide) <| mark ':' (by decide) <|
      raw "user" (by decide) <| mark ',' (by decide) <| .blank (c := ' ') (by decide) <|
      raw "x" (by decide) <| mark ':' (by decide) <| .string value <| mark ',' (by decide) <|
      .string type <| mark ':' (by decide) <| raw "assistant" (by decide) <|
      mark '\x7d' (by decide) .nil, ?_⟩
    rfl
  obtain ⟨line, holds, rfl⟩ := spelled
  exact holds

theorem unitWritten_d83d : Json.UnitWritten 0xD83D "d83d".toList :=
  .digits (a := 13) (b := 8) (c := 3) (d := 13) ⟨by decide, .inl rfl⟩ ⟨by decide, .inl rfl⟩
    ⟨by decide, .inl rfl⟩ ⟨by decide, .inl rfl⟩

/-- Two escapes that make one character keep a turn without text readable, and the older turn
hidden. -/
theorem paired_escapes_decide :
    let older := ("\x7b\"type\":\"assistant\",\"message\":" ++
      "\x7b\"content\":[\x7b\"type\":\"text\",\"text\":\"old\"\x7d]\x7d\x7d").toUTF8.data.toList
    let bytes := (lineWith "\\ud83d\\uDE00".toList).flatMap String.utf8EncodeChar
    (Tree.object (turnWith [0xD83D, 0xDE00])).WithinLimits ∧ Deciding bytes ∧
      Extraction.ofContent "log" 5 [older, bytes] = .nothing .emptyResponse := by
  intro older bytes
  have low : Json.UnitWritten 0xDE00 "DE00".toList :=
    .digits (a := 13) (b := 14) (c := 0) (d := 0) ⟨by decide, .inr rfl⟩ ⟨by decide, .inr rfl⟩
      ⟨by decide, .inl rfl⟩ ⟨by decide, .inl rfl⟩
  have pair : Json.UnitsWritten [0xD83D, 0xDE00] "\\ud83d\\uDE00".toList :=
    .unit unitWritten_d83d (.unit low .nil)
  have limits : (Tree.object (turnWith [0xD83D, 0xDE00])).WithinLimits :=
    ⟨by decide, Tree.isSome_value?_iff.mp (by decide +kernel)⟩
  have unbroken : ∀ line ∈ [older, bytes], lineFeed ∉ line := by decide +kernel
  refine ⟨limits, (grammatical_turn_decides_within_limits (turnTree_turnWith _)
    (lineWith_written pair) (.inl rfl)).1 limits, ?_⟩
  rw [Extraction.ofContent_eq "log" 5 unbroken]
  decide +kernel

/-- One escape of them alone makes the line unreadable, and the older turn is judged in its
place. -/
theorem lone_surrogate_uncovers_an_older_turn :
    let older := ("\x7b\"type\":\"assistant\",\"message\":" ++
      "\x7b\"content\":[\x7b\"type\":\"text\",\"text\":\"old\"\x7d]\x7d\x7d").toUTF8.data.toList
    let bytes := (lineWith "\\ud83d".toList).flatMap String.utf8EncodeChar
    TurnTree (turnWith [0xD83D]) ∧
      LexemesWritten (Tree.object (turnWith [0xD83D])).lexemes (lineWith "\\ud83d".toList) ∧
      (Record.assistant? older).map Record.text = some "old\n" ∧
      Extraction.ofContent "log" 5 [older, bytes] = .response "old\n" ∧ ¬ Deciding bytes := by
  intro older bytes
  have alone : Json.UnitsWritten [0xD83D] "\\ud83d".toList := .unit unitWritten_d83d .nil
  have unbroken : ∀ line ∈ [older, bytes], lineFeed ∉ line := by decide +kernel
  refine ⟨turnTree_turnWith _, lineWith_written alone, by decide +kernel, ?_, ?_⟩
  · rw [Extraction.ofContent_eq "log" 5 unbroken]
    decide +kernel
  · intro deciding
    have same := deciding.search [] [.ok older]
    have differ : (Search.lines ([] ++ .ok bytes :: [.ok older])).extraction ≠
        (Search.lines ([] ++ [.ok bytes])).extraction := by decide +kernel
    exact differ same

end ResponseGate
