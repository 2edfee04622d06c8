import ResponseGate.Json.Document

/-!
Strings as code units. A string may be written as any code units at all, for each can be escaped by
itself. The automaton reads those that are the code units of a text, and gives that text back.
-/

namespace ResponseGate.Json

/-! ### How code units are written -/

/-- A hexadecimal digit, in either case. -/
def HexDigit (value : Nat) (c : Char) : Prop :=
  value < 16 ∧ (c = value.digitChar ∨ c = value.digitChar.toUpper)

/-- A code unit as four hexadecimal digits. -/
inductive UnitWritten : Nat → List Char → Prop where
  | digits {a b c d : Nat} {first second third fourth : Char} (ha : HexDigit a first)
      (hb : HexDigit b second) (hc : HexDigit c third) (hd : HexDigit d fourth) :
      UnitWritten (((a * 16 + b) * 16 + c) * 16 + d) [first, second, third, fourth]

/-- The letters of the short escapes, and the characters they stand for. -/
def shortEscapes : List (Char × Char) :=
  [('"', '"'), ('\\', '\\'), ('/', '/'), ('b', '\x08'), ('f', '\x0c'), ('n', '\n'), ('r', '\r'),
    ('t', '\t')]

/-- The code units of a character. Beyond the first plane they are a pair of surrogates. -/
def codeUnits (c : Char) : List Nat :=
  if c.toNat < 0x10000 then [c.toNat]
  else [0xD800 + (c.toNat - 0x10000) / 0x400, 0xDC00 + (c.toNat - 0x10000) % 0x400]

def unitsOf (text : List Char) : List Nat := text.flatMap codeUnits

/-- Code units as they are written between the quotes of a string. An escape need not have a
partner. -/
inductive UnitsWritten : List Nat → List Char → Prop where
  | nil : UnitsWritten [] []
  | raw {c : Char} {units : List Nat} {written : List Char} (quote : c ≠ '"') (backslash : c ≠ '\\')
      (printed : 0x20 ≤ c.toNat) (others : UnitsWritten units written) :
      UnitsWritten (codeUnits c ++ units) (c :: written)
  | short {letter c : Char} {units : List Nat} {written : List Char}
      (escape : (letter, c) ∈ shortEscapes) (others : UnitsWritten units written) :
      UnitsWritten (codeUnits c ++ units) ('\\' :: letter :: written)
  | unit {unit : Nat} {units : List Nat} {digits written : List Char}
      (value : UnitWritten unit digits)
      (others : UnitsWritten units written) :
      UnitsWritten (unit :: units) ('\\' :: 'u' :: (digits ++ written))

theorem UnitWritten.lt {unit : Nat} {digits : List Char} (value : UnitWritten unit digits) :
    unit < 0x10000 := by
  cases value with
  | digits ha hb hc hd =>
    have bounds := And.intro (And.intro ha.1 hb.1) (And.intro hc.1 hd.1)
    omega

/-! ### Putting surrogates together -/

/-- Code units read so far: the characters they make, latest first, and a high surrogate that
waits. -/
structure Paired where
  read : List Char
  high : Option Nat

namespace Paired

open Lexer (isHighSurrogate isLowSurrogate joinSurrogates)

/-- A low surrogate belongs behind a high one, and nothing else does. -/
def step? : Paired → Nat → Option Paired
  | ⟨read, some high⟩, unit =>
    if isLowSurrogate unit then some ⟨joinSurrogates high unit :: read, none⟩ else none
  | ⟨read, none⟩, unit =>
    if isHighSurrogate unit then some ⟨read, some unit⟩
    else if isLowSurrogate unit then none
    else if unit < 0x10000 then some ⟨Char.ofNat unit :: read, none⟩
    else none

def finish? : Paired → Option (List Char)
  | ⟨read, none⟩ => some read.reverse
  | ⟨_, some _⟩ => none

/-- What the automaton is in the middle of when it has read the units. -/
def scan : Paired → Scan
  | ⟨read, none⟩ => .text read
  | ⟨read, some high⟩ => .surrogate read high

end Paired

/-- The text that has the code units, if there is one. -/
def textOf? (units : List Nat) : Option (List Char) :=
  (units.foldlM Paired.step? ⟨[], none⟩).bind Paired.finish?

namespace Paired

open Lexer (isHighSurrogate isLowSurrogate joinSurrogates)

variable {read : List Char} {units : List Nat}

theorem toNat_cases (c : Char) : c.toNat < 0xD800 ∨ 0xE000 ≤ c.toNat ∧ c.toNat < 0x110000 := by
  rcases c.valid with low | ⟨high, top⟩
  · exact .inl low
  · exact .inr ⟨high, top⟩

theorem not_surrogate (c : Char) :
    isHighSurrogate c.toNat = false ∧ isLowSurrogate c.toNat = false := by
  rcases toNat_cases c with low | ⟨above, _⟩
  all_goals
    simp [isHighSurrogate, isLowSurrogate]
    omega

/-- The pair of a character beyond the first plane is one of surrogates, and makes that
character. -/
theorem surrogates_of_beyond {c : Char} (beyond : 0x10000 ≤ c.toNat) :
    isHighSurrogate (0xD800 + (c.toNat - 0x10000) / 0x400) = true ∧
      isLowSurrogate (0xDC00 + (c.toNat - 0x10000) % 0x400) = true ∧
      joinSurrogates (0xD800 + (c.toNat - 0x10000) / 0x400)
        (0xDC00 + (c.toNat - 0x10000) % 0x400) = c := by
  have cases := toNat_cases c
  refine ⟨?_, ?_, ?_⟩
  · simp [isHighSurrogate]
    omega
  · simp [isLowSurrogate]
    omega
  · have code : 0x10000 + (0xD800 + (c.toNat - 0x10000) / 0x400 - 0xD800) * 0x400 +
        (0xDC00 + (c.toNat - 0x10000) % 0x400 - 0xDC00) = c.toNat := by omega
    rw [joinSurrogates, code, Char.ofNat_toNat]

/-- The code units of a character make that character, in a pair or alone. -/
theorem foldlM_codeUnits (read : List Char) (c : Char) (units : List Nat) :
    (codeUnits c ++ units).foldlM step? ⟨read, none⟩ = units.foldlM step? ⟨c :: read, none⟩ := by
  unfold codeUnits
  split
  · rename_i alone
    obtain ⟨high, low⟩ := not_surrogate c
    simp [step?, high, low, alone, Char.ofNat_toNat]
  · rename_i beyond
    obtain ⟨high, low, joined⟩ := surrogates_of_beyond (Nat.not_lt.mp beyond)
    have first : step? ⟨read, none⟩ (0xD800 + (c.toNat - 0x10000) / 0x400) =
        some ⟨read, some (0xD800 + (c.toNat - 0x10000) / 0x400)⟩ := if_pos high
    have second : step? ⟨read, some (0xD800 + (c.toNat - 0x10000) / 0x400)⟩
        (0xDC00 + (c.toNat - 0x10000) % 0x400) = some ⟨c :: read, none⟩ := by
      rw [step?, if_pos low, joined]
    rw [List.cons_append, List.cons_append, List.nil_append, List.foldlM_cons, first,
      Option.bind_eq_bind, Option.bind_some, List.foldlM_cons, second]
    rfl

/-- No character goes on where a high surrogate waits. -/
theorem foldlM_codeUnits_of_waiting (read : List Char) (high : Nat) (c : Char) (units : List Nat) :
    (codeUnits c ++ units).foldlM step? ⟨read, some high⟩ = none := by
  unfold codeUnits
  split
  · simp [step?, (not_surrogate c).2]
  · have cases := toNat_cases c
    have low : isLowSurrogate (0xD800 + (c.toNat - 0x10000) / 0x400) = false := by
      simp [isLowSurrogate]
      omega
    simp [step?, low]

theorem foldlM_unitsOf (read text : List Char) :
    (unitsOf text).foldlM step? ⟨read, none⟩ = some ⟨text.reverse ++ read, none⟩ := by
  induction text generalizing read with
  | nil => rfl
  | cons c text ih =>
    rw [unitsOf, List.flatMap_cons, foldlM_codeUnits]
    exact (ih (c :: read)).trans (by simp)

theorem toNat_ofNat {code : Nat} (valid : code < 0xD800 ∨ 0xE000 ≤ code ∧ code < 0x110000) :
    (Char.ofNat code).toNat = code := by
  have holds : code.isValidChar := valid.imp id fun above => ⟨by omega, above.2⟩
  rw [Char.ofNat, dif_pos holds]
  rfl

theorem codeUnits_single {unit : Nat} (high : isHighSurrogate unit = false)
    (low : isLowSurrogate unit = false) (bound : unit < 0x10000) :
    codeUnits (Char.ofNat unit) = [unit] := by
  simp [isHighSurrogate, isLowSurrogate] at high low
  rw [codeUnits, toNat_ofNat (by omega), if_pos bound]

theorem codeUnits_pair {first second : Nat} (high : isHighSurrogate first = true)
    (low : isLowSurrogate second = true) :
    codeUnits (joinSurrogates first second) = [first, second] := by
  simp [isHighSurrogate, isLowSurrogate] at high low
  rw [codeUnits, joinSurrogates, toNat_ofNat (by omega), if_neg (by omega), List.cons.injEq,
    List.cons.injEq]
  exact ⟨by omega, by omega, rfl⟩

/-- A step lets a high surrogate wait, or completes the code units of a character. -/
theorem step?_cases {paired later : Paired} {unit : Nat}
    (waiting : ∀ high ∈ paired.high, isHighSurrogate high = true)
    (success : step? paired unit = some later) :
    (paired.high = none ∧ isHighSurrogate unit = true ∧ later = ⟨paired.read, some unit⟩) ∨
      ∃ c, paired.high.toList ++ [unit] = codeUnits c ∧ later = ⟨c :: paired.read, none⟩ := by
  obtain ⟨read, _ | high⟩ := paired
  · simp only [step?] at success
    by_cases first : isHighSurrogate unit = true
    · rw [if_pos first] at success
      exact .inl ⟨rfl, first, (Option.some.inj success).symm⟩
    · by_cases second : isLowSurrogate unit = true
      · simp [first, second] at success
      · by_cases bound : unit < 0x10000
        · simp only [first, second, bound, Bool.false_eq_true, ↓reduceIte,
            Option.some.injEq] at success
          have alone := codeUnits_single (by simpa using first) (by simpa using second) bound
          exact .inr ⟨Char.ofNat unit, alone.symm, success.symm⟩
        · simp [first, second, bound] at success
  · simp only [step?] at success
    by_cases second : isLowSurrogate unit = true
    · rw [if_pos second] at success
      have pair := codeUnits_pair (waiting high rfl) second
      exact .inr ⟨joinSurrogates high unit, pair.symm, (Option.some.inj success).symm⟩
    · simp [second] at success

/-- Units that are read to their end are those of the text they make. A waiting surrogate counts as
one of them. -/
theorem exists_text_of_foldlM {paired : Paired} {final : List Char}
    (waiting : ∀ high ∈ paired.high, isHighSurrogate high = true)
    (success : units.foldlM step? paired = some ⟨final, none⟩) :
    ∃ text, paired.high.toList ++ units = unitsOf text ∧ final = text.reverse ++ paired.read := by
  induction units generalizing paired with
  | nil =>
    cases success
    exact ⟨[], rfl, rfl⟩
  | cons unit units ih =>
    rw [List.foldlM_cons] at success
    obtain ⟨later, step, others⟩ := Option.bind_eq_some_iff.mp success
    rcases step?_cases waiting step with ⟨free, high, rfl⟩ | ⟨c, complete, rfl⟩
    · obtain ⟨text, same, made⟩ := ih (by simpa using high) others
      refine ⟨text, ?_, made⟩
      rw [free]
      exact same
    · obtain ⟨text, same, made⟩ := ih (by simp) others
      refine ⟨c :: text, ?_, by simp [made]⟩
      rw [unitsOf, List.flatMap_cons, ← complete, List.append_assoc]
      exact congrArg (paired.high.toList ++ unit :: ·) same

end Paired

/-- Reading code units undoes writing them, and no other units are read. -/
theorem textOf?_eq_some_iff {units : List Nat} {text : List Char} :
    textOf? units = some text ↔ units = unitsOf text := by
  constructor
  · intro success
    obtain ⟨⟨final, high⟩, run, finished⟩ := Option.bind_eq_some_iff.mp success
    cases high with
    | some high => cases finished
    | none =>
      cases finished
      obtain ⟨found, same, made⟩ := Paired.exists_text_of_foldlM (by simp) run
      simpa [made] using same
  · rintro rfl
    rw [textOf?, Paired.foldlM_unitsOf]
    simp [Paired.finish?]

/-! ### Reading strings -/

namespace Lexer

variable {tokens : List Token} {read written rest : List Char} {c : Char}

theorem hexDigit?_of_hexDigit {value : Nat} (digit : HexDigit value c) :
    hexDigit? c = some value := by
  have all : ∀ value < 16, hexDigit? value.digitChar = some value ∧
      hexDigit? value.digitChar.toUpper = some value := by decide
  obtain ⟨bound, same | same⟩ := digit
  · rw [same, (all value bound).1]
  · rw [same, (all value bound).2]

theorem continueUnit?_of_hexDigit {high : Option Nat} {digits value digit : Nat}
    (hex : HexDigit digit c) :
    continueUnit? tokens read high digits value c =
      if digits + 1 < 4 then some ⟨.unit read high (digits + 1) (value * 16 + digit), tokens⟩
      else (closeUnit? read high (value * 16 + digit)).map fun scan => ⟨scan, tokens⟩ := by
  rw [continueUnit?, hexDigit?_of_hexDigit hex]
  simp only [Option.bind_eq_bind, Option.bind_some, Option.pure_def]
  rw [Option.map_eq_bind]
  rfl

/-- Four digits end the code unit they stand in. -/
theorem run?_unit (high : Option Nat) {unit : Nat} (value : UnitWritten unit written) :
    run? ⟨.unit read high 0 0, tokens⟩ (written ++ rest) =
      (closeUnit? read high unit).bind fun scan => run? ⟨scan, tokens⟩ rest := by
  cases value with
  | digits ha hb hc hd =>
    simp only [List.cons_append, List.nil_append, run?_cons, step?, continueUnit?_of_hexDigit ha,
      continueUnit?_of_hexDigit hb, continueUnit?_of_hexDigit hc, continueUnit?_of_hexDigit hd,
      Nat.reduceAdd, Nat.reduceLT, ↓reduceIte, Option.bind_some, Nat.zero_mul, Nat.zero_add,
      Option.bind_map]
    rfl

theorem run?_short {letter : Char} (escape : (letter, c) ∈ shortEscapes) :
    run? ⟨.text read, tokens⟩ ('\\' :: letter :: rest) = run? ⟨.text (c :: read), tokens⟩ rest := by
  simp only [shortEscapes, List.mem_cons, List.not_mem_nil, or_false, Prod.mk.injEq] at escape
  rcases escape with ⟨rfl, rfl⟩ | ⟨rfl, rfl⟩ | ⟨rfl, rfl⟩ | ⟨rfl, rfl⟩ | ⟨rfl, rfl⟩ | ⟨rfl, rfl⟩ |
    ⟨rfl, rfl⟩ | ⟨rfl, rfl⟩
  all_goals rfl

theorem closeUnit?_eq {unit : Nat} (bound : unit < 0x10000) (read : List Char) (high : Option Nat) :
    closeUnit? read high unit = (Paired.step? ⟨read, high⟩ unit).map Paired.scan := by
  cases high with
  | some high =>
    rw [closeUnit?, Paired.step?]
    split <;> rfl
  | none =>
    rw [closeUnit?, Paired.step?, if_pos bound]
    split
    · rfl
    · split <;> rfl

theorem ne_u_of_short {letter c : Char} (escape : (letter, c) ∈ shortEscapes) : letter ≠ 'u' := by
  rintro rfl
  simp [shortEscapes] at escape

/-- The automaton puts surrogates together as they are defined to belong together. -/
theorem run?_units {units : List Nat} (value : UnitsWritten units written) (paired : Paired) :
    run? ⟨paired.scan, tokens⟩ (written ++ rest) =
      (units.foldlM Paired.step? paired).bind fun later => run? ⟨later.scan, tokens⟩ rest := by
  induction value generalizing paired with
  | nil => rfl
  | @raw c units written quote backslash printed others ih =>
    obtain ⟨read, _ | high⟩ := paired
    · have kept : step? ⟨.text read, tokens⟩ c = some ⟨.text (c :: read), tokens⟩ := by
        simp [step?, continueText?, quote, backslash, Nat.not_lt.mpr printed]
      rw [Paired.foldlM_codeUnits, List.cons_append, Paired.scan, run?_cons, kept]
      exact ih ⟨c :: read, none⟩
    · have refused : step? ⟨.surrogate read high, tokens⟩ c = none := by
        simp [step?, backslash]
      rw [Paired.foldlM_codeUnits_of_waiting, List.cons_append, Paired.scan, run?_cons, refused]
      rfl
  | @short letter c units written escape others ih =>
    obtain ⟨read, _ | high⟩ := paired
    · rw [Paired.foldlM_codeUnits, List.cons_append, List.cons_append, Paired.scan,
        run?_short escape]
      exact ih ⟨c :: read, none⟩
    · have refused : step? ⟨.surrogateEscape read high, tokens⟩ letter = none := by
        simp [step?, ne_u_of_short escape]
      rw [Paired.foldlM_codeUnits_of_waiting, List.cons_append, List.cons_append, Paired.scan,
        run?_cons]
      exact (run?_cons _ _ _).trans (congrArg (Option.bind · _) refused)
  | @unit unit units digits written value others ih =>
    obtain ⟨read, high⟩ := paired
    have opened : run? ⟨Paired.scan ⟨read, high⟩, tokens⟩
        ('\\' :: 'u' :: (digits ++ written) ++ rest) =
          run? ⟨.unit read high 0 0, tokens⟩ (digits ++ (written ++ rest)) := by
      rw [List.cons_append, List.cons_append, List.append_assoc]
      cases high <;> rfl
    rw [opened, run?_unit high value, closeUnit?_eq value.lt, List.foldlM_cons, Option.bind_map,
      Option.bind_eq_bind, Option.bind_assoc]
    exact congrArg _ (funext fun later => ih later)

end Lexer

end ResponseGate.Json
