import ResponseGate.Proofs.Utf8Text
import ResponseGate.Text.Character
import ResponseGate.Transcript.Record

/-!
Blank lines hold no record. White space has no tokens, and the one blank byte that JSON does not
allow between tokens, the form feed, breaks the grammar.
-/

namespace ResponseGate

/-- The characters of the blank bytes. -/
def blankChars : List Char := [' ', '\t', '\n', '\x0c', '\r']

theorem mem_blankChars_of_byte {c : Char} {byte : UInt8}
    (member : byte ∈ String.utf8EncodeChar c) (blank : Text.isBlankByte byte = true) :
    c ∈ blankChars := by
  have cases : byte = 0x20 ∨ byte = 0x09 ∨ byte = 0x0A ∨ byte = 0x0C ∨ byte = 0x0D := by
    simpa [Text.isBlankByte, or_assoc] using blank
  rcases cases with rfl | rfl | rfl | rfl | rfl
  all_goals
    have code := Text.toNat_of_ascii_byte member (by decide)
    rw [← Char.ofNat_toNat c, code]
    decide

theorem blankChars_of_line {line : List UInt8} {text : String}
    (blank : line.all Text.isBlankByte = true)
    (decoded : String.fromUTF8? ⟨line.toArray⟩ = some text) :
    ∀ c ∈ text.toList, c ∈ blankChars := by
  intro c member
  obtain ⟨byte, rest, encoded⟩ := List.exists_cons_of_ne_nil (@String.utf8EncodeChar_ne_nil c)
  have first : byte ∈ String.utf8EncodeChar c := by simp [encoded]
  have inside : byte ∈ line := by
    rw [← Text.fromUTF8?_list_eq_some_iff.mp decoded]
    exact List.mem_flatMap.mpr ⟨c, member, first⟩
  exact mem_blankChars_of_byte first (List.all_eq_true.mp blank byte inside)

namespace Json

theorem Lexer.begin?_of_blank {tokens : List Token} {c : Char} {later : Lexer}
    (blank : c ∈ blankChars)
    (success : begin? tokens c = some later) : later = ⟨.between, tokens⟩ := by
  simp only [blankChars, List.mem_cons, List.not_mem_nil, or_false] at blank
  rcases blank with rfl | rfl | rfl | rfl | rfl
  all_goals cases success
  all_goals rfl

/-- Between tokens blank characters are dropped, or the lexer fails. -/
theorem Lexer.run?_of_blank {tokens : List Token} {text : List Char} {later : Lexer}
    (blank : ∀ c ∈ text, c ∈ blankChars) (success : run? ⟨.between, tokens⟩ text = some later) :
    later = ⟨.between, tokens⟩ := by
  induction text with
  | nil => exact (Option.some.inj success).symm
  | cons c rest ih =>
    rw [run?, List.foldlM_cons] at success
    obtain ⟨middle, first, others⟩ := Option.bind_eq_some_iff.mp success
    have kept : middle = ⟨.between, tokens⟩ := begin?_of_blank (blank c (by simp)) first
    subst middle
    exact ih (fun c member => blank c (by simp [member])) others

theorem Value.ofChars?_of_blank {text : List Char} (blank : ∀ c ∈ text, c ∈ blankChars) :
    Value.ofChars? text = none := by
  unfold Value.ofChars? tokens?
  cases run : Lexer.run? {} text with
  | none => rfl
  | some later =>
    have kept : later = ⟨.between, []⟩ := Lexer.run?_of_blank blank run
    subst later
    rfl

end Json

theorem Record.ofLine_of_blank {line : List UInt8} (blank : line.all Text.isBlankByte = true) :
    Record.ofLine line = .error .malformed := by
  have unread : Json.Value.parseBytes? line = none := by
    unfold Json.Value.parseBytes?
    cases decoded : String.fromUTF8? ⟨line.toArray⟩ with
    | none => rfl
    | some text => exact Json.Value.ofChars?_of_blank (blankChars_of_line blank decoded)
  rw [Record.ofLine, unread]

end ResponseGate
