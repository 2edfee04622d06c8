import ResponseGate.Proofs.MistypedMembers
import ResponseGate.Proofs.Turns
import ResponseGate.Proofs.WrittenDocuments

/-!
Turns that are written and read back. Whatever spelling is chosen for a turn, whatever stands
between its texts and around its line, the texts are extracted as they were.
-/

namespace ResponseGate

open Json (Value TokensWritten)

/-! ### Blocks -/

theorem Json.Value.parseBytes?_append_return (line : List UInt8) :
    Value.parseBytes? (line ++ [carriageReturn]) = Value.parseBytes? line := by
  have encoded (text : List Char) : (text ++ ['\r']).flatMap String.utf8EncodeChar =
      text.flatMap String.utf8EncodeChar ++ [carriageReturn] := by
    rw [List.flatMap_append]
    rfl
  cases decoded : String.fromUTF8? ⟨line.toArray⟩ with
  | some text =>
    rw [← Text.fromUTF8?_list_eq_some_iff.mp decoded, ← encoded, Value.parseBytes?_flatMap,
      Value.parseBytes?_flatMap, Value.ofChars?_append_return]
  | none =>
    -- No byte of a longer character is a carriage return: it makes no text of bytes that are none.
    have still : String.fromUTF8? ⟨(line ++ [carriageReturn]).toArray⟩ = none := by
      cases longer : String.fromUTF8? ⟨(line ++ [carriageReturn]).toArray⟩ with
      | none => rfl
      | some text =>
        have bytes := Text.fromUTF8?_list_eq_some_iff.mp longer
        have last : (text.toList.flatMap String.utf8EncodeChar).getLast? = some carriageReturn := by
          rw [bytes, List.getLast?_concat]
        obtain ⟨before, split⟩ :=
          List.getLast?_eq_some_iff.mp (Text.getLast?_of_ascii_byte last (by decide))
        have shorter : before.flatMap String.utf8EncodeChar = line := by
          rw [split] at bytes
          exact List.append_cancel_right ((encoded before).symm.trans bytes)
        rw [← String.toList_ofList (l := before), ← Text.fromUTF8?_list_eq_some_iff,
          decoded] at shorter
        cases shorter
    rw [Value.parseBytes?, Value.parseBytes?, decoded, still]

/-- A line is read the same with and without the carriage return it may end in. -/
theorem Json.Value.parseBytes?_of_trimReturn (line : List UInt8) :
    Value.parseBytes? (trimReturn line) = Value.parseBytes? line := by
  rcases returned_or_bare line with returned | bare
  · exact (Value.parseBytes?_append_return _).symm.trans (congrArg Value.parseBytes? returned.symm)
  · rw [← bare]

theorem Json.Value.parseBytes?_trimReturn (text : List Char) :
    Value.parseBytes? (trimReturn (text.flatMap String.utf8EncodeChar)) = Value.ofChars? text := by
  rw [Value.parseBytes?_of_trimReturn, Value.parseBytes?_flatMap]

end ResponseGate
