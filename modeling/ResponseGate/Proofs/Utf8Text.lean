/-!
Texts and their bytes in UTF-8. Decoding is the inverse of writing the characters one after the
other, and a byte of the ASCII range is always a character of its own.
-/

namespace ResponseGate.Text

theorem fromUTF8?_eq_some_iff {bytes : ByteArray} {text : String} :
    String.fromUTF8? bytes = some text ↔ bytes = text.toByteArray := by
  unfold String.fromUTF8?
  constructor
  · intro decoded
    split at decoded
    · rw [← Option.some.inj decoded]
      rfl
    · simp at decoded
  · rintro rfl
    rw [dif_pos text.isValidUTF8]
    rfl

theorem fromUTF8?_list_eq_some_iff {bytes : List UInt8} {text : String} :
    String.fromUTF8? ⟨bytes.toArray⟩ = some text ↔
      text.toList.flatMap String.utf8EncodeChar = bytes := by
  have encoded : text.toByteArray = (text.toList.flatMap String.utf8EncodeChar).toByteArray := by
    rw [← String.utf8Encode_toList, List.utf8Encode]
  rw [fromUTF8?_eq_some_iff, encoded]
  constructor
  · intro same
    simpa using (congrArg ByteArray.data same).symm
  · intro same
    rw [same]
    apply ByteArray.ext
    simp

/-- The longer forms of a character consist of bytes from 128 on. -/
theorem toNat_of_ascii_byte {c : Char} {byte : UInt8}
    (member : byte ∈ String.utf8EncodeChar c) (ascii : byte.toNat < 128) :
    c.toNat = byte.toNat := by
  have value : c.toNat = c.val.toNat := rfl
  have low : ∀ code, 128 ≤ code → code < 256 → byte ≠ UInt8.ofNat code := by
    rintro code high fits rfl
    rw [UInt8.toNat_ofNat'] at ascii
    omega
  unfold String.utf8EncodeChar at member
  dsimp only at member
  split at member
  · rename_i small
    rw [List.mem_singleton.mp member, UInt8.toNat_ofNat', value]
    omega
  · exfalso
    split at member
    · simp only [List.mem_cons, List.not_mem_nil, or_false] at member
      rcases member with same | same
      all_goals exact low _ (by omega) (by omega) same
    · split at member
      · simp only [List.mem_cons, List.not_mem_nil, or_false] at member
        rcases member with same | same | same
        all_goals exact low _ (by omega) (by omega) same
      · simp only [List.mem_cons, List.not_mem_nil, or_false] at member
        rcases member with same | same | same | same
        all_goals exact low _ (by omega) (by omega) same

theorem eq_ofNat_of_ascii_byte {c : Char} {byte : UInt8} (member : byte ∈ String.utf8EncodeChar c)
    (ascii : byte.toNat < 128) : c = Char.ofNat byte.toNat := by
  rw [← toNat_of_ascii_byte member ascii, Char.ofNat_toNat]

theorem head?_of_ascii_byte {text : List Char} {byte : UInt8}
    (first : (text.flatMap String.utf8EncodeChar).head? = some byte) (ascii : byte.toNat < 128) :
    text.head? = some (Char.ofNat byte.toNat) := by
  cases text with
  | nil => cases first
  | cons c rest =>
    rw [List.flatMap_cons, List.head?_append,
      Option.or_of_isSome (List.isSome_head?.mpr String.utf8EncodeChar_ne_nil)] at first
    rw [List.head?_cons, ← eq_ofNat_of_ascii_byte (List.mem_of_head? first) ascii]

theorem getLast?_of_ascii_byte {text : List Char} {byte : UInt8}
    (last : (text.flatMap String.utf8EncodeChar).getLast? = some byte) (ascii : byte.toNat < 128) :
    text.getLast? = some (Char.ofNat byte.toNat) := by
  rcases List.eq_nil_or_concat text with rfl | ⟨before, c, split⟩
  · cases last
  · rw [List.concat_eq_append] at split
    subst split
    rw [List.flatMap_append, List.flatMap_singleton,
      List.getLast?_append,
      Option.or_of_isSome (List.getLast?_isSome.mpr String.utf8EncodeChar_ne_nil)]
      at last
    rw [List.getLast?_concat, ← eq_ofNat_of_ascii_byte (List.mem_of_getLast? last) ascii]

/-- A text begins with another one when its bytes do: no character is cut. -/
theorem prefix_of_flatMap_prefix {text whole : List Char}
    (begins : text.flatMap String.utf8EncodeChar <+: whole.flatMap String.utf8EncodeChar) :
    text <+: whole := by
  induction text generalizing whole with
  | nil => exact List.nil_prefix
  | cons c text ih =>
    cases whole with
    | nil =>
      have none := List.prefix_nil.mp begins
      simp [String.utf8EncodeChar_ne_nil] at none
    | cons d whole =>
      obtain ⟨rest, split⟩ := begins
      rw [List.flatMap_cons, List.flatMap_cons, List.append_assoc] at split
      have decoded := congrArg (fun bytes => (List.toByteArray bytes).utf8DecodeChar? 0) split
      simp only [List.toByteArray_append, ByteArray.utf8DecodeChar?_utf8EncodeChar_append,
        Option.some.injEq] at decoded
      subst decoded
      have others := ih ⟨rest, List.append_cancel_left split⟩
      exact List.cons_prefix_cons.mpr ⟨rfl, others⟩

end ResponseGate.Text
