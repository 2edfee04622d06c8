import ResponseGate.Json.Mismatch

/-!
What the readers of optional fields make of the members given last: a field that holds what it wants
or nothing, or the account of a member that is mistyped. A key of an object may be repeated; members
with other keys, and members that another one with their key follows, are never looked at.
-/

namespace ResponseGate

/-- A sequence succeeds where all of its parts do. -/
theorem bind_eq_ok_iff {ε α β : Type} {first : Except ε α} {next : α → Except ε β} {result : β} :
    first >>= next = .ok result ↔ ∃ value, first = .ok value ∧ next value = .ok result := by
  cases first with
  | error found =>
    show Except.error found = .ok result ↔ _
    simp
  | ok value =>
    show next value = .ok result ↔ _
    simp

/-- What fails in a sequence fails in its first part or behind it. -/
theorem bind_eq_error_iff {ε α β : Type} {first : Except ε α} {next : α → Except ε β} {error : ε} :
    first >>= next = .error error ↔
      first = .error error ∨ ∃ value, first = .ok value ∧ next value = .error error := by
  cases first with
  | error found =>
    show Except.error found = .error error ↔ _
    simp
  | ok value =>
    show next value = .error error ↔ _
    simp

namespace Json

variable {members : Members} {key : String}

/-! ### Members given last -/

namespace Members

/-- The last member of a key holds the value. -/
def GivenLast (members : Members) (key : String) (value : Value) : Prop :=
  ∃ before after, members = before ++ (key, value) :: after ∧ ∀ later ∈ after, later.1 ≠ key

theorem last?_eq_some_iff {value : Value} :
    members.last? key = some value ↔ members.GivenLast key value := by
  rw [last?, List.lookup_eq_some_iff]
  constructor
  · rintro ⟨after, before, split, others⟩
    refine ⟨before.reverse, after.reverse, ?_, ?_⟩
    · simpa using congrArg List.reverse split
    · intro later member same
      have other := others later (List.mem_reverse.mp member)
      simp [same] at other
  · rintro ⟨before, after, split, others⟩
    refine ⟨after.reverse, before.reverse, ?_, ?_⟩
    · simp [split]
    · intro later member
      have other := others later (List.mem_reverse.mp member)
      simpa using other.symm

theorem string?_eq_some_iff {text : String} :
    members.string? key = .ok (some text) ↔ members.GivenLast key (.string text) := by
  rw [← last?_eq_some_iff, string?]
  cases members.last? key with
  | none => simp
  | some found => cases found <;> simp

theorem string?_eq_ok_iff :
    (∃ value, members.string? key = .ok value) ↔
      ∀ found, members.GivenLast key found → found = .null ∨ ∃ text, found = .string text := by
  simp only [← last?_eq_some_iff, string?]
  cases members.last? key with
  | none => simp
  | some found => cases found <;> simp

end Members

/-! ### Types of members -/

/-- The values that are of the type a member wants. -/
inductive Wanted.OfType : Wanted → Value → Prop where
  | string (text : String) : OfType .string (.string text)
  | boolean (flag : Bool) : OfType .boolean (.boolean flag)
  | message (members : Members) : OfType .message (.object members)

/-- Null is as good as nothing. -/
def Value.given? : Value → Option Value
  | null => none
  | value => some value

theorem Value.given?_eq_some_iff {value found : Value} :
    value.given? = some found ↔ value = found ∧ found ≠ .null := by
  constructor
  · intro given
    cases value with
    | null => cases given
    | _ =>
      cases given
      exact ⟨rfl, by simp⟩
  · rintro ⟨rfl, filled⟩
    cases value with
    | null => exact absurd rfl filled
    | _ => rfl

/-- A member was last given as something that is neither null nor of the type it wants. -/
structure Members.Mistyped (members : Members) (key : String) (mismatch : Mismatch) : Prop where
  given : members.GivenLast key mismatch.found
  filled : mismatch.found ≠ .null
  other : ¬ mismatch.wanted.OfType mismatch.found

/-- What a field holds by the member given last. Null and no member at all are the same. -/
inductive Members.Field {α : Type} (members : Members) (key : String) (wrap : α → Value) :
    Option α → Prop where
  | given {content : α} (last : members.GivenLast key (wrap content)) :
    Field members key wrap (some content)
  | null (last : members.GivenLast key .null) : Field members key wrap none
  | absent (missing : ∀ found, ¬ members.GivenLast key found) : Field members key wrap none

namespace Members

theorem GivenLast.unique {value other : Value} (first : members.GivenLast key value)
    (second : members.GivenLast key other) : value = other :=
  Option.some.inj ((last?_eq_some_iff.mpr first).symm.trans (last?_eq_some_iff.mpr second))

theorem absent_iff : (∀ found, ¬ members.GivenLast key found) ↔ members.last? key = none := by
  simp only [← last?_eq_some_iff]
  cases members.last? key <;> simp

theorem last?_eq_none_iff : members.last? key = none ↔ ∀ member ∈ members, member.1 ≠ key := by
  rw [last?, List.lookup_eq_none_iff]
  constructor
  · intro different member inside same
    have other := different member (List.mem_reverse.mpr inside)
    simp [same] at other
  · intro different member inside
    exact bne_iff_ne.mpr (different member (List.mem_reverse.mp inside)).symm

theorem last?_append {front back : Members} :
    Members.last? (front ++ back) key = (back.last? key).or (front.last? key) := by
  rw [last?, List.reverse_append, List.lookup_append]
  rfl

theorem last?_cons {other : String} {value : Value} :
    Members.last? ((other, value) :: members) key =
      (members.last? key).or (if other = key then some value else none) := by
  have single : Members.last? [(other, value)] key = if other = key then some value else none := by
    split
    · rename_i same
      exact last?_eq_some_iff.mpr ⟨[], [], by rw [same]; rfl, by simp⟩
    · rename_i different
      exact last?_eq_none_iff.mpr (by simpa using different)
  rw [← List.singleton_append, last?_append, single]

theorem isSome_last?_iff :
    (members.last? key).isSome = true ↔ ∃ member ∈ members, member.1 = key := by
  rw [Option.isSome_iff_ne_none, ne_eq, last?_eq_none_iff]
  simp

/-- What a key was given last, if that is not null. -/
def filled? (members : Members) (key : String) : Option Value :=
  (members.last? key).bind Value.given?

theorem filled?_eq_some_iff {found : Value} :
    members.filled? key = some found ↔ members.GivenLast key found ∧ found ≠ .null := by
  rw [filled?, ← last?_eq_some_iff]
  cases members.last? key with
  | none => simp
  | some value => simp [Value.given?_eq_some_iff]

theorem filled?_eq_none_iff :
    members.filled? key = none ↔
      members.GivenLast key .null ∨ ∀ found, ¬ members.GivenLast key found := by
  rw [filled?, ← last?_eq_some_iff, absent_iff]
  cases members.last? key with
  | none => simp
  | some value => cases value <;> simp [Value.given?]

end Members

/-! ### Readers of optional fields -/

/-- A type that a field can have: what its reader wants, and the values that hold it. -/
structure FieldType (α : Type) where
  wanted : Wanted
  wrap : α → Value
  unwrap? : Value → Option α
  unwrap?_eq_some_iff {found : Value} {content : α} :
    unwrap? found = some content ↔ found = wrap content
  ofType_iff {found : Value} : wanted.OfType found ↔ ∃ content, found = wrap content
  wrap_ne_null (content : α) : wrap content ≠ .null

namespace FieldType

def text : FieldType String where
  wanted := .string
  wrap := .string
  unwrap? := Value.asString?
  unwrap?_eq_some_iff {found _} := by cases found <;> simp [Value.asString?]
  ofType_iff {found} := by
    constructor
    · intro typed
      cases typed with
      | string content => exact ⟨content, rfl⟩
    · rintro ⟨content, rfl⟩
      exact .string content
  wrap_ne_null _ := by simp

def flag : FieldType Bool where
  wanted := .boolean
  wrap := .boolean
  unwrap?
    | .boolean content => some content
    | _ => none
  unwrap?_eq_some_iff {found _} := by cases found <;> simp
  ofType_iff {found} := by
    constructor
    · intro typed
      cases typed with
      | boolean content => exact ⟨content, rfl⟩
    · rintro ⟨content, rfl⟩
      exact .boolean content
  wrap_ne_null _ := by simp

@[simp] theorem text_wanted : text.wanted = .string := rfl

@[simp] theorem flag_wanted : flag.wanted = .boolean := rfl

variable {α : Type} (type : FieldType α) {mismatch : Mismatch} {field : Option α}

/-- The reader of an optional field. -/
def read? (members : Members) (key : String) : Except Mismatch (Option α) :=
  match members.filled? key with
  | none => .ok none
  | some found =>
    match type.unwrap? found with
    | some content => .ok (some content)
    | none => .error ⟨found, type.wanted⟩

theorem unwrap?_eq_none_iff {found : Value} :
    type.unwrap? found = none ↔ ¬ type.wanted.OfType found := by
  rw [type.ofType_iff, Option.eq_none_iff_forall_ne_some]
  simp only [ne_eq, type.unwrap?_eq_some_iff, not_exists]

theorem read?_eq_error_iff :
    type.read? members key = .error mismatch ↔
      mismatch.wanted = type.wanted ∧ members.Mistyped key mismatch := by
  obtain ⟨found, wanted⟩ := mismatch
  constructor
  · intro refused
    unfold read? at refused
    split at refused
    · cases refused
    · rename_i filled
      split at refused
      all_goals cases refused
      rename_i other
      obtain ⟨given, filled⟩ := Members.filled?_eq_some_iff.mp filled
      exact ⟨rfl, given, filled, type.unwrap?_eq_none_iff.mp other⟩
  · rintro ⟨rfl, given, filled, other⟩
    rw [read?, Members.filled?_eq_some_iff.mpr ⟨given, filled⟩]
    simp only [type.unwrap?_eq_none_iff.mpr other]

theorem read?_eq_ok_iff :
    type.read? members key = .ok field ↔ members.Field key type.wrap field := by
  constructor
  · intro read
    unfold read? at read
    split at read
    · cases read
      rename_i unfilled
      rcases Members.filled?_eq_none_iff.mp unfilled with null | missing
      · exact .null null
      · exact .absent missing
    · rename_i filled
      split at read
      all_goals cases read
      rename_i typed
      rw [type.unwrap?_eq_some_iff.mp typed] at filled
      exact .given (Members.filled?_eq_some_iff.mp filled).1
  · intro holds
    cases holds with
    | given last =>
      rw [read?, Members.filled?_eq_some_iff.mpr ⟨last, type.wrap_ne_null _⟩]
      simp only [type.unwrap?_eq_some_iff.mpr rfl]
    | null last => rw [read?, Members.filled?_eq_none_iff.mpr (.inl last)]
    | absent missing => rw [read?, Members.filled?_eq_none_iff.mpr (.inr missing)]

/-- What was read is not mistyped. -/
theorem not_mistyped_of_read? (read : type.read? members key = .ok field) (found : Value) :
    ¬ members.Mistyped key ⟨found, type.wanted⟩ := by
  intro wrong
  rw [type.read?_eq_error_iff.mpr ⟨rfl, wrong⟩] at read
  cases read

theorem not_mistyped (holds : members.Field key type.wrap field) (found : Value) :
    ¬ members.Mistyped key ⟨found, type.wanted⟩ :=
  type.not_mistyped_of_read? (type.read?_eq_ok_iff.mpr holds) found

end FieldType

namespace Members

theorem string?_eq_read? : members.string? key = FieldType.text.read? members key := by
  rw [string?, FieldType.read?, filled?]
  cases members.last? key with
  | none => rfl
  | some found => cases found <;> rfl

theorem boolean?_eq_read? : members.boolean? key = FieldType.flag.read? members key := by
  rw [boolean?, FieldType.read?, filled?]
  cases members.last? key with
  | none => rfl
  | some found => cases found <;> rfl

end Members

end Json

end ResponseGate
