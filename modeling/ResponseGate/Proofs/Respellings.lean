import Mathlib.Data.List.Forall2
import ResponseGate.Proofs.MistypedMembers

/-!
Documents that differ in spelling. Members that another one with their key follows, members that are
null and members that are not read where they stand are dropped, and the others may come in any
order. What is left of two documents then tells the same of every key that is read.
-/

namespace ResponseGate

open Json (Members Value)

/-! ### Parts of documents -/

/-- A place in a document, by what is read there. -/
inductive Part where
  | payload
  | record
  | message
  | content
  | block
  | unread

namespace Part

/-- What the value of a member is, if its key is read. -/
def member? : Part → String → Option Part
  | payload, "transcript_path" => some unread
  | payload, "stop_hook_active" => some unread
  | payload, "session_id" => some unread
  | payload, "hook_event_name" => some unread
  | record, "type" => some unread
  | record, "message" => some message
  | message, "content" => some content
  | block, "type" => some unread
  | block, "text" => some unread
  | _, _ => none

/-- What the items of an array are. A message may hold its content by position. -/
def item : Part → Part
  | message => content
  | content => block
  | _ => unread

end Part

namespace Part

/-- What a member is kept as in front of later ones, if it is kept: it is not if one with its key
follows, if it is null or if its key is not read. -/
def kept? (part : Part) (key : String) (value : Value) (later : Members) : Option Part :=
  if later.any (·.1 == key) then none else value.given?.bind fun _ => part.member? key

mutual

/-- What is left of a value without the members that are dropped. -/
def reduce (part : Part) : Value → Value
  | .array items => .array (reduceItems part.item items)
  | .object members => .object (reduceMembers part members)
  | value => value

def reduceItems (part : Part) : List Value → List Value
  | [] => []
  | item :: others => reduce part item :: reduceItems part others

def reduceMembers (part : Part) : Members → Members
  | [] => []
  | (key, value) :: others =>
    match part.kept? key value others with
    | none => reduceMembers part others
    | some inner => (key, reduce inner value) :: reduceMembers part others

end

end Part

/-- Values that are the same but for the order of members, in any object of them. -/
inductive Reordered : Value → Value → Prop where
  | null : Reordered .null .null
  | boolean (value : Bool) : Reordered (.boolean value) (.boolean value)
  | number (value : Json.Number) : Reordered (.number value) (.number value)
  | string (value : String) : Reordered (.string value) (.string value)
  | array {items others : List Value} (each : List.Forall₂ Reordered items others) :
      Reordered (.array items) (.array others)
  | object {members between others : Members} (moved : members.Perm between)
      (keys : between.map Prod.fst = others.map Prod.fst)
      (values : List.Forall₂ Reordered (between.map Prod.snd) (others.map Prod.snd)) :
      Reordered (.object members) (.object others)

/-- Values that become the same by dropping members and by moving them. -/
def Respelled (part : Part) (value other : Value) : Prop :=
  Reordered (part.reduce value) (part.reduce other)

/-! ### What is left -/

namespace Json.Members

/-- Among different keys a member is given last when it is there at all. -/
theorem last?_eq_some_iff_mem {members : Members} {key : String} {value : Value}
    (different : members.Pairwise fun member other => member.1 ≠ other.1) :
    members.last? key = some value ↔ (key, value) ∈ members := by
  rw [last?_eq_some_iff]
  constructor
  · rintro ⟨before, after, rfl, _⟩
    exact List.mem_append_right _ List.mem_cons_self
  · intro inside
    obtain ⟨before, after, rfl⟩ := List.append_of_mem inside
    refine ⟨before, after, rfl, ?_⟩
    intro later member
    have apart := List.rel_of_pairwise_cons (List.pairwise_append.mp different).2.1 member
    exact apart.symm

theorem last?_of_perm {members others : Members} (key : String)
    (different : members.Pairwise fun member other => member.1 ≠ other.1)
    (moved : members.Perm others) : members.last? key = others.last? key := by
  have apart := (moved.pairwise_iff fun other => Ne.symm other).mp different
  apply Option.ext
  intro value
  rw [last?_eq_some_iff_mem different, last?_eq_some_iff_mem apart, moved.mem_iff]

end Json.Members

namespace Part

variable {part : Part}

theorem reduceItems_eq_map (items : List Value) :
    part.reduceItems items = items.map part.reduce := by
  induction items with
  | nil => rfl
  | cons item items ih => rw [reduceItems, ih, List.map_cons]

/-- What is left of an object tells what each key that is read was filled with last. -/
theorem last?_reduceMembers (members : Members) (key : String) :
    (part.reduceMembers members).last? key =
      (part.member? key).bind fun inner => (members.filled? key).map inner.reduce := by
  induction members with
  | nil => cases part.member? key <;> rfl
  | cons member others ih =>
    obtain ⟨name, value⟩ := member
    rw [Members.filled?, Members.last?_cons, reduceMembers]
    by_cases same : name = key
    · subst same
      by_cases overridden : ∃ later ∈ others, later.1 = name
      · have dropped : part.kept? name value others = none := if_pos (by simpa using overridden)
        rw [dropped, Option.or_of_isSome (Members.isSome_last?_iff.mpr overridden)]
        exact ih
      · have missing : Members.last? others name = none :=
          Members.last?_eq_none_iff.mpr fun later inside same => overridden ⟨later, inside, same⟩
        have kept : part.kept? name value others = value.given?.bind fun _ => part.member? name :=
          if_neg (by simpa using overridden)
        have none : (part.reduceMembers others).last? name = none := by
          rw [ih, Members.filled?, missing]
          cases part.member? name <;> rfl
        rw [kept, missing, if_pos rfl, Option.none_or, Option.bind_some]
        cases given : value.given? with
        | none => cases part.member? name <;> exact none
        | some found =>
          obtain ⟨rfl, -⟩ := Value.given?_eq_some_iff.mp given
          cases part.member? name with
          | none => exact none
          | some inner =>
            simp [Members.last?_cons, none]
    · rw [if_neg same, Option.or_none]
      split
      · exact ih
      · rw [Members.last?_cons, if_neg same, Option.or_none]
        exact ih

/-- No key is left twice. -/
theorem reduceMembers_pairwise (members : Members) :
    (part.reduceMembers members).Pairwise fun member other => member.1 ≠ other.1 := by
  induction members with
  | nil => exact .nil
  | cons member others ih =>
    obtain ⟨name, value⟩ := member
    rw [reduceMembers]
    split
    · exact ih
    · rename_i inner kept
      refine .cons ?_ ih
      have missing : Members.last? others name = none := by
        rw [Members.last?_eq_none_iff]
        intro later inside same
        have overridden : others.any (·.1 == name) = true :=
          List.any_eq_true.mpr ⟨later, inside, beq_iff_eq.mpr same⟩
        rw [kept?, if_pos overridden] at kept
        cases kept
      have none : (part.reduceMembers others).last? name = none := by
        rw [last?_reduceMembers, Members.filled?, missing]
        cases part.member? name <;> rfl
      intro later inside same
      exact Members.last?_eq_none_iff.mp none later inside same.symm

end Part

/-! ### What two spellings have in common -/

theorem rel_or {α β : Type} {related : α → β → Prop} {first second : Option α}
    {other fallback : Option β}
    (firsts : Option.Rel related first other) (seconds : Option.Rel related second fallback) :
    Option.Rel related (first.or second) (other.or fallback) := by
  cases firsts with
  | some same => exact .some same
  | none => exact seconds

theorem rel_of_map {α β : Type} {related : β → β → Prop} {f : α → β} {first other : Option α}
    (mapped : Option.Rel related (first.map f) (other.map f)) :
    Option.Rel (fun value same => related (f value) (f same)) first other := by
  cases first with
  | none =>
    cases other with
    | none => exact .none
    | some same => cases mapped
  | some value =>
    cases other with
    | none => cases mapped
    | some same =>
      cases mapped with
      | some holds => exact .some holds

/-- Keys that come in the same order tell of values that are reordered. -/
theorem rel_last?_of_values {members others : Members} (key : String)
    (keys : members.map Prod.fst = others.map Prod.fst)
    (values : List.Forall₂ Reordered (members.map Prod.snd) (others.map Prod.snd)) :
    Option.Rel Reordered (members.last? key) (others.last? key) := by
  induction members generalizing others with
  | nil =>
    cases others with
    | nil => exact .none
    | cons _ _ => cases keys
  | cons member members ih =>
    cases others with
    | nil => cases keys
    | cons other others =>
      obtain ⟨name, value⟩ := member
      obtain ⟨otherName, otherValue⟩ := other
      obtain ⟨rfl, sameKeys⟩ := List.cons.inj keys
      obtain ⟨first, related⟩ := List.forall₂_cons.mp values
      have here : Option.Rel Reordered (if name = key then some value else none)
          (if name = key then some otherValue else none) := by
        split
        · exact .some first
        · exact .none
      rw [Members.last?_cons, Members.last?_cons]
      exact rel_or (ih sameKeys related) here

/-- How two spellings of a value look, one level down. -/
inductive Matching (part : Part) : Value → Value → Prop where
  | null : Matching part .null .null
  | boolean (value : Bool) : Matching part (.boolean value) (.boolean value)
  | number (value : Json.Number) : Matching part (.number value) (.number value)
  | string (value : String) : Matching part (.string value) (.string value)
  | array {items others : List Value} (each : List.Forall₂ (Respelled part.item) items others) :
      Matching part (.array items) (.array others)
  | object {members others : Members}
      (each : ∀ key inner, part.member? key = some inner →
        Option.Rel (Respelled inner) (members.filled? key) (others.filled? key)) :
      Matching part (.object members) (.object others)

namespace Respelled

variable {part : Part} {value other : Value}

theorem matching (spelled : Respelled part value other) : Matching part value other := by
  unfold Respelled at spelled
  cases value <;> cases other
  all_goals
    simp only [Part.reduce] at spelled
    cases spelled
  case null.null => exact .null
  case boolean.boolean value => exact .boolean value
  case number.number value => exact .number value
  case string.string value => exact .string value
  case array.array items others each =>
    rw [Part.reduceItems_eq_map, Part.reduceItems_eq_map, List.forall₂_map_left_iff,
      List.forall₂_map_right_iff] at each
    exact .array each
  case object.object members others between moved keys values =>
    refine .object ?_
    intro key inner known
    have related := rel_last?_of_values key keys values
    rw [← Members.last?_of_perm key (Part.reduceMembers_pairwise members) moved,
      Part.last?_reduceMembers, Part.last?_reduceMembers, known, Option.bind_some,
      Option.bind_some] at related
    have spelled : Option.Rel (fun value same => Reordered (inner.reduce value) (inner.reduce same))
      (Members.filled? members key) (Members.filled? others key) := rel_of_map related
    exact spelled

theorem description_eq (spelled : Respelled part value other) :
    value.description = other.description := by
  cases spelled.matching <;> rfl

theorem asString?_eq (spelled : Respelled part value other) :
    value.asString? = other.asString? := by
  cases spelled.matching <;> rfl

end Respelled

end ResponseGate
