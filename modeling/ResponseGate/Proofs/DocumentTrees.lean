import ResponseGate.Proofs.Lexemes
import ResponseGate.Proofs.WrittenDocuments

/-!
Every document the grammar allows, as a tree. Trees are nested as deeply as one likes, their strings
are any code units and their numbers any numerals. The reader takes exactly the trees within its
limits: a bounded nesting, strings that are texts, and numbers that have a size.
-/

namespace ResponseGate.Json

/-- A document of the grammar, before it is decided what its strings and numbers stand for. -/
inductive Tree where
  | null
  | boolean (value : Bool)
  | number (numeral : Numeral)
  | string (units : List Nat)
  | array (items : List Tree)
  | object (members : List (List Nat × Tree))

namespace Tree

/-! ### Lexemes and nesting -/

mutual

/-- The lexemes of a tree, in the order they are written in. -/
def lexemes : Tree → List Lexeme
  | null => [.plain .null]
  | boolean value => [.plain (.boolean value)]
  | number numeral => [.number numeral]
  | string units => [.string units]
  | array [] => [.plain .openArray, .plain .closeArray]
  | array (first :: others) => .plain .openArray :: (first.lexemes ++ furtherItems others)
  | object [] => [.plain .openObject, .plain .closeObject]
  | object ((key, tree) :: others) =>
    .plain .openObject :: .string key :: .plain .colon :: (tree.lexemes ++ furtherMembers others)

/-- The rest of an array after an item. -/
def furtherItems : List Tree → List Lexeme
  | [] => [.plain .closeArray]
  | item :: others => .plain .comma :: (item.lexemes ++ furtherItems others)

/-- The rest of an object after a member. -/
def furtherMembers : List (List Nat × Tree) → List Lexeme
  | [] => [.plain .closeObject]
  | (key, tree) :: others =>
    .plain .comma :: .string key :: .plain .colon :: (tree.lexemes ++ furtherMembers others)

end

mutual

/-- How many arrays and objects are open at the innermost place of a tree. -/
def depth : Tree → Nat
  | array items => depthOfItems items + 1
  | object members => depthOfMembers members + 1
  | _ => 0

def depthOfItems : List Tree → Nat
  | [] => 0
  | item :: others => max item.depth (depthOfItems others)

def depthOfMembers : List (List Nat × Tree) → Nat
  | [] => 0
  | (_, tree) :: others => max tree.depth (depthOfMembers others)

end

/-- What a reader with bounded nesting, texts for strings and sizes for numbers can take. -/
structure WithinLimits (tree : Tree) : Prop where
  nesting : tree.depth ≤ maxDepth
  readable : ∀ lexeme ∈ tree.lexemes, lexeme.Readable

/-! ### Values -/

mutual

/-- The value of a tree whose strings are texts and whose numbers have a size. -/
def value? : Tree → Option Value
  | null => some .null
  | boolean value => some (.boolean value)
  | number numeral => numeral.number?.map .number
  | string units => (textOf? units).map fun text => .string (String.ofList text)
  | array items => (itemValues? items).map .array
  | object members => (memberValues? members).map .object

def itemValues? : List Tree → Option (List Value)
  | [] => some []
  | item :: others =>
    item.value?.bind fun value => (itemValues? others).map (value :: ·)

def memberValues? : List (List Nat × Tree) → Option Members
  | [] => some []
  | (key, tree) :: others =>
    (textOf? key).bind fun text => tree.value?.bind fun value =>
      (memberValues? others).map ((String.ofList text, value) :: ·)

end

mutual

/-- Read one by one, the lexemes of a tree give the tokens of its value. -/
theorem mapM_lexemes (tree : Tree) :
    tree.lexemes.mapM Lexeme.token? = tree.value?.map Value.tokens := by
  match tree with
  | null => rfl
  | boolean _ => rfl
  | number numeral =>
    cases size : numeral.number? <;> simp [lexemes, value?, Lexeme.token?, size, Value.tokens]
  | string units =>
    cases text : textOf? units <;> simp [lexemes, value?, Lexeme.token?, text, Value.tokens]
  | array [] => rfl
  | array (first :: others) =>
    rw [lexemes, List.mapM_cons, List.mapM_append, mapM_lexemes first, mapM_furtherItems others,
      value?, itemValues?]
    cases first.value? <;> cases itemValues? others <;> simp [Lexeme.token?, Value.tokens]
  | object [] => rfl
  | object ((key, tree) :: others) =>
    rw [lexemes, List.mapM_cons, List.mapM_cons, List.mapM_cons, List.mapM_append,
      mapM_lexemes tree, mapM_furtherMembers others, value?, memberValues?]
    cases text : textOf? key <;> cases tree.value? <;> cases memberValues? others <;>
      simp [Lexeme.token?, Value.tokens, text]

theorem mapM_furtherItems (others : List Tree) :
    (furtherItems others).mapM Lexeme.token? = (itemValues? others).map Value.furtherItems := by
  match others with
  | [] => rfl
  | item :: others =>
    rw [furtherItems, List.mapM_cons, List.mapM_append, mapM_lexemes item, mapM_furtherItems others,
      itemValues?]
    cases item.value? <;> cases itemValues? others <;> simp [Lexeme.token?, Value.furtherItems]

theorem mapM_furtherMembers (others : List (List Nat × Tree)) :
    (furtherMembers others).mapM Lexeme.token? =
      (memberValues? others).map Value.furtherMembers := by
  match others with
  | [] => rfl
  | (key, tree) :: others =>
    rw [furtherMembers, List.mapM_cons, List.mapM_cons, List.mapM_cons, List.mapM_append,
      mapM_lexemes tree, mapM_furtherMembers others, memberValues?]
    cases text : textOf? key <;> cases tree.value? <;> cases memberValues? others <;>
      simp [Lexeme.token?, Value.furtherMembers, text]

end

mutual

theorem depth_of_value? {tree : Tree} {value : Value} (success : tree.value? = some value) :
    value.depth = tree.depth := by
  match tree with
  | null => cases success; rfl
  | boolean _ => cases success; rfl
  | number _ =>
    obtain ⟨number, _, rfl⟩ := Option.map_eq_some_iff.mp success
    rfl
  | string _ =>
    obtain ⟨text, _, rfl⟩ := Option.map_eq_some_iff.mp success
    rfl
  | array items =>
    obtain ⟨values, inner, rfl⟩ := Option.map_eq_some_iff.mp success
    rw [Value.depth, depth, depthOfItems_of_itemValues? inner]
  | object members =>
    obtain ⟨values, inner, rfl⟩ := Option.map_eq_some_iff.mp success
    rw [Value.depth, depth, depthOfMembers_of_memberValues? inner]

theorem depthOfItems_of_itemValues? {items : List Tree} {values : List Value}
    (success : itemValues? items = some values) :
    Value.depthOfItems values = depthOfItems items := by
  match items with
  | [] =>
    cases success
    rfl
  | item :: others =>
    obtain ⟨value, first, rest⟩ := Option.bind_eq_some_iff.mp success
    obtain ⟨later, inner, rfl⟩ := Option.map_eq_some_iff.mp rest
    rw [Value.depthOfItems, depthOfItems, depth_of_value? first, depthOfItems_of_itemValues? inner]

theorem depthOfMembers_of_memberValues? {members : List (List Nat × Tree)} {values : Members}
    (success : memberValues? members = some values) :
    Value.depthOfMembers values = depthOfMembers members := by
  match members with
  | [] =>
    cases success
    rfl
  | (key, tree) :: others =>
    obtain ⟨text, _, after⟩ := Option.bind_eq_some_iff.mp success
    obtain ⟨value, first, rest⟩ := Option.bind_eq_some_iff.mp after
    obtain ⟨later, inner, rfl⟩ := Option.map_eq_some_iff.mp rest
    rw [Value.depthOfMembers, depthOfMembers, depth_of_value? first,
      depthOfMembers_of_memberValues? inner]

end

/-! ### Words in a tree -/

-- What follows a tree is part of the statements: the last word in it may end where the tree does.
mutual

theorem spaced_lexemes (tree : Tree) {rest : List Lexeme} (spaced : Spaced rest)
    (apart : NoWord rest) :
    Spaced (tree.lexemes ++ rest) := by
  match tree with
  | null => exact .cons (fun _ => apart) spaced
  | boolean _ => exact .cons (fun _ => apart) spaced
  | number _ => exact .cons (fun _ => apart) spaced
  | string _ => exact .cons (fun _ => apart) spaced
  | array [] => exact .cons nofun (.cons nofun spaced)
  | array (first :: others) =>
    obtain ⟨later, mark⟩ := spaced_furtherItems others spaced
    rw [lexemes, List.cons_append, List.append_assoc]
    exact .cons nofun (spaced_lexemes first later mark)
  | object [] => exact .cons nofun (.cons nofun spaced)
  | object ((key, tree) :: others) =>
    obtain ⟨later, mark⟩ := spaced_furtherMembers others spaced
    rw [lexemes, List.cons_append, List.cons_append, List.cons_append, List.append_assoc]
    exact .cons nofun (.cons nofun (.cons nofun (spaced_lexemes tree later mark)))

theorem spaced_furtherItems (others : List Tree) {rest : List Lexeme} (spaced : Spaced rest) :
    Spaced (furtherItems others ++ rest) ∧ NoWord (furtherItems others ++ rest) := by
  match others with
  | [] => exact ⟨.cons nofun spaced, by rintro _ ⟨⟩; rfl⟩
  | item :: others =>
    obtain ⟨later, mark⟩ := spaced_furtherItems others spaced
    rw [furtherItems, List.cons_append, List.append_assoc]
    exact ⟨.cons nofun (spaced_lexemes item later mark), by rintro _ ⟨⟩; rfl⟩

theorem spaced_furtherMembers (others : List (List Nat × Tree)) {rest : List Lexeme}
    (spaced : Spaced rest) :
    Spaced (furtherMembers others ++ rest) ∧ NoWord (furtherMembers others ++ rest) := by
  match others with
  | [] => exact ⟨.cons nofun spaced, by rintro _ ⟨⟩; rfl⟩
  | (key, tree) :: others =>
    obtain ⟨later, mark⟩ := spaced_furtherMembers others spaced
    rw [furtherMembers, List.cons_append, List.cons_append, List.cons_append, List.append_assoc]
    exact ⟨.cons nofun (.cons nofun (.cons nofun (spaced_lexemes tree later mark))),
      by rintro _ ⟨⟩; rfl⟩

end

end Tree

/-! ### Values nested too deeply -/

namespace Builder

-- As for values that fit, the frames are part of the statements.
mutual

/-- The tokens of a value that does not fit in the frames around it are not read to their end. -/
theorem run?_tokens_of_deep (value : Value) (frames : List Frame) (rest : List Token)
    (room : frames.length ≤ maxDepth) (deep : maxDepth < frames.length + value.depth) :
    (awaitValue frames).run? (value.tokens ++ rest) = none := by
  match value with
  | .null | .boolean _ | .number _ | .string _ =>
    rw [Value.depth] at deep
    · omega
    all_goals nofun
  | .array [] =>
    rw [Value.depth, Value.depthOfItems] at deep
    have full : (awaitValue frames).step? .openArray = none := if_neg (by omega)
    rw [Value.tokens, List.cons_append, run?_cons, full]
    rfl
  | .array (first :: others) =>
    rw [Value.depth, Value.depthOfItems] at deep
    rw [Value.tokens, List.cons_append, run?_cons]
    by_cases full : frames.length = maxDepth
    · rw [show (awaitValue frames).step? .openArray = none from if_neg (by omega)]
      rfl
    · rw [step?_openArray (by omega), Option.bind_some, List.append_assoc, run?_firstItem]
      by_cases inside : frames.length + 1 + first.depth ≤ maxDepth
      · rw [run?_tokens first (.items [] :: frames) _ inside]
        exact run?_furtherItems_of_deep others [first] frames rest (by omega) (by omega)
      · exact run?_tokens_of_deep first (.items [] :: frames) _ (by rw [List.length_cons]; omega)
          (by rw [List.length_cons]; omega)
  | .object [] =>
    rw [Value.depth, Value.depthOfMembers] at deep
    have full : (awaitValue frames).step? .openObject = none := if_neg (by omega)
    rw [Value.tokens, List.cons_append, run?_cons, full]
    rfl
  | .object ((key, value) :: others) =>
    rw [Value.depth, Value.depthOfMembers] at deep
    rw [Value.tokens, List.cons_append, run?_cons]
    by_cases full : frames.length = maxDepth
    · rw [show (awaitValue frames).step? .openObject = none from if_neg (by omega)]
      rfl
    · rw [step?_openObject (by omega), Option.bind_some, List.cons_append, List.cons_append,
        List.append_assoc]
      by_cases inside : frames.length + 1 + value.depth ≤ maxDepth
      · exact (run?_tokens value (.member [] key :: frames) _ inside).trans
          (run?_furtherMembers_of_deep others [(key, value)] frames rest (by omega) (by omega))
      · exact run?_tokens_of_deep value (.member [] key :: frames) _
          (by rw [List.length_cons]; omega)
          (by rw [List.length_cons]; omega)

theorem run?_furtherItems_of_deep (others before : List Value) (frames : List Frame)
    (rest : List Token) (room : frames.length < maxDepth)
    (deep : maxDepth ≤ frames.length + Value.depthOfItems others) :
    (afterItem before frames).run? (Value.furtherItems others ++ rest) = none := by
  match others with
  | [] =>
    rw [Value.depthOfItems] at deep
    omega
  | item :: others =>
    rw [Value.depthOfItems] at deep
    have next : (afterItem before frames).step? .comma =
      some (awaitValue (.items before :: frames)) := rfl
    rw [Value.furtherItems, List.cons_append, run?_cons, next, Option.bind_some, List.append_assoc]
    by_cases inside : frames.length + 1 + item.depth ≤ maxDepth
    · rw [run?_tokens item (.items before :: frames) _ inside]
      exact run?_furtherItems_of_deep others (item :: before) frames rest room (by omega)
    · exact run?_tokens_of_deep item (.items before :: frames) _ (by rw [List.length_cons]; omega)
        (by rw [List.length_cons]; omega)

theorem run?_furtherMembers_of_deep (others before : Members) (frames : List Frame)
    (rest : List Token) (room : frames.length < maxDepth)
    (deep : maxDepth ≤ frames.length + Value.depthOfMembers others) :
    (afterMember before frames).run? (Value.furtherMembers others ++ rest) = none := by
  match others with
  | [] =>
    rw [Value.depthOfMembers] at deep
    omega
  | (key, value) :: others =>
    rw [Value.depthOfMembers] at deep
    rw [run?_furtherMember]
    by_cases inside : frames.length + 1 + value.depth ≤ maxDepth
    · rw [run?_tokens value (.member before key :: frames) _ inside]
      exact run?_furtherMembers_of_deep others ((key, value) :: before) frames rest room (by omega)
    · exact run?_tokens_of_deep value (.member before key :: frames) _
        (by rw [List.length_cons]; omega)
        (by rw [List.length_cons]; omega)

end

end Builder

theorem Value.ofTokens?_tokens_eq (value : Value) :
    Value.ofTokens? value.tokens = if value.depth ≤ maxDepth then some value else none := by
  split
  · rename_i room
    exact ofTokens?_tokens room
  · rename_i deep
    have stuck := Builder.run?_tokens_of_deep value [] [] (Nat.zero_le _) (by simpa using deep)
    rw [List.append_nil] at stuck
    rw [Value.ofTokens?, stuck]
    rfl

/-! ### Reading trees -/

namespace Tree

variable {tree : Tree} {text : List Char}

/-- A tree is read as its value, and not at all if it has none or is nested too deeply. -/
theorem ofChars?_of_written (written : LexemesWritten tree.lexemes text) :
    Value.ofChars? text = if tree.depth ≤ maxDepth then tree.value? else none := by
  have spaced : Spaced tree.lexemes := by
    have alone := spaced_lexemes tree .nil nofun
    rwa [List.append_nil] at alone
  have lexed : tokens? text = tree.value?.map Value.tokens := by
    rw [← mapM_lexemes]
    exact (finish_of_lexemesWritten written spaced []).trans (by simp)
  rw [Value.ofChars?, lexed]
  cases success : tree.value? with
  | none => simp
  | some value =>
    rw [Option.map_some, Option.bind_some, Value.ofTokens?_tokens_eq, depth_of_value? success]

/-- A tree has a value when every one of its lexemes can be read. -/
theorem isSome_value?_iff :
    tree.value?.isSome = true ↔ ∀ lexeme ∈ tree.lexemes, lexeme.Readable := by
  have each (lexemes : List Lexeme) :
      (lexemes.mapM Lexeme.token?).isSome = true ↔ ∀ lexeme ∈ lexemes, lexeme.Readable := by
    induction lexemes with
    | nil => simp
    | cons lexeme others ih =>
      rw [List.forall_mem_cons, ← ih, ← lexeme.isSome_token?_iff, List.mapM_cons]
      cases lexeme.token? <;> cases others.mapM Lexeme.token? <;> simp
  rw [← each, mapM_lexemes, Option.isSome_map]

/-- A document is read within the limits, whatever way it is written, and never beyond them. -/
theorem ofChars?_eq_some_iff {value : Value} (written : LexemesWritten tree.lexemes text) :
    Value.ofChars? text = some value ↔ tree.WithinLimits ∧ tree.value? = some value := by
  rw [ofChars?_of_written written]
  constructor
  · intro read
    split at read
    · rename_i nesting
      have readable := isSome_value?_iff.mp (Option.isSome_iff_exists.mpr ⟨value, read⟩)
      exact ⟨⟨nesting, readable⟩, read⟩
    · cases read
  · rintro ⟨limits, success⟩
    rw [if_pos limits.nesting, success]

end Tree

end ResponseGate.Json
