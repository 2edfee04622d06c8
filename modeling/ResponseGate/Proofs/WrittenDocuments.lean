import ResponseGate.Proofs.Utf8Text
import ResponseGate.Proofs.WrittenTokens

/-!
Documents as tokens. A value has one sequence of tokens, whatever is chosen in writing each of them,
and within the limit of nesting the stack machine puts the value together again.
-/

namespace ResponseGate.Json

/-! ### The tokens of a value -/

mutual

/-- The tokens of a value, in the order they are written in. -/
def Value.tokens : Value → List Token
  | .null => [.null]
  | .boolean value => [.boolean value]
  | .number value => [.number value]
  | .string value => [.string value]
  | .array [] => [.openArray, .closeArray]
  | .array (first :: others) => .openArray :: (first.tokens ++ Value.furtherItems others)
  | .object [] => [.openObject, .closeObject]
  | .object ((key, value) :: others) =>
    .openObject :: .string key :: .colon :: (value.tokens ++ Value.furtherMembers others)

/-- The rest of an array after an item. -/
def Value.furtherItems : List Value → List Token
  | [] => [.closeArray]
  | item :: others => .comma :: (item.tokens ++ Value.furtherItems others)

/-- The rest of an object after a member. -/
def Value.furtherMembers : List (String × Value) → List Token
  | [] => [.closeObject]
  | (key, value) :: others =>
    .comma :: .string key :: .colon :: (value.tokens ++ Value.furtherMembers others)

end

mutual

/-- How many arrays and objects are open at the innermost place of a value. -/
def Value.depth : Value → Nat
  | .array items => Value.depthOfItems items + 1
  | .object members => Value.depthOfMembers members + 1
  | _ => 0

def Value.depthOfItems : List Value → Nat
  | [] => 0
  | item :: others => max item.depth (Value.depthOfItems others)

def Value.depthOfMembers : List (String × Value) → Nat
  | [] => 0
  | (_, value) :: others => max value.depth (Value.depthOfMembers others)

end

/-! ### Reading them back -/

namespace Builder

theorem step?_openArray {frames : List Frame} (room : frames.length < maxDepth) :
    (awaitValue frames).step? .openArray = some (awaitFirstItem frames) := if_pos room

theorem step?_openObject {frames : List Frame} (room : frames.length < maxDepth) :
    (awaitValue frames).step? .openObject = some (awaitFirstKey frames) := if_pos room

/-- No value begins with the bracket that ends an empty array. -/
theorem run?_firstItem (value : Value) (frames : List Frame) (rest : List Token) :
    (awaitFirstItem frames).run? (value.tokens ++ rest) =
      (awaitValue (.items [] :: frames)).run? (value.tokens ++ rest) := by
  fun_cases Value.tokens value
  all_goals rfl

/-- A member up to its value, wherever a key may come. -/
theorem run?_furtherMember (key : String) (value : Value) (others before : Members)
    (frames : List Frame) (rest : List Token) :
    (afterMember before frames).run? (Value.furtherMembers ((key, value) :: others) ++ rest) =
      (awaitValue (.member before key :: frames)).run?
        (value.tokens ++ (Value.furtherMembers others ++ rest)) := by
  rw [← List.append_assoc]
  rfl

-- The frames are part of the statements, for every open bracket adds one.
mutual

/-- The tokens of a value that fits in the frames around it hand the value to the innermost one. -/
theorem run?_tokens (value : Value) (frames : List Frame) (rest : List Token)
    (room : frames.length + value.depth ≤ maxDepth) :
    (awaitValue frames).run? (value.tokens ++ rest) = (complete value frames).run? rest := by
  match value with
  | .null => rfl
  | .boolean _ => rfl
  | .number _ => rfl
  | .string _ => rfl
  | .array [] =>
    rw [Value.depth, Value.depthOfItems] at room
    rw [Value.tokens, List.cons_append, run?_cons, step?_openArray room]
    rfl
  | .array (first :: others) =>
    rw [Value.depth, Value.depthOfItems] at room
    have inside : (Frame.items [] :: frames).length + first.depth ≤ maxDepth := by
      rw [List.length_cons]
      omega
    rw [Value.tokens, List.cons_append, run?_cons, step?_openArray (by omega), Option.bind_some,
      List.append_assoc, run?_firstItem, run?_tokens first _ _ inside]
    exact run?_furtherItems others [first] frames rest (by omega)
  | .object [] =>
    rw [Value.depth, Value.depthOfMembers] at room
    rw [Value.tokens, List.cons_append, run?_cons, step?_openObject room]
    rfl
  | .object ((key, value) :: others) =>
    rw [Value.depth, Value.depthOfMembers] at room
    have inside : (Frame.member [] key :: frames).length + value.depth ≤ maxDepth := by
      rw [List.length_cons]
      omega
    rw [Value.tokens, List.cons_append, run?_cons, step?_openObject (by omega), Option.bind_some,
      List.cons_append, List.cons_append, List.append_assoc]
    exact (run?_tokens value _ _ inside).trans
      (run?_furtherMembers others [(key, value)] frames rest (by omega))

theorem run?_furtherItems (others before : List Value) (frames : List Frame) (rest : List Token)
    (room : frames.length + Value.depthOfItems others < maxDepth) :
    (afterItem before frames).run? (Value.furtherItems others ++ rest) =
      (complete (.array (before.reverse ++ others)) frames).run? rest := by
  match others with
  | [] =>
    rw [List.append_nil]
    rfl
  | item :: others =>
    rw [Value.depthOfItems] at room
    have inside : (Frame.items before :: frames).length + item.depth ≤ maxDepth := by
      rw [List.length_cons]
      omega
    have next : (afterItem before frames).step? .comma =
      some (awaitValue (.items before :: frames)) := rfl
    rw [Value.furtherItems, List.cons_append, run?_cons, next, Option.bind_some, List.append_assoc,
      run?_tokens item _ _ inside, complete, run?_furtherItems others _ _ _ (by omega),
      List.reverse_cons, List.append_assoc, List.singleton_append]

theorem run?_furtherMembers (others before : Members) (frames : List Frame) (rest : List Token)
    (room : frames.length + Value.depthOfMembers others < maxDepth) :
    (afterMember before frames).run? (Value.furtherMembers others ++ rest) =
      (complete (.object (before.reverse ++ others)) frames).run? rest := by
  match others with
  | [] =>
    rw [List.append_nil]
    rfl
  | (key, value) :: others =>
    rw [Value.depthOfMembers] at room
    have inside : (Frame.member before key :: frames).length + value.depth ≤ maxDepth := by
      rw [List.length_cons]
      omega
    rw [run?_furtherMember, run?_tokens value _ _ inside, complete,
      run?_furtherMembers others _ _ _ (by omega), List.reverse_cons, List.append_assoc,
      List.singleton_append]

end

end Builder

namespace Value

variable {value : Value} {text : List Char}

/-- A value within the limit is read back from its tokens. -/
theorem ofTokens?_tokens (room : value.depth ≤ maxDepth) : ofTokens? value.tokens = some value := by
  have ran := Builder.run?_tokens value [] [] (by simpa using room)
  rw [List.append_nil] at ran
  rw [ofTokens?, ran]
  rfl

/-- A value within the limit is read from every text that spells it. -/
theorem ofChars?_of_written (room : value.depth ≤ maxDepth)
    (written : TokensWritten value.tokens text) : Value.ofChars? text = some value := by
  rw [Value.ofChars?, tokens?_of_written written, Option.bind_some, ofTokens?_tokens room]

theorem parseBytes?_flatMap (text : List Char) :
    parseBytes? (text.flatMap String.utf8EncodeChar) = Value.ofChars? text := by
  have decoded : String.fromUTF8? ⟨(text.flatMap String.utf8EncodeChar).toArray⟩ =
      some (String.ofList text) := by
    rw [Text.fromUTF8?_list_eq_some_iff, String.toList_ofList]
  rw [parseBytes?, decoded, Option.bind_some, parse?, String.toList_ofList]

end Value

/-! ### Carriage returns at the end -/

theorem Lexer.step?_return_of_word (read : List Char) (before : List Token) :
    step? ⟨.word read, before⟩ '\r' =
      (Token.ofWord? read.reverse).map fun token => ⟨.between, token :: before⟩ := by
  rw [Option.map_eq_bind]
  rfl

/-- A carriage return ends a token as the end of the text does. -/
theorem Lexer.finish?_of_return (lexer : Lexer) :
    (lexer.step? '\r').bind finish? = lexer.finish? := by
  obtain ⟨scan, before⟩ := lexer
  cases scan with
  | word read =>
    rw [step?_return_of_word, Option.bind_map]
    exact (Option.map_eq_bind ..).symm
  | _ => rfl

theorem Value.ofChars?_append_return (text : List Char) :
    Value.ofChars? (text ++ ['\r']) = Value.ofChars? text := by
  have last (lexer : Lexer) : (lexer.run? ['\r']).bind Lexer.finish? = lexer.finish? := by
    rw [Lexer.run?_cons, Option.bind_assoc]
    exact lexer.finish?_of_return
  have lexed : tokens? (text ++ ['\r']) = tokens? text := by
    rw [tokens?, Lexer.run?_append, Option.bind_assoc]
    exact congrArg _ (funext last)
  rw [Value.ofChars?, lexed]
  rfl

end ResponseGate.Json
