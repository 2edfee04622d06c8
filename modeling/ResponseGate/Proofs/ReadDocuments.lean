import ResponseGate.Proofs.DocumentTrees
import ResponseGate.Proofs.ReadLexemes

/-!
Documents that are read are written by the grammar. The stack machine holds every token it has
taken, so what it accepts are the tokens of a value; the characters they were read from spell a tree
with that value. With what is known of trees that are written, a text is read exactly when it is a
document of the grammar within the limits.
-/

namespace ResponseGate.Json

/-! ### Tokens the machine has taken -/

/-- The tokens of a bracket that is open behind its last part. Parts come latest first. -/
def takenBehind {α : Type} (opening : Token) (part : α → List Token) : List α → List Token
  | [] => [opening]
  | [only] => opening :: part only
  | last :: earlier => takenBehind opening part earlier ++ .comma :: part last

/-- The tokens of a bracket that is open where another part is to come. -/
def takenBefore {α : Type} (opening : Token) (part : α → List Token) : List α → List Token
  | [] => [opening]
  | earlier => takenBehind opening part earlier ++ [.comma]

def memberTokens (member : String × Value) : List Token :=
  .string member.1 :: .colon :: member.2.tokens

theorem takenBehind_cons {α : Type} (opening : Token) (part : α → List Token) (last : α)
    (earlier : List α) :
    takenBehind opening part (last :: earlier) = takenBefore opening part earlier ++ part last := by
  cases earlier with
  | nil => rfl
  | cons _ _ => simp [takenBehind, takenBefore]

theorem takenBefore_of_ne_nil {α : Type} {opening : Token} {part : α → List Token}
    {earlier : List α}
    (filled : earlier ≠ []) :
    takenBefore opening part earlier = takenBehind opening part earlier ++ [.comma] := by
  cases earlier with
  | nil => exact absurd rfl filled
  | cons _ _ => rfl

/-- Behind some of its parts a bracket lacks the further ones. -/
theorem takenBehind_append_further {α : Type} {opening : Token} {part : α → List Token}
    {further : List α → List Token} (whole : List α → List Token)
    (next : ∀ item others, further (item :: others) = .comma :: (part item ++ further others))
    (begins : ∀ item others, whole (item :: others) = opening :: (part item ++ further others))
    (before others : List α) (filled : before ≠ []) :
    takenBehind opening part before ++ further others = whole (before.reverse ++ others) := by
  induction before generalizing others with
  | nil => exact absurd rfl filled
  | cons last earlier ih =>
    cases earlier with
    | nil => exact (begins last others).symm
    | cons second earlier =>
      rw [List.reverse_cons, List.append_assoc, List.singleton_append,
        ← ih (last :: others) (List.cons_ne_nil _ _), next]
      simp [takenBehind]

def Frame.taken : Frame → List Token
  | .items before => takenBefore .openArray Value.tokens before
  | .member before key => takenBefore .openObject memberTokens before ++ [.string key, .colon]

/-- The tokens taken inside the given frames, from the innermost outwards. -/
def Frame.allTaken (frames : List Frame) : List Token :=
  frames.reverse.flatMap Frame.taken

theorem Frame.allTaken_cons (frame : Frame) (frames : List Frame) :
    allTaken (frame :: frames) = allTaken frames ++ frame.taken := by
  simp [allTaken]

namespace Builder

/-- The tokens that led to what a builder is waiting for. -/
def taken : Builder → List Token
  | awaitValue frames => Frame.allTaken frames
  | awaitFirstItem frames => Frame.allTaken frames ++ [.openArray]
  | afterItem items frames => Frame.allTaken frames ++ takenBehind .openArray Value.tokens items
  | awaitFirstKey frames => Frame.allTaken frames ++ [.openObject]
  | awaitKey members frames =>
    Frame.allTaken frames ++ (takenBehind .openObject memberTokens members ++ [.comma])
  | afterKey members key frames =>
    Frame.allTaken frames ++ (takenBefore .openObject memberTokens members ++ [.string key])
  | afterMember members frames =>
    Frame.allTaken frames ++ takenBehind .openObject memberTokens members
  | finished value => value.tokens

/-- Behind a part there is a part. -/
def Begun : Builder → Prop
  | afterItem items _ => items ≠ []
  | awaitKey members _ => members ≠ []
  | afterMember members _ => members ≠ []
  | _ => True

variable {builder later : Builder} {token : Token} {frames : List Frame}

theorem taken_complete (value : Value) (frames : List Frame) :
    (complete value frames).taken = Frame.allTaken frames ++ value.tokens ∧
      (complete value frames).Begun := by
  rcases frames with _ | ⟨_ | _, frames⟩
  · exact ⟨rfl, trivial⟩
  · refine ⟨?_, List.cons_ne_nil _ _⟩
    simp [complete, taken, takenBehind_cons, Frame.allTaken, Frame.taken]
  · refine ⟨?_, List.cons_ne_nil _ _⟩
    simp [complete, taken, takenBehind_cons, Frame.allTaken, Frame.taken, memberTokens]

/-- A bracket that ends an array or an object. -/
theorem taken_close {value : Value} {inside : List Token}
    (whole : inside ++ [token] = value.tokens) :
    (complete value frames).taken = Frame.allTaken frames ++ inside ++ [token] ∧
      (complete value frames).Begun := by
  obtain ⟨taken, begun⟩ := taken_complete value frames
  rw [taken, ← whole, List.append_assoc]
  exact ⟨rfl, begun⟩

/-- An open array behind its items lacks the rest of them and the bracket that closes it. -/
theorem takenBehind_items (before others : List Value) (filled : before ≠ []) :
    takenBehind .openArray Value.tokens before ++ Value.furtherItems others =
      (Value.array (before.reverse ++ others)).tokens :=
  takenBehind_append_further (fun items => (Value.array items).tokens) (fun _ _ => rfl)
    (fun _ _ => rfl) before others filled

theorem takenBehind_members (before others : Members) (filled : before ≠ []) :
    takenBehind .openObject memberTokens before ++ Value.furtherMembers others =
      (Value.object (before.reverse ++ others)).tokens :=
  takenBehind_append_further (fun members => (Value.object members).tokens) (fun _ _ => rfl)
    (fun _ _ => rfl) before others filled

theorem taken_begin? (begun : begin? frames token = some later) :
    later.taken = Frame.allTaken frames ++ [token] ∧ later.Begun := by
  unfold begin? at begun
  split at begun
  case h_5 =>
    obtain ⟨_, same⟩ := Option.ite_none_right_eq_some.mp begun
    obtain rfl := Option.some.inj same
    exact ⟨rfl, trivial⟩
  case h_6 =>
    obtain ⟨_, same⟩ := Option.ite_none_right_eq_some.mp begun
    obtain rfl := Option.some.inj same
    exact ⟨rfl, trivial⟩
  case h_7 => cases begun
  all_goals
    obtain rfl := Option.some.inj begun
    exact taken_complete _ _

/-- A step takes one token more. -/
theorem taken_step? (begun : builder.Begun) (stepped : builder.step? token = some later) :
    later.taken = builder.taken ++ [token] ∧ later.Begun := by
  unfold step? at stepped
  split at stepped
  case h_1 => exact taken_begin? stepped
  case h_2 frames =>
    obtain rfl := Option.some.inj stepped
    exact taken_close rfl
  case h_3 frames _ =>
    obtain ⟨taken, begun⟩ := taken_begin? stepped
    exact ⟨by rw [taken, Frame.allTaken_cons]; rfl, begun⟩
  case h_4 items frames =>
    obtain rfl := Option.some.inj stepped
    refine ⟨?_, trivial⟩
    rw [taken, taken, Frame.allTaken_cons, Frame.taken, takenBefore_of_ne_nil begun,
      List.append_assoc]
  case h_5 items frames =>
    obtain rfl := Option.some.inj stepped
    have whole := takenBehind_items items [] begun
    rw [List.append_nil] at whole
    exact taken_close whole
  case h_6 frames =>
    obtain rfl := Option.some.inj stepped
    exact taken_close rfl
  case h_7 frames key =>
    obtain rfl := Option.some.inj stepped
    exact ⟨by simp [taken, takenBefore], trivial⟩
  case h_8 members frames key =>
    obtain rfl := Option.some.inj stepped
    refine ⟨?_, trivial⟩
    rw [taken, taken, takenBefore_of_ne_nil begun]
    simp only [List.append_assoc]
  case h_9 members key frames =>
    obtain rfl := Option.some.inj stepped
    refine ⟨?_, trivial⟩
    simp [taken, Frame.allTaken_cons, Frame.taken]
  case h_10 members frames =>
    obtain rfl := Option.some.inj stepped
    refine ⟨?_, begun⟩
    rw [taken, taken, List.append_assoc]
  case h_11 members frames =>
    obtain rfl := Option.some.inj stepped
    have whole := takenBehind_members members [] begun
    rw [List.append_nil] at whole
    exact taken_close whole
  case h_12 => cases stepped

/-- A run takes its tokens one after the other. -/
theorem taken_run? {tokens : List Token} (begun : builder.Begun)
    (ran : builder.run? tokens = some later) : later.taken = builder.taken ++ tokens := by
  induction tokens generalizing builder with
  | nil =>
    obtain rfl := Option.some.inj ran
    rw [List.append_nil]
  | cons token tokens ih =>
    rw [run?_cons] at ran
    obtain ⟨next, stepped, ran⟩ := Option.bind_eq_some_iff.mp ran
    obtain ⟨taken, begun⟩ := taken_step? begun stepped
    rw [ih begun ran, taken, List.append_assoc, List.singleton_append]

end Builder

/-- The tokens of a value that is not nested too deeply are read as that value, and no others
are. -/
theorem Value.ofTokens?_eq_some_iff {tokens : List Token} {value : Value} :
    ofTokens? tokens = some value ↔ tokens = value.tokens ∧ value.depth ≤ maxDepth := by
  have shaped (read : ofTokens? tokens = some value) : tokens = value.tokens := by
    obtain ⟨builder, ran, finished⟩ := Option.bind_eq_some_iff.mp read
    cases builder with
    | finished last =>
      obtain rfl := Option.some.inj finished
      have begun : (Builder.awaitValue []).Begun := trivial
      exact (Builder.taken_run? begun ran).symm
    | _ => cases finished
  constructor
  · intro read
    have same := shaped read
    subst same
    rw [ofTokens?_tokens_eq] at read
    exact ⟨rfl, (Option.ite_none_right_eq_some.mp read).1⟩
  · rintro ⟨rfl, room⟩
    exact ofTokens?_tokens room

/-! ### Lexemes behind the tokens -/

/-- A lexeme with a plain token is a mark or a name. -/
def Lexeme.Own : Lexeme → Prop
  | plain (.number _) => False
  | plain (.string _) => False
  | _ => True

theorem LexemesWritten.own {lexemes : List Lexeme} {text : List Char}
    (written : LexemesWritten lexemes text) : ∀ lexeme ∈ lexemes, lexeme.Own := by
  induction written with
  | nil => nofun
  | blank _ _ ih => exact ih
  | mark mark _ ih =>
    refine List.forall_mem_cons.mpr ⟨?_, ih⟩
    simp only [marks, List.mem_cons, List.not_mem_nil, or_false, Prod.mk.injEq] at mark
    rcases mark with ⟨_, rfl⟩ | ⟨_, rfl⟩ | ⟨_, rfl⟩ | ⟨_, rfl⟩ | ⟨_, rfl⟩ | ⟨_, rfl⟩
    all_goals trivial
  | name name _ ih =>
    refine List.forall_mem_cons.mpr ⟨?_, ih⟩
    simp only [names, List.mem_cons, List.not_mem_nil, or_false, Prod.mk.injEq] at name
    rcases name with ⟨_, rfl⟩ | ⟨_, rfl⟩ | ⟨_, rfl⟩
    all_goals trivial
  | number _ _ ih => exact List.forall_mem_cons.mpr ⟨trivial, ih⟩
  | string _ _ ih => exact List.forall_mem_cons.mpr ⟨trivial, ih⟩

namespace Lexeme

variable {lexeme : Lexeme} {lexemes : List Lexeme} {token : Token} {tokens : List Token}

theorem exists_cons_of_mapM (read : lexemes.mapM token? = some (token :: tokens)) :
    ∃ lexeme others, lexemes = lexeme :: others ∧ lexeme.token? = some token ∧
      others.mapM token? = some tokens := by
  cases lexemes with
  | nil => cases read
  | cons lexeme others =>
    rw [List.mapM_cons] at read
    obtain ⟨first, known, read⟩ := Option.bind_eq_some_iff.mp read
    obtain ⟨later, rest, same⟩ := Option.bind_eq_some_iff.mp read
    obtain ⟨rfl, rfl⟩ := List.cons.inj (Option.some.inj same)
    exact ⟨lexeme, others, rfl, known, rest⟩

theorem eq_nil_of_mapM (read : lexemes.mapM token? = some []) : lexemes = [] := by
  cases lexemes with
  | nil => rfl
  | cons lexeme others =>
    rw [List.mapM_cons] at read
    obtain ⟨_, _, read⟩ := Option.bind_eq_some_iff.mp read
    obtain ⟨_, _, same⟩ := Option.bind_eq_some_iff.mp read
    cases same

theorem exists_append_of_mapM {front back : List Token}
    (read : lexemes.mapM token? = some (front ++ back)) :
    ∃ before after, lexemes = before ++ after ∧ before.mapM token? = some front ∧
      after.mapM token? = some back := by
  induction front generalizing lexemes with
  | nil => exact ⟨[], lexemes, rfl, List.mapM_nil, read⟩
  | cons token front ih =>
    obtain ⟨lexeme, others, rfl, known, read⟩ := exists_cons_of_mapM read
    obtain ⟨before, after, rfl, first, second⟩ := ih read
    refine ⟨lexeme :: before, after, rfl, ?_, second⟩
    rw [List.mapM_cons, known, first]
    rfl

theorem exists_plain_of_mapM (read : lexemes.mapM token? = some (token :: tokens))
    (bare : (plain token).Own) :
    ∃ others, lexemes = .plain token :: others ∧ others.mapM token? = some tokens := by
  obtain ⟨lexeme, others, rfl, known, rest⟩ := exists_cons_of_mapM read
  refine ⟨others, ?_, rest⟩
  cases lexeme with
  | plain own => rw [Option.some.inj known]
  | number numeral =>
    obtain ⟨_, _, rfl⟩ := Option.map_eq_some_iff.mp known
    exact bare.elim
  | string units =>
    obtain ⟨_, _, rfl⟩ := Option.map_eq_some_iff.mp known
    exact bare.elim

theorem exists_number_of_mapM {value : Number} (own : ∀ lexeme ∈ lexemes, lexeme.Own)
    (read : lexemes.mapM token? = some (.number value :: tokens)) :
    ∃ numeral others, lexemes = .number numeral :: others ∧ numeral.number? = some value ∧
      others.mapM token? = some tokens := by
  obtain ⟨lexeme, others, rfl, known, rest⟩ := exists_cons_of_mapM read
  cases lexeme with
  | plain plain =>
    obtain rfl := Option.some.inj known
    exact (own _ List.mem_cons_self).elim
  | number numeral =>
    obtain ⟨_, size, same⟩ := Option.map_eq_some_iff.mp known
    obtain rfl := Token.number.inj same
    exact ⟨numeral, others, rfl, size, rest⟩
  | string units =>
    obtain ⟨_, _, same⟩ := Option.map_eq_some_iff.mp known
    cases same

theorem exists_string_of_mapM {value : String} (own : ∀ lexeme ∈ lexemes, lexeme.Own)
    (read : lexemes.mapM token? = some (.string value :: tokens)) :
    ∃ units text others, lexemes = .string units :: others ∧ textOf? units = some text ∧
      String.ofList text = value ∧ others.mapM token? = some tokens := by
  obtain ⟨lexeme, others, rfl, known, rest⟩ := exists_cons_of_mapM read
  cases lexeme with
  | plain plain =>
    obtain rfl := Option.some.inj known
    exact (own _ List.mem_cons_self).elim
  | number numeral =>
    obtain ⟨_, _, same⟩ := Option.map_eq_some_iff.mp known
    cases same
  | string units =>
    obtain ⟨text, spelled, same⟩ := Option.map_eq_some_iff.mp known
    exact ⟨units, text, others, rfl, spelled, Token.string.inj same, rest⟩

/-- The lexemes of a member in front of others. -/
theorem exists_member_of_mapM {key : String} {value others : List Token}
    (own : ∀ lexeme ∈ lexemes, lexeme.Own)
    (read : lexemes.mapM token? = some (.string key :: .colon :: (value ++ others))) :
    ∃ units text front back, lexemes = .string units :: .plain .colon :: (front ++ back) ∧
      textOf? units = some text ∧ String.ofList text = key ∧ front.mapM token? = some value ∧
      back.mapM token? = some others := by
  obtain ⟨units, text, inside, rfl, spelled, same, inner⟩ := exists_string_of_mapM own read
  obtain ⟨inside, rfl, deep⟩ := exists_plain_of_mapM inner trivial
  obtain ⟨front, back, rfl, first, second⟩ := exists_append_of_mapM deep
  exact ⟨units, text, front, back, rfl, spelled, same, first, second⟩

end Lexeme

/-! ### Trees behind the lexemes -/

namespace Tree

mutual

/-- Lexemes that are read as the tokens of a value are those of a tree with that value. -/
theorem exists_of_tokens (value : Value) {lexemes : List Lexeme}
    (own : ∀ lexeme ∈ lexemes, lexeme.Own)
    (read : lexemes.mapM Lexeme.token? = some value.tokens) :
    ∃ tree : Tree, lexemes = tree.lexemes ∧ tree.value? = some value := by
  match value with
  | .null =>
    rw [Value.tokens] at read
    obtain ⟨others, rfl, inner⟩ := Lexeme.exists_plain_of_mapM read trivial
    obtain rfl := Lexeme.eq_nil_of_mapM inner
    exact ⟨.null, rfl, rfl⟩
  | .boolean value =>
    obtain ⟨others, rfl, inner⟩ := Lexeme.exists_plain_of_mapM read trivial
    obtain rfl := Lexeme.eq_nil_of_mapM inner
    exact ⟨.boolean value, rfl, rfl⟩
  | .number size =>
    obtain ⟨numeral, others, rfl, known, inner⟩ := Lexeme.exists_number_of_mapM own read
    obtain rfl := Lexeme.eq_nil_of_mapM inner
    exact ⟨.number numeral, rfl, by rw [value?, known]; rfl⟩
  | .string value =>
    obtain ⟨units, text, others, rfl, known, rfl, inner⟩ := Lexeme.exists_string_of_mapM own read
    obtain rfl := Lexeme.eq_nil_of_mapM inner
    exact ⟨.string units, rfl, by rw [value?, known]; rfl⟩
  | .array [] =>
    obtain ⟨others, rfl, inner⟩ := Lexeme.exists_plain_of_mapM read trivial
    obtain ⟨others, rfl, deep⟩ := Lexeme.exists_plain_of_mapM inner trivial
    obtain rfl := Lexeme.eq_nil_of_mapM deep
    exact ⟨.array [], rfl, rfl⟩
  | .array (first :: others) =>
    obtain ⟨inside, rfl, inner⟩ := Lexeme.exists_plain_of_mapM read trivial
    obtain ⟨front, back, rfl, front_read, back_read⟩ := Lexeme.exists_append_of_mapM inner
    rw [List.forall_mem_cons, List.forall_mem_append] at own
    obtain ⟨item, rfl, known⟩ := exists_of_tokens first own.2.1 front_read
    obtain ⟨items, rfl, rest⟩ := exists_of_furtherItems others own.2.2 back_read
    exact ⟨.array (item :: items), rfl, by rw [value?, itemValues?, known, rest]; rfl⟩
  | .object [] =>
    obtain ⟨others, rfl, inner⟩ := Lexeme.exists_plain_of_mapM read trivial
    obtain ⟨others, rfl, deep⟩ := Lexeme.exists_plain_of_mapM inner trivial
    obtain rfl := Lexeme.eq_nil_of_mapM deep
    exact ⟨.object [], rfl, rfl⟩
  | .object ((key, value) :: others) =>
    obtain ⟨inside, rfl, inner⟩ := Lexeme.exists_plain_of_mapM read trivial
    rw [List.forall_mem_cons] at own
    obtain ⟨units, text, front, back, rfl, spelled, rfl, front_read, back_read⟩ :=
      Lexeme.exists_member_of_mapM own.2 inner
    rw [List.forall_mem_cons, List.forall_mem_cons, List.forall_mem_append] at own
    obtain ⟨tree, rfl, known⟩ := exists_of_tokens value own.2.2.2.1 front_read
    obtain ⟨members, rfl, rest⟩ := exists_of_furtherMembers others own.2.2.2.2 back_read
    exact ⟨.object ((units, tree) :: members), rfl,
      by rw [value?, memberValues?, spelled, known, rest]; rfl⟩

theorem exists_of_furtherItems (values : List Value) {lexemes : List Lexeme}
    (own : ∀ lexeme ∈ lexemes, lexeme.Own)
    (read : lexemes.mapM Lexeme.token? = some (Value.furtherItems values)) :
    ∃ items, lexemes = furtherItems items ∧ itemValues? items = some values := by
  match values with
  | [] =>
    rw [Value.furtherItems] at read
    obtain ⟨others, rfl, inner⟩ := Lexeme.exists_plain_of_mapM read trivial
    obtain rfl := Lexeme.eq_nil_of_mapM inner
    exact ⟨[], rfl, rfl⟩
  | value :: others =>
    rw [Value.furtherItems] at read
    obtain ⟨inside, rfl, inner⟩ := Lexeme.exists_plain_of_mapM read trivial
    obtain ⟨front, back, rfl, front_read, back_read⟩ := Lexeme.exists_append_of_mapM inner
    rw [List.forall_mem_cons, List.forall_mem_append] at own
    obtain ⟨item, rfl, known⟩ := exists_of_tokens value own.2.1 front_read
    obtain ⟨items, rfl, rest⟩ := exists_of_furtherItems others own.2.2 back_read
    exact ⟨item :: items, rfl, by rw [itemValues?, known, rest]; rfl⟩

theorem exists_of_furtherMembers (values : Members) {lexemes : List Lexeme}
    (own : ∀ lexeme ∈ lexemes, lexeme.Own)
    (read : lexemes.mapM Lexeme.token? = some (Value.furtherMembers values)) :
    ∃ members, lexemes = furtherMembers members ∧ memberValues? members = some values := by
  match values with
  | [] =>
    rw [Value.furtherMembers] at read
    obtain ⟨others, rfl, inner⟩ := Lexeme.exists_plain_of_mapM read trivial
    obtain rfl := Lexeme.eq_nil_of_mapM inner
    exact ⟨[], rfl, rfl⟩
  | (key, value) :: others =>
    rw [Value.furtherMembers] at read
    obtain ⟨inside, rfl, inner⟩ := Lexeme.exists_plain_of_mapM read trivial
    rw [List.forall_mem_cons] at own
    obtain ⟨units, text, front, back, rfl, spelled, rfl, front_read, back_read⟩ :=
      Lexeme.exists_member_of_mapM own.2 inner
    rw [List.forall_mem_cons, List.forall_mem_cons, List.forall_mem_append] at own
    obtain ⟨tree, rfl, known⟩ := exists_of_tokens value own.2.2.2.1 front_read
    obtain ⟨members, rfl, rest⟩ := exists_of_furtherMembers others own.2.2.2.2 back_read
    exact ⟨(units, tree) :: members, rfl, by rw [memberValues?, spelled, known, rest]; rfl⟩

end

end Tree

/-! ### Documents -/

/-- A text is a document of the grammar within the limits, and this is its value. -/
def Document (text : List Char) (value : Value) : Prop :=
  ∃ tree : Tree, LexemesWritten tree.lexemes text ∧ tree.WithinLimits ∧ tree.value? = some value

/-- Bytes that are a document with this value, in UTF-8. -/
def EncodedDocument (bytes : List UInt8) (value : Value) : Prop :=
  ∃ text : List Char, bytes = text.flatMap String.utf8EncodeChar ∧ Document text value

namespace Value

variable {value : Value}

/-- A text is read as a value exactly when it is a document with that value. -/
theorem ofChars?_eq_some_iff {text : List Char} :
    Value.ofChars? text = some value ↔ Document text value := by
  constructor
  · intro read
    obtain ⟨tokens, lexed, read'⟩ := Option.bind_eq_some_iff.mp read
    obtain ⟨rfl, _⟩ := ofTokens?_eq_some_iff.mp read'
    obtain ⟨lexemes, written, known⟩ := exists_lexemes_of_tokens? lexed
    obtain ⟨tree, rfl, _⟩ := Tree.exists_of_tokens value written.own known
    exact ⟨tree, written, (Tree.ofChars?_eq_some_iff written).mp read⟩
  · rintro ⟨tree, written, limited⟩
    exact (Tree.ofChars?_eq_some_iff written).mpr limited

theorem parseBytes?_eq_some_iff {bytes : List UInt8} :
    parseBytes? bytes = some value ↔ EncodedDocument bytes value := by
  constructor
  · intro read
    obtain ⟨text, decoded, read⟩ := Option.bind_eq_some_iff.mp read
    exact ⟨text.toList, (Text.fromUTF8?_list_eq_some_iff.mp decoded).symm,
      ofChars?_eq_some_iff.mp read⟩
  · rintro ⟨text, rfl, document⟩
    rw [parseBytes?_flatMap]
    exact ofChars?_eq_some_iff.mpr document

end Value

theorem EncodedDocument.unique {bytes : List UInt8} {value other : Value}
    (document : EncodedDocument bytes value) (also : EncodedDocument bytes other) :
    value = other := by
  rw [← Value.parseBytes?_eq_some_iff] at document also
  exact Option.some.inj (document.symm.trans also)

end ResponseGate.Json
