import ResponseGate.Decimal.Written
import ResponseGate.Json.Value
import ResponseGate.Text.Quoted

/-!
Wrongly typed fields: reading optional fields of an object, and the account of a value that is not
what a field wants. A field that is missing and one that is null are the same.
-/

namespace ResponseGate.Json

/-- What a field can want. -/
inductive Wanted where
  | string
  | boolean
  | message
  deriving DecidableEq, Repr

def Wanted.description : Wanted → String
  | .string => "a string"
  | .boolean => "a boolean"
  | .message => "struct Message"

/-- A value found where another type was wanted. -/
structure Mismatch where
  found : Value
  wanted : Wanted

namespace Number

def description : Number → String
  | integer value => "integer `" ++ toString value ++ "`"
  | decimal value => "floating point `" ++ Decimal.write value ++ "`"

end Number

namespace Value

/-- A value in an error text. Texts are quoted, so the description stays on one line. -/
def description : Value → String
  | null => "null"
  | boolean true => "boolean `true`"
  | boolean false => "boolean `false`"
  | number value => value.description
  | string value => "string " ++ Text.quote value
  | array _ => "sequence"
  | object _ => "map"

end Value

def Mismatch.message (mismatch : Mismatch) : String :=
  "invalid type: " ++ mismatch.found.description ++ ", expected " ++ mismatch.wanted.description

namespace Members

def string? (members : Members) (key : String) : Except Mismatch (Option String) :=
  match members.last? key with
  | none => .ok none
  | some .null => .ok none
  | some (.string value) => .ok (some value)
  | some found => .error ⟨found, .string⟩

def boolean? (members : Members) (key : String) : Except Mismatch (Option Bool) :=
  match members.last? key with
  | none => .ok none
  | some .null => .ok none
  | some (.boolean value) => .ok (some value)
  | some found => .error ⟨found, .boolean⟩

end Members

end ResponseGate.Json
