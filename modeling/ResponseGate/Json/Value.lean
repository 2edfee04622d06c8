/-!
JSON values. A number without fraction and exponent that fits 64 bits stays a whole number; every
other one becomes a binary64 number, and one too large for that is no number at all. An object keeps
its members as they were written, repeated keys included; looking a key up finds the member given
last.
-/

namespace ResponseGate.Json

/-! ### Numbers -/

inductive Number where
  | integer (value : Int)
  | decimal (value : Float)
  deriving DecidableEq, Repr

/-- A number as it is spelled: its digits, with the fraction and the power of ten if there are
any. -/
structure Numeral where
  negative : Bool
  whole : List Nat
  fraction : Option (List Nat)
  power : Option Int
  deriving DecidableEq, Repr

namespace Numeral

/-- The digits a text begins with, and what follows them. -/
def digits (text : List Char) : List Nat × List Char :=
  ((text.takeWhile Char.isDigit).map fun c => c.toNat - '0'.toNat, text.dropWhile Char.isDigit)

/-- The value of digits read from the left. -/
def valueOf (digits : List Nat) : Nat := digits.foldl (fun value digit => value * 10 + digit) 0

/-- No digits, or a zero in front of others, do not make a whole part. -/
def wholePart? (text : List Char) : Option (List Nat × List Char) :=
  match digits text with
  | ([], _) => none
  | (0 :: _ :: _, _) => none
  | found => some found

def fractionPart? : List Char → Option (Option (List Nat) × List Char)
  | '.' :: text =>
    match digits text with
    | ([], _) => none
    | (found, rest) => some (some found, rest)
  | text => some (none, text)

/-- The digits of an exponent, which may carry a sign and must end the numeral. -/
def exponent? (text : List Char) : Option Int :=
  let (negative, text) := match text with
    | '-' :: text => (true, text)
    | '+' :: text => (false, text)
    | text => (false, text)
  match digits text with
  | (_ :: _, _ :: _) => none
  | ([], _) => none
  | (found, []) => some (if negative then -(valueOf found : Int) else valueOf found)

def powerPart? : List Char → Option (Option Int)
  | [] => some none
  | c :: text => if c == 'e' || c == 'E' then (exponent? text).map some else none

/-- Reads a whole text as one numeral. -/
def ofChars? (text : List Char) : Option Numeral := do
  let (negative, text) := match text with
    | '-' :: text => (true, text)
    | text => (false, text)
  let (whole, text) ← wholePart? text
  let (fraction, text) ← fractionPart? text
  let power ← powerPart? text
  return { negative, whole, fraction, power }

/-- Extends a significand by digits for as long as it fits 64 bits, counting the digits taken. -/
def gather (significand taken : Nat) : List Nat → Nat × Nat
  | [] => (significand, taken)
  | digit :: digits =>
    let longer := significand * 10 + digit
    if longer < Nat.pow 2 64 then gather longer (taken + 1) digits else (significand, taken)

/-- The significant digits as one number below 2 ^ 64, and the power of ten it is scaled by. Digits
of the whole part that do not fit still count as places, those of the fraction do not. -/
def significand (numeral : Numeral) : Nat × Int :=
  let (whole, taken) := gather 0 0 numeral.whole
  let left := numeral.whole.length - taken
  let (all, places) := gather whole 0 (numeral.fraction.getD [])
  (all, left - places + numeral.power.getD 0)

/-- The nearest binary64 number to a power of ten. -/
def powerOfTen (exponent : Nat) : Float := Float.ofScientific 1 false exponent

/-- The largest power of ten that binary64 holds. -/
def maxPower : Nat := 308

/-- Divides by a power of ten, in steps when it is beyond the largest one, until nothing is left. -/
def shrink (x : Float) (exponent : Nat) : Float :=
  if exponent ≤ maxPower then x / powerOfTen exponent
  else if x == 0 then x
  else shrink (x / powerOfTen maxPower) (exponent - maxPower)
termination_by exponent
decreasing_by simp only [maxPower] at *; omega

/-- The size of a numeral as a binary64 number, unless it is too large for one. -/
def size? (numeral : Numeral) : Option Float :=
  let (units, scale) := numeral.significand
  let x := Float.ofNat units
  match scale with
  | .negSucc n => some (shrink x (n + 1))
  | .ofNat n =>
    if x == 0 then some x
    else if n > maxPower then none
    else
      let scaled := x * powerOfTen n
      if scaled.isInf then none else some scaled

/-- The integer a numeral without fraction and exponent stands for, if 64 bits hold it. Minus zero
is none. -/
def integer? (numeral : Numeral) : Option Int :=
  if numeral.fraction.isSome || numeral.power.isSome then none
  else
    let (size, taken) := gather 0 0 numeral.whole
    if taken < numeral.whole.length then none
    else if numeral.negative then
      if 0 < size && size ≤ Nat.pow 2 63 then some (-(size : Int)) else none
    else some size

def number? (numeral : Numeral) : Option Number :=
  match numeral.integer? with
  | some value => some (.integer value)
  | none => numeral.size?.map fun size => .decimal (if numeral.negative then -size else size)

end Numeral

/-! ### Values -/

inductive Value where
  | null
  | boolean (value : Bool)
  | number (value : Number)
  | string (value : String)
  | array (items : List Value)
  | object (members : List (String × Value))
  deriving Inhabited

abbrev Members := List (String × Value)

/-- The value a key was given last. -/
def Members.last? (members : Members) (key : String) : Option Value :=
  members.reverse.lookup key

namespace Value

def asString? : Value → Option String
  | string value => some value
  | _ => none

/-- The items of an array; any other value has none. -/
def items : Value → List Value
  | array items => items
  | _ => []

/-- The value a key of an object was given last. -/
def member? : Value → String → Option Value
  | object members, key => Members.last? members key
  | _, _ => none

end Value

end ResponseGate.Json
