/-!
The shortest decimal of a binary fraction: the fewest digits that read back as the same binary64
value, the nearest such decimal where several have that many digits, and the even one on a tie.
-/

namespace ResponseGate

/-- A finite value of binary64 without its sign, as a whole number of units of a power of two. -/
structure Binary where
  units : Nat
  scale : Int
  /-- Whether the neighbour below is half as far away as the neighbour above. -/
  closerBelow : Bool
  deriving DecidableEq, Repr

/-- Reads the fields of a bit pattern that stands for a finite value. -/
def Binary.ofBits (bits : UInt64) : Binary :=
  let field := ((bits >>> 52) &&& 0x7FF).toNat
  let fraction := (bits &&& 0xFFFFFFFFFFFFF).toNat
  if field = 0 then ⟨fraction, -1074, false⟩
  else ⟨Nat.pow 2 52 + fraction, field - 1075, fraction == 0 && field > 1⟩

/-- A decimal without its sign: a whole number of units of a power of ten. -/
structure Decimal where
  units : Nat
  scale : Int
  deriving DecidableEq, Repr

/-- The order of a decimal and a number of units of a power of two, by cross-multiplication. -/
def Decimal.compareBinary (decimal : Decimal) (units : Nat) (scale : Int) : Ordering :=
  compare (decimal.units * Nat.pow 10 decimal.scale.toNat * Nat.pow 2 (-scale).toNat)
    (units * Nat.pow 2 scale.toNat * Nat.pow 10 (-decimal.scale).toNat)

namespace Binary

/-- Whether a decimal lies among the reals that round to the value: from half way to the neighbour
below to half way to the neighbour above, the ends included exactly when the value is even. -/
def admits (value : Binary) (decimal : Decimal) : Bool :=
  let lowest := 4 * value.units - (if value.closerBelow then 1 else 2)
  let below := decimal.compareBinary lowest (value.scale - 2)
  let above := decimal.compareBinary (4 * value.units + 2) (value.scale - 2)
  let closed := value.units % 2 == 0
  (below == .gt || (closed && below == .eq)) && (above == .lt || (closed && above == .eq))

/-- The value as a quotient of two whole numbers. -/
def quotient (value : Binary) : Nat × Nat :=
  (value.units * Nat.pow 2 value.scale.toNat, Nat.pow 2 (-value.scale).toNat)

/-- The least power of ten above a positive value. Digit counts leave two candidates. -/
def magnitude (value : Binary) : Int :=
  let (above, below) := value.quotient
  let guess : Int := (Nat.toDigits 10 above).length - (Nat.toDigits 10 below).length
  if above * Nat.pow 10 (-guess).toNat < below * Nat.pow 10 guess.toNat then guess else guess + 1

/-- The two decimals around the value that are whole numbers of units of ten to the given power. -/
def neighbours (value : Binary) (scale : Int) : Decimal × Decimal :=
  let (above, below) := value.quotient
  let floor := above * Nat.pow 10 (-scale).toNat / (below * Nat.pow 10 scale.toNat)
  (⟨floor, scale⟩, ⟨floor + 1, scale⟩)

/-- Picks the nearer of the neighbours, or the even one when the value is half way between. -/
def nearer (value : Binary) (low high : Decimal) : Decimal :=
  match (Decimal.mk (low.units + high.units) low.scale).compareBinary
      (2 * value.units) value.scale with
  | .gt => low
  | .lt => high
  | .eq => if low.units % 2 == 0 then low else high

/-- The best decimal on one grid that reads back as the value. -/
def onGrid? (value : Binary) (scale : Int) : Option Decimal :=
  let (low, high) := value.neighbours scale
  match value.admits low, value.admits high with
  | true, true => some (value.nearer low high)
  | true, false => some low
  | false, true => some high
  | false, false => none

/-- The value written out in full. -/
def exactly (value : Binary) : Decimal :=
  ⟨value.units * Nat.pow 2 value.scale.toNat * Nat.pow 5 (-value.scale).toNat, min value.scale 0⟩

/-- Tries one digit, then two, up to the seventeen that always suffice. -/
def shortest (value : Binary) : Decimal :=
  let magnitude := value.magnitude
  ((List.range 17).findSome? fun (digits : Nat) =>
    value.onGrid? (magnitude - (digits + 1))).getD value.exactly

end Binary

end ResponseGate
