import ResponseGate.Decimal.Shortest

/-!
How a binary64 number is written: with a point when its size is moderate, and with an exponent
when it is not. A number never looks like an integer.
-/

namespace ResponseGate.Decimal

/-- The least power of ten that the first digit may count in a number without an exponent. -/
def leastPlain : Int := -5

/-- The greatest one. -/
def greatestPlain : Int := 15

/-- Digits with the place of the first one, trailing zeros removed. -/
structure Figures where
  digits : List Char
  exponent : Int
  deriving DecidableEq, Repr

def Figures.ofDecimal (decimal : Decimal) : Figures :=
  let digits := Nat.toDigits 10 decimal.units
  ⟨(digits.reverse.dropWhile (· == '0')).reverse, decimal.scale + digits.length - 1⟩

def zeros (count : Int) : List Char := List.replicate count.toNat '0'

/-- The written form: the point after, inside or before the digits, or one digit before the point
and a signed exponent behind. -/
def Figures.written (figures : Figures) : List Char :=
  let length : Int := figures.digits.length
  let exponent := figures.exponent
  if leastPlain ≤ exponent ∧ exponent ≤ greatestPlain then
    if exponent < 0 then ['0', '.'] ++ zeros (-exponent - 1) ++ figures.digits
    else if length ≤ exponent + 1 then
      figures.digits ++ zeros (exponent + 1 - length) ++ ['.', '0']
    else
      let (whole, fraction) := figures.digits.splitAt (exponent + 1).toNat
      whole ++ ['.'] ++ fraction
  else
    let (first, others) := figures.digits.splitAt 1
    let mantissa := if others.isEmpty then first else first ++ ['.'] ++ others
    mantissa ++ ['e', if exponent < 0 then '-' else '+'] ++ Nat.toDigits 10 exponent.natAbs

/-- A finite number in full: its sign, which zero has too, and its written digits. -/
def write (x : Float) : String :=
  let bits := x.toBits
  let value := Binary.ofBits bits
  let sign := if bits >>> 63 == 1 then ['-'] else []
  let size :=
    if value.units = 0 then ['0', '.', '0'] else (Figures.ofDecimal value.shortest).written
  String.ofList (sign ++ size)

/-! The sign of zero stays, a number without an exponent has a point, and an exponent is needed
beyond sixteen places before the point or four zeros after it. -/

example : write (-0.0) = "-0.0" := by decide +kernel
example : write 1000 = "1000.0" := by decide +kernel
example : write 123456.75 = "123456.75" := by decide +kernel
example : write 1e15 = "1000000000000000.0" := by decide +kernel
example : write 1e16 = "1e+16" := by decide +kernel
example : write 0.00001 = "0.00001" := by decide +kernel
example : write 0.000001 = "1e-6" := by decide +kernel
example : write 5e-324 = "5e-324" := by decide +kernel
example : write (0.1 + 0.2) = "0.30000000000000004" := by decide +kernel

end ResponseGate.Decimal
