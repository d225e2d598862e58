import BuildMatrix.Number.Power

namespace BuildMatrix.Number

/-- The quotient rounded to the nearest natural number, a half to the even one. -/
def divEven (num den : Nat) : Nat :=
  let q := num / den
  let r := num % den
  if 2 * r < den then q
  else if den < 2 * r then q + 1
  else if q % 2 = 0 then q
  else q + 1

/-- The number `mantissa * 2 ^ exponent` of the binary64 format, without its sign. -/
structure Binary64 where
  mantissa : Nat
  exponent : Int
  deriving DecidableEq, Inhabited

namespace Binary64

def num (x : Binary64) : Nat := x.mantissa * twoTo x.exponent.toNat

def den (x : Binary64) : Nat := twoTo (-x.exponent).toNat

def scale (num den : Nat) (exponent : Int) : Nat × Nat :=
  (num * twoTo (-exponent).toNat, den * twoTo exponent.toNat)

/-- The value nearest to `num / den`, a half to the even mantissa. It has 53 bits, or the least
exponent. -/
def ofRatio (num den : Nat) : Binary64 :=
  let low := max ((num.log2 : Int) - den.log2 - 53) (-1074)
  let (a, b) := scale num den low
  let exponent := if b * twoTo 53 ≤ a then low + 1 else low
  let (a, b) := scale num den exponent
  let mantissa := divEven a b
  if mantissa = twoTo 53 then ⟨twoTo 52, exponent + 1⟩ else ⟨mantissa, exponent⟩

def overflows (x : Binary64) : Bool := twoTo 1024 * x.den ≤ x.num

def add (x y : Binary64) : Binary64 := ofRatio (x.num * y.den + y.num * x.den) (x.den * y.den)

def div (x y : Binary64) : Binary64 := ofRatio (x.num * y.den) (x.den * y.num)

def lt (x y : Binary64) : Bool := x.num * y.den < y.num * x.den

end Binary64

end BuildMatrix.Number
