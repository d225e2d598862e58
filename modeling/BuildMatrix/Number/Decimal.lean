import BuildMatrix.Number.Binary64

namespace BuildMatrix.Number

def digits (n : Nat) : List Char := Nat.toDigits 10 n

/-- A number of tenths, hundredths and so on, with all of its places written. -/
def placed (places n : Nat) : String :=
  let whole := digits (n / tenTo places)
  let part := digits (n % tenTo places)
  let zeros := List.replicate (places - part.length) '0'
  String.ofList (if places = 0 then whole else whole ++ '.' :: (zeros ++ part))

def Binary64.fixed (places : Nat) (x : Binary64) : String :=
  placed places (divEven (x.num * tenTo places) x.den)

structure Decimal where
  digits : Nat
  exponent : Int
  deriving DecidableEq, Inhabited

namespace Decimal

def num (d : Decimal) : Nat := d.digits * tenTo d.exponent.toNat

def den (d : Decimal) : Nat := tenTo (-d.exponent).toNat

def toBinary64? (d : Decimal) : Option Binary64 :=
  if d.digits = 0 then some ⟨0, -1074⟩
  else
    let size := (Number.digits d.digits).length + d.exponent
    if size < -330 then some ⟨0, -1074⟩
    else if 310 < size then none
    else
      let x := Binary64.ofRatio d.num d.den
      if x.overflows then none else some x

def dropZeros : Nat → Decimal → Decimal
  | 0, d => d
  | fuel + 1, d =>
    if d.digits % 10 = 0 ∧ d.digits ≠ 0 then dropZeros fuel ⟨d.digits / 10, d.exponent + 1⟩ else d

def plain (d : Decimal) : String :=
  let d := if d.digits = 0 then ⟨0, 0⟩ else dropZeros (Number.digits d.digits).length d
  if 0 ≤ d.exponent then placed 1 (10 * d.num) else placed (-d.exponent).toNat d.digits

end Decimal

namespace Binary64

/-- Whether the decimal rounds to the value: it lies between the midpoints to the neighbours, and
may be one of them if the mantissa is even. -/
def near (x : Binary64) (d : Decimal) : Bool :=
  let below := if x.mantissa = twoTo 52 ∧ -1074 < x.exponent then 1 else 2
  let unit := twoTo x.exponent.toNat
  let left := (4 * x.mantissa - below) * unit * d.den
  let right := (4 * x.mantissa + 2) * unit * d.den
  let it := 4 * d.num * x.den
  if x.mantissa % 2 = 0 then left ≤ it && it ≤ right else left < it && it < right

def magnitude (x : Binary64) : Int :=
  let up := (digits (x.num / x.den)).length
  if x.den ≤ x.num then up - 1
  else
    let down := (digits ((x.den - 1) / x.num)).length
    if x.num * tenTo down < x.den then -(down : Int) - 1 else -(down : Int)

/-- The better of the two neighbours of the value among the decimals with this exponent, if one of
them rounds to it; the upper one if both are equally near. -/
def onGrid (x : Binary64) (exponent : Int) : Option Decimal :=
  let a := x.num * tenTo (-exponent).toNat
  let b := x.den * tenTo exponent.toNat
  let low : Decimal := ⟨a / b, exponent⟩
  let high : Decimal := ⟨a / b + 1, exponent⟩
  match x.near low, x.near high with
  | true, true => some (if 2 * (a % b) < b then low else high)
  | true, false => some low
  | false, true => some high
  | false, false => none

/-- The fewest digits that round to the value, and of those the nearest. -/
def shortest (x : Binary64) : Decimal :=
  if x.mantissa = 0 then ⟨0, 0⟩
  else
    let found := (List.range 17).findSome? fun (k : Nat) ↦ x.onGrid (x.magnitude - (k : Int))
    found.getD ⟨x.num * Nat.pow 5 (-x.exponent).toNat, min x.exponent 0⟩

end Binary64

end BuildMatrix.Number
