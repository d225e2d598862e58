import BuildMatrix.Number.Decimal
import BuildMatrix.Script.Integer
import BuildMatrix.Script.Layout

namespace BuildMatrix.Script

inductive Real where
  | finite (negative : Bool) (x : Number.Binary64)
  | infinite (negative : Bool)
  | undefined (negative : Bool)
  deriving Inhabited

namespace Real

def zero (negative : Bool) : Real := .finite negative ⟨0, -1074⟩

/-- The value nearest to a ratio, and whether it is a poor one: the ratio is too large, or less than
the least normal value and not met exactly. -/
def nearest (negative : Bool) (num den : Nat) : Real × Bool :=
  let x := Number.Binary64.ofRatio num den
  if x.overflows then (.infinite negative, true)
  else
    let (a, b) := Number.Binary64.scale num den (-1075)
    let isSmall := Number.divEven a b < Number.twoTo 53
    (.finite negative x, isSmall && x.num * den ≠ num * x.den)

def ofDecimal (negative : Bool) (n : Nat) (exponent : Int) : Real × Bool :=
  let size := (Nat.toDigits 10 n).length + exponent
  if n = 0 then (zero negative, false)
  else if size < -330 then (zero negative, true)
  else if 310 < size then (.infinite negative, true)
  else nearest negative (n * Number.tenTo exponent.toNat) (Number.tenTo (-exponent).toNat)

def ofBinary (negative : Bool) (n : Nat) (exponent : Int) : Real × Bool :=
  let size := n.log2 + exponent
  if n = 0 then (zero negative, false)
  else if size < -1100 then (zero negative, true)
  else if 1100 < size then (.infinite negative, true)
  else nearest negative (n * Number.twoTo exponent.toNat) (Number.twoTo (-exponent).toNat)

structure Reading where
  value : Real
  rest : Letters
  found : Bool
  isPoor : Bool := false

def readExponent (letter : Char) (s : Letters) : Int × Letters :=
  match s with
  | c :: r =>
    let (minus, digits) :=
      match r with
      | '-' :: d => (true, d)
      | '+' :: d => (false, d)
      | d => (false, d)
    let shown := digits.takeWhile Char.isDigit
    if c.toLower ≠ letter || shown = [] then (0, s)
    else
      let n : Nat := shown.foldl (fun n c ↦ 10 * n + digitValue c) 0
      (if minus then -(n : Int) else n, digits.drop shown.length)
  | [] => (0, s)

/-- The digits before and after a point, and what follows them; nothing if there are no digits. -/
def readDigits (isDigit : Char → Bool) (s : Letters) : Option (Letters × Letters × Letters) :=
  let whole := s.takeWhile isDigit
  let rest := s.drop whole.length
  match rest with
  | '.' :: r =>
    let part := r.takeWhile isDigit
    if whole = [] && part = [] then none else some (whole, part, r.drop part.length)
  | rest => if whole = [] then none else some (whole, [], rest)

def dropTag (s : Letters) : Letters :=
  match s with
  | '(' :: r =>
    match r.dropWhile fun c ↦ c.isAlphanum || c = '_' with
    | ')' :: rest => rest
    | _ => s
  | _ => s

def read (s : Letters) : Reading :=
  let t := s.dropWhile isSpace
  let (negative, t) :=
    match t with
    | '-' :: r => (true, r)
    | '+' :: r => (false, r)
    | r => (false, r)
  let lower := t.map Char.toLower
  let isHex (c : Char) : Bool := hexValue c < 16
  let hex :=
    if "0x".toList.isPrefixOf lower then readDigits isHex (t.drop 2) else none
  if "infinity".toList.isPrefixOf lower then ⟨.infinite negative, t.drop 8, true, false⟩
  else if "inf".toList.isPrefixOf lower then ⟨.infinite negative, t.drop 3, true, false⟩
  else if "nan".toList.isPrefixOf lower then
    ⟨.undefined negative, dropTag (t.drop 3), true, false⟩
  else
    match hex, readDigits Char.isDigit t with
    | some (whole, part, rest), _ =>
      let n := (whole ++ part).foldl (fun n c ↦ 16 * n + hexValue c) 0
      let (exponent, rest) := readExponent 'p' rest
      let (x, isPoor) := ofBinary negative n (exponent - 4 * part.length)
      ⟨x, rest, true, isPoor⟩
    | none, some (whole, part, rest) =>
      let n := (whole ++ part).foldl (fun n c ↦ 10 * n + digitValue c) 0
      let (exponent, rest) := readExponent 'e' rest
      let (x, isPoor) := ofDecimal negative n (exponent - part.length)
      ⟨x, rest, true, isPoor⟩
    | none, none => ⟨zero false, s, false, false⟩

def fixed (places : Nat) (x : Number.Binary64) : Letters := (x.fixed places).toList

def scientific (places : Nat) (x : Number.Binary64) : Nat × Int :=
  let e := if x.mantissa = 0 then 0 else x.magnitude
  let shift : Int := places - e
  let n := Number.divEven (x.num * Number.tenTo shift.toNat) (x.den * Number.tenTo (-shift).toNat)
  if Number.tenTo (places + 1) ≤ n then (n / 10, e + 1) else (n, e)

def showExponent (letter : Char) (size : Nat) (e : Int) : Letters :=
  let digits := Nat.toDigits 10 e.natAbs
  letter :: (if e < 0 then '-' else '+') :: (List.replicate (size - digits.length) '0' ++ digits)

/-- Digits with a point after the first one; the point may be left out if nothing follows. -/
def pointed (l : Layout) (digits : Letters) : Letters :=
  let part := digits.drop 1
  digits.take 1 ++ if part = [] && !l.alternate then [] else '.' :: part

def padDigits (size : Nat) (digits : Letters) : Letters :=
  List.replicate (size - digits.length) '0' ++ digits

def showScientific (l : Layout) (places : Nat) (x : Number.Binary64) : Letters :=
  let (n, e) := scientific places x
  pointed l (padDigits (places + 1) (Nat.toDigits 10 n)) ++ showExponent 'e' 2 e

def dropZeros (s : Letters) : Letters :=
  if s.contains '.' then
    let t := s.reverse.dropWhile (· = '0')
    (if t.head? = some '.' then t.drop 1 else t).reverse
  else s

def withPoint (s : Letters) : Letters := if s.contains '.' then s else s ++ ['.']

def showFixed (l : Layout) (places : Nat) (x : Number.Binary64) : Letters :=
  let s := fixed places x
  if l.alternate then withPoint s else s

def showGeneral (l : Layout) (count : Nat) (x : Number.Binary64) : Letters :=
  let (_, e) := scientific (count - 1) x
  let trim (s : Letters) := if l.alternate then s else dropZeros s
  if -4 ≤ e && e < count then trim (showFixed l ((count : Int) - 1 - e).toNat x)
  else
    let s := showScientific l (count - 1) x
    let front := s.takeWhile (· ≠ 'e')
    trim front ++ s.drop front.length

/-- The digits to the base 16 with a power of two; without a precision as many as are needed. A
normal value has one before its point. -/
def showBinary (l : Layout) (x : Number.Binary64) : Letters :=
  let places := 13
  let e := if x.mantissa = 0 then 0 else x.exponent + 52
  let digits :=
    match l.precision with
    | some p =>
      if p < places then
        padDigits (p + 1)
          (Nat.toDigits 16 (Number.divEven x.mantissa (Number.twoTo (4 * (places - p)))))
      else
        padDigits (places + 1) (Nat.toDigits 16 x.mantissa) ++ List.replicate (p - places) '0'
    | none =>
      let all := padDigits (places + 1) (Nat.toDigits 16 x.mantissa)
      all.take 1 ++ ((all.drop 1).reverse.dropWhile (· = '0')).reverse
  pointed l digits ++ showExponent 'p' 1 e

def set (l : Layout) (conversion : Char) (x : Real) : Letters :=
  let s :=
    match x with
    | .infinite negative => l.pad (l.sign negative ++ "inf".toList)
    | .undefined negative => l.pad (l.sign negative ++ "nan".toList)
    | .finite negative x =>
      let sign := l.sign negative
      match conversion.toLower with
      | 'f' => l.number true sign (showFixed l (l.precision.getD 6) x)
      | 'e' => l.number true sign (showScientific l (l.precision.getD 6) x)
      | 'a' => l.number true (sign ++ "0x".toList) (showBinary l x)
      | _ => l.number true sign (showGeneral l (max 1 (l.precision.getD 6)) x)
  if conversion.isUpper then s.map Char.toUpper else s

end Real

end BuildMatrix.Script
