import BuildMatrix.Script.Letters

namespace BuildMatrix.Script

def leastInt : Int := -9223372036854775808

def greatestInt : Int := 9223372036854775807

/-- The number that the low 64 bits of `i` stand for. -/
def wrap (i : Int) : Int := i.bmod 18446744073709551616

structure Numeral where
  value : Int
  rest : Letters
  found : Bool
  deriving Inhabited

def hexValue (c : Char) : Nat :=
  if c.isDigit then c.toNat - '0'.toNat
  else if 'a' ≤ c ∧ c ≤ 'z' then c.toNat - 'a'.toNat + 10
  else if 'A' ≤ c ∧ c ≤ 'Z' then c.toNat - 'A'.toNat + 10
  else 36

/-- Reads a number in a base. In the base 0 the text says by `0x`, `0b` or `0` what its base is; in
the base 16 it may. -/
def readNumeral (base : Nat) (s : Letters) : Numeral :=
  let t := s.dropWhile isSpace
  let (negative, t) :=
    match t with
    | '-' :: r => (true, r)
    | '+' :: r => (false, r)
    | r => (false, r)
  let isHex (r : Letters) : Bool := r.head?.any fun c ↦ hexValue c < 16
  let isBinary (r : Letters) : Bool := r.head?.any fun c ↦ hexValue c < 2
  let (base, t) :=
    match t with
    | '0' :: x :: r =>
      if (base = 0 || base = 16) && (x = 'x' || x = 'X') && isHex r then (16, r)
      else if base = 0 && (x = 'b' || x = 'B') && isBinary r then (2, r)
      else (if base = 0 then 8 else base, t)
    | '0' :: _ => (if base = 0 then 8 else base, t)
    | _ => (if base = 0 then 10 else base, t)
  let digits := t.takeWhile fun c ↦ hexValue c < base
  let n : Nat := digits.foldl (fun n c ↦ base * n + hexValue c) 0
  if digits = [] then ⟨0, s, false⟩
  else ⟨if negative then -(n : Int) else n, t.drop digits.length, true⟩

def clamp (i : Int) : Int := max leastInt (min greatestInt i)

/-- A number in a base as a whole text, with blanks around it. Only in the base 0 it may be
missing. -/
def integer? (base : Nat) (s : Letters) : Option Int :=
  let n := readNumeral base s
  if n.value < leastInt || greatestInt < n.value then none
  else if base ≠ 0 && !n.found then none
  else if (n.rest.dropWhile isSpace) = [] then some n.value
  else none

end BuildMatrix.Script
