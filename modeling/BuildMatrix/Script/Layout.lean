import BuildMatrix.Script.Letters

namespace BuildMatrix.Script

structure Layout where
  left : Bool := false
  plus : Bool := false
  blank : Bool := false
  zero : Bool := false
  alternate : Bool := false
  width : Nat := 0
  precision : Option Nat := none
  deriving Inhabited

namespace Layout

def pad (l : Layout) (s : Letters) : Letters :=
  let fill := List.replicate (l.width - s.length) ' '
  if l.left then s ++ fill else fill ++ s

/-- Sets a number: a sign or a mark of its base in front, and zeros or blanks before it. -/
def number (l : Layout) (zeros : Bool) (front digits : Letters) : Letters :=
  if zeros && l.zero && !l.left then
    front ++ List.replicate (l.width - front.length - digits.length) '0' ++ digits
  else l.pad (front ++ digits)

def sign (l : Layout) (negative : Bool) : Letters :=
  if negative then ['-'] else if l.plus then ['+'] else if l.blank then [' '] else []

def whole (l : Layout) (n : Nat) (base : Nat) : Letters :=
  match l.precision with
  | some 0 => if n = 0 then [] else Nat.toDigits base n
  | some p =>
    let digits := Nat.toDigits base n
    List.replicate (p - digits.length) '0' ++ digits
  | none => Nat.toDigits base n

def signed (l : Layout) (i : Int) : Letters :=
  l.number l.precision.isNone (l.sign (i < 0)) (l.whole i.natAbs 10)

def unsigned (l : Layout) (conversion : Char) (n : Nat) : Letters :=
  match conversion with
  | 'o' =>
    let digits := l.whole n 8
    let digits := if l.alternate && digits.head? ≠ some '0' then '0' :: digits else digits
    l.number l.precision.isNone [] digits
  | 'x' =>
    l.number l.precision.isNone (if l.alternate && n ≠ 0 then ['0', 'x'] else []) (l.whole n 16)
  | 'X' =>
    l.number l.precision.isNone (if l.alternate && n ≠ 0 then ['0', 'X'] else [])
      ((l.whole n 16).map Char.toUpper)
  | _ => l.number l.precision.isNone [] (l.whole n 10)

end Layout

end BuildMatrix.Script
