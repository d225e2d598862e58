import BuildMatrix.Toml.Quoted
import BuildMatrix.Toml.Value

namespace BuildMatrix.Toml

/-- The digits of a run in which single underscores may stand between digits. -/
def digitRun? (isDigit : Char → Bool) : List Char → Option (List Char)
  | [] => none
  | [c] => if isDigit c then some [c] else none
  | c :: '_' :: r => if isDigit c then (digitRun? isDigit r).map (c :: ·) else none
  | c :: r => if isDigit c then (digitRun? isDigit r).map (c :: ·) else none

def decimalValue (ds : List Char) : Nat :=
  ds.foldl (fun n c ↦ 10 * n + (c.toNat - '0'.toNat)) 0

/-- A number without a sign has no zero in front of other digits. -/
def wholeRun? (w : List Char) : Option (List Char) := do
  let ds ← digitRun? Char.isDigit w
  if ds.head? = some '0' ∧ ds.length ≠ 1 then none else some ds

def signed (w : List Char) : Bool × List Char :=
  match w with
  | '-' :: r => (true, r)
  | '+' :: r => (false, r)
  | r => (false, r)

def fits (i : Int) : Option Int :=
  if -9223372036854775808 ≤ i ∧ i ≤ 9223372036854775807 then some i else none

def based? (base : Nat) (w : List Char) : Option Int := do
  let isDigit c := (hexValue? c).any (· < base)
  let ds ← digitRun? isDigit w
  fits (ds.foldl (fun n c ↦ base * n + ((hexValue? c).getD 0 : Nat)) 0 : Nat)

def integer? (w : List Char) : Option Int :=
  match w with
  | '0' :: 'x' :: r => based? 16 r
  | '0' :: 'o' :: r => based? 8 r
  | '0' :: 'b' :: r => based? 2 r
  | _ => do
    let (negative, r) := signed w
    let n : Int := decimalValue (← wholeRun? r)
    fits (if negative then -n else n)

def isRunChar (c : Char) : Bool := c.isDigit || c = '_'

def exponent? : List Char → Option Int
  | [] => some 0
  | c :: r =>
    if c = 'e' ∨ c = 'E' then do
      let (negative, r) := signed r
      let n : Int := decimalValue (← digitRun? Char.isDigit r)
      some (if negative then -n else n)
    else none

/-- The value of digits with a sign and an exponent. A number too large for the format is refused,
and one too small is minus infinity. -/
def floatValue? (negative : Bool) (digits : List Char) (exponent : Int) : Option Float :=
  match (Number.Decimal.mk (decimalValue digits) exponent).toBinary64? with
  | some x => some (.finite negative x)
  | none => if negative then some (.infinite true) else none

def float? (w : List Char) : Option Float :=
  let (negative, r) := signed w
  if r = ['i', 'n', 'f'] then some (.infinite negative)
  else if r = ['n', 'a', 'n'] then some .notNumber
  else do
    let whole ← wholeRun? (r.takeWhile isRunChar)
    match r.dropWhile isRunChar with
    | [] => none
    | '.' :: r =>
      let part ← digitRun? Char.isDigit (r.takeWhile isRunChar)
      let exponent ← exponent? (r.dropWhile isRunChar)
      floatValue? negative (whole ++ part) (exponent - part.length)
    | r => floatValue? negative whole (← exponent? r)

def twoDigits? (low high : Nat) (a b : Char) : Bool :=
  a.isDigit && b.isDigit && low ≤ decimalValue [a, b] && decimalValue [a, b] ≤ high

def monthLength (year month : Nat) : Nat :=
  if month = 2 then
    if year % 4 = 0 ∧ (year % 100 ≠ 0 ∨ year % 400 = 0) then 29 else 28
  else if month = 4 ∨ month = 6 ∨ month = 9 ∨ month = 11 then 30
  else 31

def afterDay? : List Char → Option (List Char)
  | y₁ :: y₂ :: y₃ :: y₄ :: '-' :: m₁ :: m₂ :: '-' :: d₁ :: d₂ :: r =>
    let year := decimalValue [y₁, y₂, y₃, y₄]
    let month := decimalValue [m₁, m₂]
    if [y₁, y₂, y₃, y₄].all Char.isDigit && twoDigits? 1 12 m₁ m₂ &&
      twoDigits? 1 (monthLength year month) d₁ d₂
    then some r else none
  | _ => none

def afterTime? : List Char → Option (List Char)
  | h₁ :: h₂ :: ':' :: m₁ :: m₂ :: ':' :: s₁ :: s₂ :: r =>
    if twoDigits? 0 23 h₁ h₂ && twoDigits? 0 59 m₁ m₂ && twoDigits? 0 60 s₁ s₂ then
      match r with
      | '.' :: c :: r => if c.isDigit then some (r.dropWhile Char.isDigit) else none
      | r => some r
    else none
  | _ => none

def isOffset : List Char → Bool
  | [] => true
  | [c] => c = 'Z' || c = 'z'
  | [c, h₁, h₂, ':', m₁, m₂] =>
    (c = '+' || c = '-') && twoDigits? 0 23 h₁ h₂ && twoDigits? 0 59 m₁ m₂
  | _ => false

def isDay (w : List Char) : Bool := afterDay? w = some []

def isTime (zoned : Bool) (w : List Char) : Bool :=
  match afterTime? w with
  | some r => if zoned then isOffset r else r.isEmpty
  | none => false

def isDate (w : List Char) : Bool :=
  isTime false w ||
    match afterDay? w with
    | some [] => true
    | some (c :: r) => (c = 'T' || c = 't') && isTime true r
    | none => false

def isWordChar (c : Char) : Bool :=
  c.isAlphanum || c = '_' || c = '+' || c = '-' || c = '.' || c = ':'

def word? (w : List Char) : Option Value :=
  if w = ['t', 'r', 'u', 'e'] then some (.boolean true)
  else if w = ['f', 'a', 'l', 's', 'e'] then some (.boolean false)
  else if isDate w then some .date
  else (integer? w).map .integer <|> (float? w).map .float

/-- A value written without quotes and brackets. A blank may separate a day from a time. -/
def scalar? (s : List Char) : Option (Value × List Char) :=
  let w := s.takeWhile isWordChar
  let rest := s.dropWhile isWordChar
  match rest with
  | ' ' :: r =>
    if isDay w && isTime true (r.takeWhile isWordChar) then
      some (.date, r.dropWhile isWordChar)
    else (word? w).map (·, rest)
  | _ => (word? w).map (·, rest)

end BuildMatrix.Toml
