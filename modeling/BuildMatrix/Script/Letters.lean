import BuildMatrix.Path

namespace BuildMatrix.Script

/-- Text of a script. Each character stands for one byte. -/
abbrev Letters := List Char

def lettersOf (bytes : List UInt8) : Letters := bytes.map fun b ↦ Char.ofNat b.toNat

def bytesOf (s : Letters) : List UInt8 := s.map fun c ↦ c.toNat.toUInt8

def pathOf (s : Letters) : Path := ⟨bytesOf s⟩

def lettersOfString (s : String) : Letters := lettersOf (Text.Utf8.bytesOf s)

def isNameStart (c : Char) : Bool := c.isAlpha || c = '_'

def isNameChar (c : Char) : Bool := c.isAlphanum || c = '_'

def isName (s : Letters) : Bool := s.head?.any isNameStart && s.all isNameChar

def splitName (s : Letters) : Letters × Letters :=
  if s.head?.any isNameStart then (s.takeWhile isNameChar, s.dropWhile isNameChar) else ([], s)

def isSpecial (c : Char) : Bool := c.isDigit || ['!', '#', '$', '*', '-', '?', '@'].contains c

def isSpace (c : Char) : Bool := [' ', '\t', '\n', '\x0b', '\x0c', '\r'].contains c

def digitValue (c : Char) : Nat := c.toNat - '0'.toNat

def showNat (n : Nat) : Letters := Nat.toDigits 10 n

def showInt (i : Int) : Letters :=
  if i < 0 then '-' :: showNat i.natAbs else showNat i.natAbs

def before : Letters → Letters → Bool
  | _, [] => false
  | [], _ :: _ => true
  | a :: s, b :: t => a.toNat < b.toNat || a == b && before s t

def splitAt (sign : Char) : Letters → List Letters
  | [] => [[]]
  | c :: rest =>
    if c = sign then [] :: splitAt sign rest
    else
      match splitAt sign rest with
      | [] => [[c]]
      | part :: parts => (c :: part) :: parts

/-- A text in quotes that a script can read back; a quote stands in quotes of the other kind. -/
def quoted : Letters → Letters
  | s => quoteFrom (s.length + 1) s
where
  /-- Runs without a quote in single quotes, and runs of quotes in double ones. -/
  quoteFrom : Nat → Letters → Letters
    | 0, _ => []
    | fuel + 1, s =>
      let front := s.takeWhile (· ≠ '\'')
      let rest := s.dropWhile (· ≠ '\'')
      let quotes := rest.takeWhile (· = '\'')
      let rest := rest.dropWhile (· = '\'')
      let shown := '\'' :: front ++ ['\'']
      if quotes = [] then shown
      else
        shown ++ '"' :: quotes ++ ['"'] ++ if rest = [] then [] else quoteFrom fuel rest

end BuildMatrix.Script
