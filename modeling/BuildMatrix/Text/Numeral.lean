namespace BuildMatrix.Text

namespace Numeral

def digits (s : List Char) : Nat × List Char :=
  ((s.takeWhile Char.isDigit).length, s.dropWhile Char.isDigit)

def unsigned : List Char → List Char
  | '+' :: r | '-' :: r => r
  | r => r

end Numeral

/-- Whether a text is a number: digits with a point and an exponent, or a word for what is infinite
or no number. -/
def isNumeral (s : List Char) : Bool :=
  let s := Numeral.unsigned s
  let isWord := ["inf", "infinity", "nan"].contains (String.ofList (s.map Char.toLower))
  let (whole, s) := Numeral.digits s
  let (part, s) := match s with
    | '.' :: r => Numeral.digits r
    | r => (0, r)
  let ends := match s with
    | [] => true
    | e :: r =>
      let r := Numeral.unsigned r
      (e = 'e' || e = 'E') && r ≠ [] && r.all Char.isDigit
  isWord || 0 < whole + part && ends

end BuildMatrix.Text
