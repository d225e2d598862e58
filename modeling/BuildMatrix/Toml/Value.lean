import BuildMatrix.Number.Decimal

namespace BuildMatrix.Toml

inductive Float where
  | finite (negative : Bool) (magnitude : Number.Binary64)
  | infinite (negative : Bool)
  | notNumber
  deriving DecidableEq, Inhabited

def Float.display : Float → String
  | finite negative magnitude =>
    (if negative then "-" else "") ++ magnitude.shortest.plain
  | infinite negative => if negative then "-inf" else "inf"
  | notNumber => "NaN"

/-- How a table came about: written in braces, opened by a header, implied by a longer header, or
implied by a dotted key. This decides what may still be added to it. -/
inductive Origin where
  | braces
  | header
  | implied
  | dotted
  deriving DecidableEq, Inhabited

/-- A value, with the entries of a table in the order of the document. Tables that a header in
double brackets appends to are kept apart from arrays. -/
inductive Value where
  | string (s : String)
  | integer (i : Int)
  | float (f : Float)
  | boolean (b : Bool)
  | date
  | array (items : List Value)
  | tables (items : List Value)
  | table (origin : Origin) (entries : List (String × Value))
  deriving Inhabited

end BuildMatrix.Toml
