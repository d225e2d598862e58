namespace BuildMatrix.Text

/-- The lines of a text. A line ends at a newline, with a carriage return directly before it
dropped; nothing follows the last newline. -/
def lines : List Char → List (List Char)
  | [] => []
  | '\n' :: r => [] :: lines r
  | '\r' :: '\n' :: r => [] :: lines r
  | c :: r =>
    match lines r with
    | [] => [[c]]
    | l :: ls => (c :: l) :: ls

def linesOf (s : String) : List String := (lines s.toList).map String.ofList

def endLine (s : String) : String :=
  if s.toList.getLast? = some '\n' then s else s ++ "\n"

end BuildMatrix.Text
