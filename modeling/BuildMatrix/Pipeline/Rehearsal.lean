import BuildMatrix.Pipeline

namespace BuildMatrix.Pipeline

inductive Pattern where
  | exact (line : String)
  | startsWith (part : String)
  | contains (part : String)
  deriving DecidableEq, Inhabited

def occursIn (part : List Char) : List Char → Bool
  | [] => part.isEmpty
  | c :: r => part.isPrefixOf (c :: r) || occursIn part r

def Pattern.fits : Pattern → String → Bool
  | exact line, s => s == line
  | startsWith part, s => part.toList.isPrefixOf s.toList
  | contains part, s => occursIn part.toList s.toList

/-- Answers prepared for commands, the first that fits being given; without one a command cannot be
started. -/
structure Rehearsal where
  expected : List (Pattern × StageOutput)
  otherwise : Option StageOutput
  deriving DecidableEq, Inhabited

def Rehearsal.answer (r : Rehearsal) (c : Command) : Except String StageOutput :=
  match (r.expected.find? fun e ↦ e.1.fits c.display).map (·.2) <|> r.otherwise with
  | some output => .ok output
  | none => .error ("unexpected command: " ++ c.display)

end BuildMatrix.Pipeline
