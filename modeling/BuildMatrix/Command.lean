import BuildMatrix.Path
import BuildMatrix.Text.Blank

namespace BuildMatrix

/-- A program to run with its arguments, which are text, and the directory to run it in. -/
structure Command where
  program : Path
  args : List String := []
  cwd : Option Path := none
  deriving DecidableEq, Inhabited

namespace Command

def ofProgram (program : Path) : Command where
  program := program

def withArgs (c : Command) (args : List String) : Command := { c with args := c.args ++ args }

def withCwd (c : Command) (cwd : Path) : Command := { c with cwd := some cwd }

def escapeQuote (c : Char) : List Char := if c = '"' then ['\\', '"'] else [c]

def needsQuotes (s : List Char) : Bool := s.isEmpty || s.any fun c ↦ Text.isBlank c || c = '"'

/-- A word is put in quotes if it is empty or holds a blank or a quote; a quote inside is marked
with a backslash, and nothing else is. -/
def quote (s : List Char) : List Char :=
  if needsQuotes s then '"' :: s.flatMap escapeQuote ++ ['"'] else s

def words (c : Command) : List (List Char) :=
  c.program.display.toList :: c.args.map String.toList

def display (c : Command) : String := String.ofList ([' '].intercalate (c.words.map quote))

end Command

end BuildMatrix
