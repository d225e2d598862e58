import BuildMatrix.Path
import BuildMatrix.Text.Lines

namespace BuildMatrix

structure Diagnostic where
  message : String
  location : Option Path := none
  context : List String := []
  suggestions : List String := []
  deriving DecidableEq, Inhabited

namespace Diagnostic

def error (message : String) : Diagnostic where
  message := message

def withContext (d : Diagnostic) (text : String) : Diagnostic :=
  { d with context := d.context ++ [text] }

def withSuggestion (d : Diagnostic) (text : String) : Diagnostic :=
  { d with suggestions := d.suggestions ++ [text] }

def withLocation (d : Diagnostic) (p : Path) : Diagnostic :=
  { d with location := some p }

def painted (colour : Nat) (text : String) : String :=
  "\x1b[1;" ++ toString colour ++ "m" ++ text ++ "\x1b[0m"

def heading (color : Bool) (colour : Nat) (text : String) : String :=
  if color then painted colour text else text

/-- The first line of a text is marked, and the others are set below it. -/
def contextText (text : String) : String :=
  match Text.linesOf text with
  | [] => ""
  | l :: ls =>
    "  = " ++ l ++ "\n" ++ String.join (ls.map fun l ↦ "    " ++ l ++ "\n")

def locationText : Option Path → String
  | none => ""
  | some p => "  --> " ++ p.display ++ "\n"

def numbered (n : Nat) : List String → String
  | [] => ""
  | s :: rest => "  " ++ toString n ++ ". " ++ s ++ "\n" ++ numbered (n + 1) rest

def suggestionText (color : Bool) (suggestions : List String) : String :=
  if suggestions = [] then ""
  else "\n" ++ heading color 32 "help" ++ ": consider:\n" ++ numbered 1 suggestions

def format (d : Diagnostic) (color : Bool) : String :=
  heading color 31 "error" ++ ": " ++ d.message ++ "\n" ++ locationText d.location ++
    String.join (d.context.map contextText) ++ suggestionText color d.suggestions

end Diagnostic

end BuildMatrix
