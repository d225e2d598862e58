import BuildMatrix.Diagnostic
import BuildMatrix.Json
import BuildMatrix.Output
import BuildMatrix.Text.Blank
import BuildMatrix.Text.Column

namespace BuildMatrix

inductive Verbosity where
  | quiet
  | normal
  | verbose
  deriving DecidableEq, Inhabited

inductive ColorChoice where
  | auto
  | always
  | never
  deriving DecidableEq, Inhabited

namespace ColorChoice

def name : ColorChoice → String
  | auto => "auto"
  | always => "always"
  | never => "never"

/-- The choice with this name in any case. No character but an ASCII letter has one of the letters
of the three names as its lower case. -/
def parse? (s : String) : Option ColorChoice :=
  [auto, always, never].find? fun c ↦ c.name.toList = Text.lower s.toList

def refusal (s : String) : String :=
  "invalid color choice '" ++ s ++ "'; expected 'auto', 'always', or 'never'"

end ColorChoice

inductive Status where
  | finished
  | generating
  | building
  | running
  | info
  | skipped
  | error
  deriving DecidableEq, Inhabited

namespace Status

def label : Status → String
  | finished => "Finished"
  | generating => "Generating"
  | building => "Building"
  | running => "Running"
  | info => "Info"
  | skipped => "Skipped"
  | error => "error"

def colour : Status → Nat
  | finished => 32
  | generating | building | running => 36
  | info => 34
  | skipped => 33
  | error => 31

end Status

inductive Mode where
  | human (verbosity : Verbosity) (color : ColorChoice)
  | json
  deriving DecidableEq

instance : Inhabited Mode := ⟨.human .normal .auto⟩

structure Console where
  mode : Mode
  useColor : Bool
  deriving DecidableEq, Inhabited

namespace Console

def ofMode (terminal : Bool) (mode : Mode) : Console where
  mode := mode
  useColor :=
    match mode with
    | .json | .human _ .never => false
    | .human _ .always => true
    | .human _ .auto => terminal

/-- Output for programs goes before all else, and quiet before verbose. -/
def ofFlags (terminal quiet verbose : Bool) (color : ColorChoice) (json : Bool) : Console :=
  ofMode terminal <|
    if json then .json
    else .human (if quiet then .quiet else if verbose then .verbose else .normal) color

def isJson (c : Console) : Bool := c.mode matches .json

def isQuiet (c : Console) : Bool := c.mode matches .human .quiet _

def isVerbose (c : Console) : Bool := c.mode matches .human .verbose _

def heading (c : Console) (s : Status) : String :=
  Diagnostic.heading c.useColor s.colour (Text.padLeft 12 s.label)

def event (c : Console) (j : Json) : Output :=
  if c.isJson then .out (j.text ++ "\n") else {}

def status (c : Console) (s : Status) (message : String) : Output :=
  if c.isJson || (c.isQuiet && s != .error) then {}
  else .err (c.heading s ++ " " ++ message ++ "\n")

def note (c : Console) (message : String) : Output := c.status .info message

def error (c : Console) (message : String) : Output :=
  if c.isJson then c.event (.obj [("message", .str message), ("reason", .str "error")])
  else c.status .error message

/-- Captured text, as it is but for a newline at its end. -/
def raw (c : Console) (text : String) : Output :=
  if c.isJson || text == "" then {} else .err (Text.endLine text)

inductive Call where
  | status (s : Status) (message : String)
  | note (message : String)
  | error (message : String)
  | raw (text : String)
  | event (j : Json)

def write (c : Console) : Call → Output
  | .status s message => c.status s message
  | .note message => c.note message
  | .error message => c.error message
  | .raw text => c.raw text
  | .event j => c.event j

end Console

end BuildMatrix
