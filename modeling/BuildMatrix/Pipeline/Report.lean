import BuildMatrix.Event

namespace BuildMatrix

inductive Outcome where
  | testRun (output : StageOutput)
  | skipped (skip : SkipReason)
  | failed (error : Error)
  deriving DecidableEq, Inhabited

structure Report where
  history : List State
  commands : List (Stage × String)
  outcome : Outcome
  buildDir : Path
  deriving DecidableEq, Inhabited

def Outcome.exitCode : Outcome → Int
  | testRun output => output.code
  | skipped _ => 0
  | failed error => error.exitCode

namespace Report

def state (r : Report) : State := r.history.getLast?.getD .created

def exitCode (r : Report) : Int := r.outcome.exitCode

def success (r : Report) : Bool := r.exitCode == 0

def commandsFor (r : Report) (stage : Stage) : List String :=
  (r.commands.filter (·.1 = stage)).map (·.2)

def ran (r : Report) (stage : Stage) : Bool := !(r.commandsFor stage).isEmpty

end Report

end BuildMatrix
