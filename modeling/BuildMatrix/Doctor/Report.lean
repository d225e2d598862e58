import BuildMatrix.Path

namespace BuildMatrix.Doctor

structure Check where
  name : String
  passed : Bool
  message : String
  path : Option Path := none
  version : Option String := none
  required : Bool := true
  deriving DecidableEq, Inhabited

structure Report where
  environment : List (String × String)
  checks : List Check
  deriving DecidableEq, Inhabited

namespace Report

def allRequiredPassed (r : Report) : Bool := (r.checks.filter (·.required)).all (·.passed)

def passedCount (r : Report) : Nat := r.checks.countP (·.passed)

def failedCount (r : Report) : Nat := r.checks.countP fun c ↦ !c.passed

def requiredFailedCount (r : Report) : Nat := r.checks.countP fun c ↦ c.required && !c.passed

def known (r : Report) (key : String) : String := (r.environment.lookup key).getD "unknown"

def environmentText (r : Report) : String :=
  "Environment:\n  OS: " ++ r.known "os" ++ " (" ++ r.known "arch" ++ ")\n" ++
    (match r.environment.lookup "build_root" with
      | some root => "  Build root: " ++ root ++ "\n"
      | none => "") ++ "\n"

def detailText (c : Check) : String :=
  "      " ++ c.message ++ "\n" ++
    (match c.path with
      | some p => "      Path: " ++ p.display ++ "\n"
      | none => "") ++
    match c.version with
    | some v => "      Version: " ++ v ++ "\n"
    | none => ""

def checkText (verbose : Bool) (c : Check) : String :=
  "  " ++ (if c.passed then "[OK]" else "[!!]") ++ " " ++ c.name ++
    (if c.required then "" else " (optional)") ++ "\n" ++
    if verbose then detailText c else ""

def verdictText (r : Report) : String :=
  if 0 < r.requiredFailedCount then
    "\nWarning: " ++ toString r.requiredFailedCount ++
      " required check(s) failed. The pipeline will not run.\n"
  else if 0 < r.failedCount then
    "\nAll required checks passed. " ++ toString r.failedCount ++
      " optional check(s) failed.\n"
  else "\nAll checks passed.\n"

def format (r : Report) (verbose : Bool) : String :=
  "psp-build doctor\n================\n\n" ++ (if verbose then r.environmentText else "") ++
    "Checks:\n" ++ String.join (r.checks.map (checkText verbose)) ++ "\nSummary: " ++
    toString r.passedCount ++ " passed, " ++ toString r.failedCount ++ " failed\n" ++
    r.verdictText

end Report

end BuildMatrix.Doctor
